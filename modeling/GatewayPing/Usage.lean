import GatewayPing.Arguments
import GatewayPing.Report

/-! What the program says when it does not start: how it is used, which version it is, or what is
wrong with the command line. -/
namespace GatewayPing

/-- The name of the program and its version. -/
def versionText : String := "pingweb 0.1.0"

/-- How the program is used. -/
def usageText : String :=
  "Ping a gRPC gateway in text or binary mode

Usage: pingweb [OPTIONS] <COMMAND>

Commands:
  send <INPUT>  Send a single input, '<timestamp>' or '<count> <timestamp>'
  interactive   Read inputs from stdin, one per line; 'text:' or 'binary:' before
                an input picks the mode for that line only
  help          Print this message

Options:
      --url <URL>        Gateway URL (e.g. http://localhost:7070). Overrides the config file
      --config <CONFIG>  Path to a JSON config file
      --binary           Use binary mode (after the command)
      --method <METHOD>  Method for single timestamps (after 'send') [default: a-ping]
                         [possible values: a-ping, a-post, extra-ping, extra-post]
  -h, --help             Print help
  -V, --version          Print version"

/-- What is wrong with a command line. -/
def Refusal.text : Refusal → String
  | .help => usageText
  | .version => versionText
  | .nothingGiven => usageText
  | .missingCommand => "error: a command is required"
  | .missingInput => "error: an input is required"
  | .unknownArgument => "error: unexpected argument found"
  | .unknownCommand => "error: unrecognized command"
  | .repeated => "error: an option cannot be used multiple times"
  | .unwantedValue => "error: unexpected value for a flag"
  | .invalidValue => "error: an option has no value or an invalid one"

/-- What is seen of a program that does not start. What was asked for is output, all else is an
error. -/
def Refusal.report (r : Refusal) : Report :=
  if r.exitCode = 0 then ⟨[r.text], [], some 0⟩ else ⟨[], [r.text], some r.exitCode⟩

end GatewayPing
