import GatewayPing.Environment
import GatewayPing.Program
import GatewayPing.Unreachable
import GatewayPing.Usage

/-! The command line program. Command line, environment, files, standard input and random numbers
are those of the system. There is no network here: no address is ever reached, and every call ends
accordingly. -/
namespace GatewayPing

/-- What stands at a path of the file system. -/
def fileAt (path : String) : IO Config.File := do
  try
    let contents ← IO.FS.readBinFile path
    return .contents contents.toList
  catch
    | .inappropriateType _ code _ => return if code = 21 then .directory else .insideFile
    | .permissionDenied _ _ _ => return .denied
    | _ => return .missing

/-- Reads a stream to its end. -/
partial def readAll (stream : IO.FS.Stream) (read : ByteArray) : IO ByteArray := do
  let chunk ← stream.read 65536
  if chunk.isEmpty then return read else readAll stream (read ++ chunk)

/-- The values of the environment variables that matter. -/
def environment : IO Environment := do
  let names := ["CLICOLOR_FORCE", "NO_COLOR", "CLICOLOR", "XDG_CONFIG_HOME", "HOME"]
  let values ← names.mapM fun name => return (name, ← IO.getEnv name)
  return fun name => (values.lookup name).join

/-- What the program finds, as far as its command line makes it look. -/
def surroundings (args : Arguments) : IO Surroundings := do
  let vars ← environment
  let userConfig := vars.userConfig?
  let file ← match args.config.or userConfig with
    | some path => fileAt path
    | none => pure .missing
  let input ← match args.command with
    | .interactive _ => readAll (← IO.getStdin) .empty
    | .send .. => pure .empty
  let random ← IO.getRandomBytes 16
  let seed := random.toList.foldl (fun n b => n * 256 + b.toNat) 0
  return {
    colour := vars.colour (← (← IO.getStdout).isTty)
    file := fun _ => file
    userConfig
    input := input.toList
    ids := fun i => ⟨seed + i⟩
    schedule := .ascending }

/-- Runs the program for a command line. -/
def report (args : List String) : IO Report := do
  match Arguments.read args with
  | .error refusal => return refusal.report
  | .ok args =>
    let connect (config : Config) (endpoint : Endpoint) : TransportPair (Client Unreachable) :=
      .ofService ⟨endpoint⟩ config
    return (Program.run connect (← surroundings args) args).report

end GatewayPing

def main (args : List String) : IO UInt32 := do
  let report ← GatewayPing.report args
  for line in report.output do IO.println line
  for line in report.errors do IO.eprintln line
  return report.exitCode.getD 1
