import GatewayPing.Arguments
import GatewayPing.Concurrent
import GatewayPing.Dispatcher
import GatewayPing.Line
import GatewayPing.Report
import GatewayPing.Text.Lines

/-! The program. It finds its configuration and looks at the address; where that fails it says so
and makes no call. Then it handles one input, or each line that it reads. What the user is told
about calls is printed in the order in which it comes up; what keeps the program from working is
printed apart from that. The exit code tells whether all went well. -/
namespace GatewayPing

/-- What the program finds where it runs. -/
structure Surroundings where
  /-- Whether to print in colours. -/
  colour : Bool
  /-- What stands at a path. -/
  file : String → Config.File
  /-- The path at which the user keeps a configuration, if there is such a place. -/
  userConfig : Option String
  /-- All that can be read from standard input. -/
  input : Bytes
  /-- The identifiers for streams, in the order in which they are used. -/
  ids : Nat → RequestId
  /-- The order in which operations that run side by side get their turns. -/
  schedule : Concurrent.Schedule

/-- A run of the program: what was seen of it, and the dispatcher at its end if it came so far as
to make one. -/
structure Execution (τ : Type) where
  report : Report
  dispatcher : Option (Dispatcher τ)
  deriving Repr

/-- The two clients of a service, with the time limit of a configuration. -/
def TransportPair.ofService {σ : Type} (service : σ) (config : Config) : TransportPair (Client σ) :=
  let timeout := config.timeout.map UInt64.toNat
  ⟨⟨service, .text, timeout⟩, ⟨service, .binary, timeout⟩⟩

namespace Program

/-- Why the program gives up before any call. -/
inductive StartError where
  /-- The configuration that was asked for was not loaded. -/
  | config (e : Config.LoadError)
  /-- The configuration of the user was not loaded. -/
  | userConfig (e : Config.LoadError)
  | address (e : BadAddress)
  deriving Repr

/-- A failure to load and its cause, which is named once more. -/
def loadChain (e : Config.LoadError) : String := s!"{e.message}: {e.cause}"

/-- The failure as it is printed. -/
def StartError.render (colour : Bool) : StartError → String
  | .config e => failureText colour "Failed to load config" (loadChain e)
  | .userConfig e =>
    failureText colour "Failed to load config"
      s!"Could not read the user config file: {loadChain e}"
  | .address e => e.render colour

/-- The configuration in effect. A file that was asked for has to be there, and then the user's own
is not looked at; the user's own is taken if there is one. An address that was asked for takes the
place of the configured one, once a configuration is loaded. -/
def configuration (place : Surroundings) (args : Arguments) : Except StartError Config := do
  let config ← match args.config, place.userConfig with
    | some path, _ => (Config.load path (place.file path)).mapError .config
    | none, some path => (Config.loadIfPresent path (place.file path)).mapError .userConfig
    | none, none => .ok Config.default
  .ok { config with endpoint := args.url.getD config.endpoint }

/-- All that comes before the first call: the configuration in effect and its address. -/
def start (place : Surroundings) (args : Arguments) : Except StartError (Config × Endpoint) := do
  let config ← configuration place args
  match Endpoint.read config.endpoint with
  | .ok endpoint => .ok (config, endpoint)
  | .error fault => .error (.address ⟨config.endpoint, fault⟩)

/-- The exit code of a program that did its work. -/
def exitCode (succeeded : Bool) : UInt32 := if succeeded then 0 else 1

/-- Notifications as they are printed. -/
def printed (colour : Bool) (notices : List Notification) : List String :=
  notices.map (·.render colour)

variable {τ : Type}

/-- Sends one input. A timestamp goes to the chosen method, anything else is handled by its shape.
-/
def send [Transport τ] (d : Dispatcher τ) (id : RequestId) (input : String) (mode : Mode)
    (method : Method) : Course (Except OperationError Outcome) × Dispatcher τ :=
  match Input.ofText input with
  | .unary text =>
    let (course, d) := d.unary method text mode
    (course.map (·.map .pong), d)
  | _ => d.handle id input mode

/-- What a line asks for. It may name its mode. -/
def lineOperation (id : RequestId) (default : Mode) (line : String) : Operation :=
  let line := Line.read default line
  .submit id line.input line.mode

/-- Handles lines. No line waits for the outcome of another. -/
def handleLines [Transport τ] (place : Surroundings) (default : Mode) (d : Dispatcher τ)
    (lines : List String) : Board τ :=
  let ops := lines.zipIdx.map fun (line, i) => lineOperation (place.ids i) default line
  (Board.start d ops).run place.schedule 0

/-- What is seen of one operation. The program fails if the operation does. -/
def reportSend {α : Type} (colour : Bool) (course : Course (Except OperationError α)) : Report where
  output := printed colour course.notices
  errors := []
  exitCode := course.result?.map fun (_, result) => exitCode result.isOk

/-- What is seen of operations that run side by side. How they end is no matter; the program fails
if there was a line that could not be read, but not before all operations have ended. -/
def reportLines (colour : Bool) (fault : Option Text.Utf8.Fault) (b : Board τ) : Report where
  output := printed colour b.sink
  errors := fault.toList.map fun f => failureText colour "Failed to read stdin" f.message
  exitCode := if b.tasks.all (·.isOver) then some (exitCode fault.isNone) else none

/-- Carries out a command. -/
def perform [Transport τ] (place : Surroundings) (d : Dispatcher τ) :
    Command → Report × Dispatcher τ
  | .send input mode method =>
    let (course, d) := send d (place.ids 0) input mode method
    (reportSend place.colour course, d)
  | .interactive mode =>
    let lines := Text.Lines.ofBytes place.input
    let b := handleLines place mode d lines.texts
    (reportLines place.colour lines.fault b, b.dispatcher)

/-- Runs the program with an accepted command line. `connect` makes the transports to the address of
a configuration. -/
def run [Transport τ] (connect : Config → Endpoint → TransportPair τ) (place : Surroundings)
    (args : Arguments) : Execution τ :=
  match start place args with
  | .error e => ⟨⟨[], [e.render place.colour], some (exitCode false)⟩, none⟩
  | .ok (config, endpoint) =>
    let (report, d) := perform place ⟨connect config endpoint, config⟩ args.command
    ⟨report, some d⟩

end Program
end GatewayPing
