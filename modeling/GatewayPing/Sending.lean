import GatewayPing.Program

/-! The program that sends one input, move by move. The operation of the input is polled, and what
it tells passes through a channel to the printer. Once the operation has ended the program waits for
the printer, and exits when nothing is left to print. Which move comes next, and when, is left open;
`Program.perform` makes them in one order. -/
namespace GatewayPing

namespace Operation

/-- Whether an operation ended well. -/
def Result.succeeded : Result → Bool
  | .pong r => r.isOk
  | .outcome r => r.isOk
  | .session r => r.isOk
  | .ending _ r => r.isOk

/-- The operation of an input that is sent. A timestamp goes to the chosen method, anything else is
handled by its shape. -/
def sending (id : RequestId) (input : String) (mode : Mode) (method : Method) : Operation :=
  match Input.ofText input with
  | .unary text => .unary method text mode
  | _ => .submit id input mode

end Operation

/-- Whether an operation ended well, if it has ended. -/
def Happening.verdict? (events : List (Happening Operation.Result)) : Option Bool :=
  events.findSome? fun
    | .notice _ => none
    | .finished result => some result.succeeded

namespace Sending

/-- How far the program is. -/
inductive Stage where
  /-- The operation is waited for. -/
  | awaiting
  /-- The printer is waited for. -/
  | closing (succeeded : Bool)
  | exited (succeeded : Bool)
  deriving DecidableEq, Repr

/-- What can happen next. -/
inductive Move where
  /-- The operation is polled at a time, or now if that time is past. -/
  | poll (time : Nat)
  /-- The printer takes a notification from the channel. -/
  | print
  | exit
  deriving DecidableEq, Repr

end Sending

/-- The program that sends one input at one moment. -/
structure Sending (τ : Type) where
  stage : Sending.Stage
  clock : Nat
  dispatcher : Dispatcher τ
  task : Task
  /-- The notifications on their way to the printer. -/
  channel : List Notification
  output : List String

namespace Sending

variable {τ : Type}

/-- The program before its first move. -/
def start (d : Dispatcher τ) (op : Operation) : Sending τ where
  stage := .awaiting
  clock := 0
  dispatcher := d
  task := ⟨op, .fresh⟩
  channel := []
  output := []

/-- Polls the operation, unless it has ended. -/
def poll [Transport τ] (s : Sending τ) (time : Nat) : Sending τ :=
  match s.stage with
  | .awaiting =>
    let now := max s.clock time
    let turn := s.task.poll now s.dispatcher
    { s with
      stage := (Happening.verdict? turn.events).elim .awaiting .closing
      clock := now
      dispatcher := turn.dispatcher
      task := turn.task
      channel := s.channel ++ Course.notices (turn.events.map (now, ·)) }
  | _ => s

/-- Prints the notification that is longest in the channel. -/
def print (colour : Bool) (s : Sending τ) : Sending τ :=
  match s.channel with
  | [] => s
  | n :: channel => { s with channel, output := s.output ++ [n.render colour] }

/-- Stops waiting for the printer, if nothing is left to print. -/
def exit (s : Sending τ) : Sending τ :=
  match s.stage, s.channel with
  | .closing succeeded, [] => { s with stage := .exited succeeded }
  | _, _ => s

def move [Transport τ] (colour : Bool) (s : Sending τ) : Move → Sending τ
  | .poll time => s.poll time
  | .print => s.print colour
  | .exit => s.exit

/-- The program after moves. -/
def after [Transport τ] (colour : Bool) (s : Sending τ) (moves : List Move) : Sending τ :=
  moves.foldl (move colour) s

/-- What is seen of the program. -/
def report (s : Sending τ) : Report where
  output := s.output
  errors := []
  exitCode :=
    match s.stage with
    | .exited succeeded => some (Program.exitCode succeeded)
    | _ => none

end Sending
end GatewayPing
