import GatewayPing.Program

/-! The interactive program, move by move. Lines are read one after the other, and the operation of
each is begun as soon as the line is there. Meanwhile operations are polled, and notifications pass
through a channel to the printer. Once no line is left, or one could not be read, the program waits
for all operations and then for the printer. Which move comes next is left open; `Program.perform`
makes them in one order. -/
namespace GatewayPing

namespace Board

variable {τ : Type}

/-- Lets time pass, whatever operations wait for. -/
def pass (b : Board τ) (time : Nat) : Board τ := { b with clock := max b.clock time }

/-- What the user is told at the poll of an operation. -/
def told [Transport τ] (b : Board τ) (task : Nat) : List Notification :=
  match b.tasks[task]? with
  | none => []
  | some t => Course.notices ((t.poll b.clock b.dispatcher).events.map (b.clock, ·))

/-- Whether all operations have ended. -/
def allOver (b : Board τ) : Bool := b.tasks.all (·.isOver)

end Board

namespace Console

/-- How far the program is. -/
inductive Stage where
  | reading
  /-- All operations are waited for. -/
  | joining (succeeded : Bool)
  /-- The printer is waited for. -/
  | closing (succeeded : Bool)
  | exited (succeeded : Bool)
  deriving DecidableEq, Repr

/-- What can happen next. -/
inductive Move where
  /-- The next line is read, or the end of the input, and the operation of the line is begun. -/
  | read
  | poll (task : Nat)
  | pass (time : Nat)
  /-- The printer takes a notification from the channel. -/
  | print
  | join
  | exit
  deriving DecidableEq, Repr

end Console

/-- The interactive program at one moment. -/
structure Console (τ : Type) where
  stage : Console.Stage
  /-- The lines that were not read yet, each with its newline. -/
  unread : List Bytes
  board : Board τ
  /-- The notifications on their way to the printer. -/
  channel : List Notification
  output : List String
  errors : List String

namespace Console

variable {τ : Type}

/-- The program before its first move. -/
def start (d : Dispatcher τ) (input : Bytes) : Console τ where
  stage := .reading
  unread := Text.cutLines input
  board := .start d []
  channel := []
  output := []
  errors := []

/-- Reads a line. The first line that is no text is the last that is read. -/
def readLine (place : Surroundings) (default : Mode) (c : Console τ) : Console τ :=
  match c.stage, c.unread with
  | .reading, [] => { c with stage := .joining true }
  | .reading, line :: unread =>
    match Text.Utf8.decode line with
    | .ok text =>
      let line := String.ofList (Text.withoutEnd text.toList)
      let id := place.ids c.board.tasks.length
      { c with unread, board := c.board.spawn (Program.lineOperation id default line) }
    | .error fault =>
      { c with
        stage := .joining false
        errors := c.errors ++ [failureText place.colour "Failed to read stdin" fault.message] }
  | _, _ => c

/-- Polls an operation. What it tells goes into the channel. -/
def poll [Transport τ] (c : Console τ) (task : Nat) : Console τ :=
  { c with board := c.board.poll task, channel := c.channel ++ c.board.told task }

/-- Prints the notification that is longest in the channel. -/
def print (colour : Bool) (c : Console τ) : Console τ :=
  match c.channel with
  | [] => c
  | n :: channel => { c with channel, output := c.output ++ [n.render colour] }

/-- Stops waiting for the operations, if all of them have ended. -/
def join (c : Console τ) : Console τ :=
  match c.stage with
  | .joining succeeded => if c.board.allOver then { c with stage := .closing succeeded } else c
  | _ => c

/-- Stops waiting for the printer, if nothing is left to print and nobody is left to tell
anything. -/
def exit (c : Console τ) : Console τ :=
  match c.stage, c.channel with
  | .closing succeeded, [] =>
    if c.board.allOver then { c with stage := .exited succeeded } else c
  | _, _ => c

def move [Transport τ] (place : Surroundings) (default : Mode) (c : Console τ) :
    Move → Console τ
  | .read => c.readLine place default
  | .poll task => c.poll task
  | .pass time => { c with board := c.board.pass time }
  | .print => c.print place.colour
  | .join => c.join
  | .exit => c.exit

/-- The program after moves. -/
def after [Transport τ] (place : Surroundings) (default : Mode) (c : Console τ)
    (moves : List Move) : Console τ :=
  moves.foldl (move place default) c

/-- What is seen of the program. -/
def report (c : Console τ) : Report where
  output := c.output
  errors := c.errors
  exitCode :=
    match c.stage with
    | .exited succeeded => some (Program.exitCode succeeded)
    | _ => none

end Console
end GatewayPing
