import GatewayPing.Dispatcher
import Mathlib.Data.List.Forall2

/-! What the user reads. The words of every notification stand here, and the code and the message
under which each failure is reported, and what a terminal gets of a notification: all of it apart
from the program, which says the same (`StreamPong.told_eq`, `Failure.told_eq`) and prints it so
(`Notification.line_render`). -/
namespace GatewayPing

/-! Words. -/

/-- Good news: a timestamp came back, and the name of the service that sent it. -/
def Notification.good (timestamp : Int64) (name : String) : Notification :=
  ⟨.success, s!"Resp: {timestamp.toInt} - {name}"⟩

/-- Bad news: the number of a code and a message. -/
def Notification.alarm (code : Nat) (message : String) : Notification :=
  ⟨.danger, s!"Error code: {code} \"{message}\""⟩

/-- What the user is told of a pong. -/
def Pong.told (p : Pong) : Notification := .good p.timestamp p.serviceName

@[inherit_doc Pong.told]
def StreamPong.told (p : StreamPong) : Notification := .good p.timestamp p.serviceName

theorem Pong.told_eq (p : Pong) : .ofPong p = p.told := rfl

theorem StreamPong.told_eq (p : StreamPong) : .ofStreamPong p = p.told := rfl

/-- What the user is told of an input that is not what it should be. -/
def Expected.told : Expected → Notification
  | .timestamp => ⟨.danger, "Error: timestamp invalid format"⟩
  | .stream => ⟨.danger, "Error: stream input invalid format"⟩

/-- The codes in the order of their numbers, from zero on. -/
def Code.inOrder : List Code :=
  [.ok, .cancelled, .unknown, .invalidArgument, .deadlineExceeded, .notFound, .alreadyExists,
    .permissionDenied, .resourceExhausted, .failedPrecondition, .aborted, .outOfRange,
    .unimplemented, .internal, .unavailable, .dataLoss, .unauthenticated]

private theorem Code.number_eq (c : Code) : c.number = inOrder.idxOf c := by
  cases c <;> rfl

namespace Failure

/-- The code and the message under which a failure is reported. A status is passed on. -/
def reported : Failure → Status
  | .unsent (.notReady reason) =>
    ⟨.unavailable, s!"Internal error, the client was not ready: '{reason}'"⟩
  | .unsent (.invalidKey key) =>
    ⟨.internal, s!"Invalid metadata (header) key '{key}': 'invalid gRPC metadata key name'"⟩
  | .unsent (.invalidValue key) =>
    ⟨.internal,
      s!"Invalid metadata (header) value for key '{key}': 'failed to parse metadata value'"⟩
  | .rejected s => s
  | .broken s => s

/-- The number of that code. -/
def number : Failure → Nat
  | .unsent (.notReady _) => 14
  | .unsent _ => 13
  | .rejected s => Code.inOrder.idxOf s.code
  | .broken s => Code.inOrder.idxOf s.code

/-- What the user is told of a failure. -/
def told (f : Failure) : Notification := .alarm f.number f.reported.message

theorem reported_eq (f : Failure) : f.status = f.reported := by
  cases f with
  | unsent e => cases e <;> rfl
  | _ => rfl

private theorem number_eq (f : Failure) : f.status.code.number = f.number := by
  cases f with
  | unsent e => cases e <;> rfl
  | _ => exact Code.number_eq _

theorem told_eq (f : Failure) : .ofStatus f.status = f.told := by
  rw [told, ← number_eq, ← reported_eq]
  rfl

end Failure

theorem Expected.told_eq (e : Expected) : e.notice = e.told := by
  cases e <;> rfl

/-! Print. -/

/-- What switches the colour of good or bad news on: green, or bold and red. -/
def Severity.colour : Severity → List Char
  | .success => "\x1b[32m".toList
  | .danger => "\x1b[1;31m".toList

/-- What switches all colours off. -/
def colourless : List Char := "\x1b[0m".toList

/-- A text as it is seen in a colour that was switched on before: wherever the text switches colours
off, this one is switched on again. -/
inductive Recoloured (colour : List Char) : List Char → List Char → Prop where
  | plain {text : List Char} (free : ¬ colourless <:+: text) : Recoloured colour text text
  | again (before : List Char) {text seen : List Char} (free : ¬ colourless <:+: before)
      (later : Recoloured colour text seen) :
      Recoloured colour (before ++ colourless ++ text) (before ++ colourless ++ colour ++ seen)

/-- A line of the output that is a notification: the bare message, or the message in its colour. -/
inductive Notification.Line : Bool → Notification → String → Prop where
  | bare (n : Notification) : Line false n n.message
  | coloured {n : Notification} {seen : List Char}
      (inside : Recoloured n.severity.colour n.message.toList seen) :
      Line true n (String.ofList (n.severity.colour ++ seen ++ colourless))

/-- The output is the lines of some notifications, in their order. -/
def Notification.Lines (colour : Bool) (notices : List Notification) (output : List String) : Prop :=
  List.Forall₂ (Line colour) notices output

namespace Recoloured

variable {colour text seen : List Char}

/-- A character with which colours are not switched off stays as it is. -/
theorem cons {c : Char} (other : ¬ colourless <+: c :: text)
    (later : Recoloured colour text seen) : Recoloured colour (c :: text) (c :: seen) := by
  cases later with
  | plain free => exact .plain fun inside => (List.infix_cons_iff.mp inside).elim other free
  | @again before text seen free later =>
    refine .again (c :: before) (fun inside => ?_) later
    rcases List.infix_cons_iff.mp inside with here | further
    · refine other (here.trans ?_)
      exact ⟨colourless ++ text, by simp⟩
    · exact free further

end Recoloured

/-- The program switches the colour on again wherever it has to. -/
theorem recoloured_afterResets (colour text : List Char) :
    Recoloured colour text (Text.afterResets colour text) := by
  fun_induction Text.afterResets colour text with
  | case1 rest ih => exact .again [] (by decide) ih
  | case2 c rest other ih =>
    refine .cons (fun here => ?_) ih
    obtain ⟨tail, same⟩ := here
    cases same
    exact other tail rfl rfl
  | case3 => exact .plain (by decide)

namespace Notification

/-- The program prints a notification as a line. -/
theorem line_render (colour : Bool) (n : Notification) : Line colour n (n.render colour) := by
  cases colour with
  | false => exact .bare n
  | true =>
    obtain ⟨severity, message⟩ := n
    cases severity <;> exact .coloured (recoloured_afterResets _ _)

theorem lines_render (colour : Bool) (notices : List Notification) :
    Lines colour notices (notices.map (·.render colour)) :=
  List.forall₂_map_right_iff.mpr (List.forall₂_same.mpr fun n _ => line_render colour n)

end Notification
end GatewayPing
