import GatewayPing.Config
import GatewayPing.Course
import GatewayPing.Failure
import GatewayPing.Gateway
import GatewayPing.RequestId
import GatewayPing.Transport

/-! Sessions. A session is one stream of bounded length. It is created idle, streams once it is run,
and is done when the stream ends, fails or is cancelled; there is no way back.

What happens to a running session is written down as a trace: a timeline of pongs that stops with
the end of the session. Session, notifications and result all follow from the trace. -/
namespace GatewayPing

/-- How a session ends. -/
inductive Ending where
  | completed
  | failed (s : Status)
  | cancelled
  deriving DecidableEq, Repr

/-- Where a session is in its life. -/
inductive Phase where
  | idle
  | streaming
  | done (ending : Ending)
  deriving DecidableEq, Repr

/-- A stream: what is asked for, and what has come of it. -/
structure Session where
  request : StreamPing
  headers : Headers
  state : Phase
  /-- The number of pongs that have arrived. -/
  received : Nat
  /-- Whether the session was told to stop. -/
  cancelled : Bool
  deriving DecidableEq, Repr

/-- How a run ends. -/
inductive RunEnd where
  | completed
  | cancelled
  | failed (f : Failure)
  deriving DecidableEq, Repr

/-- What happens to a running session. -/
inductive SessionEvent where
  | pong (p : StreamPong)
  | ended (e : RunEnd)
  deriving DecidableEq, Repr

/-- What happens during a run, from its start on. -/
abbrev Trace := Timeline SessionEvent

namespace RunEnd

/-- The end of the session. -/
def sessionEnd : RunEnd → Ending
  | .completed => .completed
  | .cancelled => .cancelled
  | .failed f => .failed f.status

/-- The result of the run. -/
def result : RunEnd → Except OperationError Ending
  | .completed => .ok .completed
  | .cancelled => .ok .cancelled
  | .failed f => .error (.failed f)

/-- What the user is told: of a failure once, of any other end nothing. -/
def notices : RunEnd → List Notification
  | .failed f => [.ofStatus f.status]
  | _ => []

end RunEnd

/-- What the user is told of an event. -/
def SessionEvent.notices : SessionEvent → List Notification
  | .pong p => [.ofStreamPong p]
  | .ended e => e.notices

namespace Session

/-- The greatest count or interval that a request can carry. -/
def maxRequestValue : Nat := 0x7FFFFFFF

/-- A number in a request; a greater one becomes the greatest possible. -/
def clamped (n : UInt32) : Int32 := Int32.ofNat (min n.toNat maxRequestValue)

/-- A new session. No more messages are asked for than the configuration allows, and the identifier
goes after the configured headers. -/
def create (count : UInt32) (timestamp : Int64) (config : Config) (id : RequestId) : Session where
  request := ⟨timestamp, clamped (min count config.maxStreamMessages),
    clamped config.messageInterval⟩
  headers := config.streamingHeaders ++ [(Gateway.identityHeader, id.text)]
  state := .idle
  received := 0
  cancelled := false

/-- A session that waits to be run: nothing has arrived yet. -/
structure Idle (s : Session) : Prop where
  state : s.state = .idle
  received : s.received = 0

theorem create_idle (count : UInt32) (timestamp : Int64) (config : Config) (id : RequestId) :
    (create count timestamp config id).Idle := ⟨rfl, rfl⟩

/-- Tells a session to stop. -/
def cancel (s : Session) : Session := { s with cancelled := true }

/-- A session after an event. -/
def apply (s : Session) : SessionEvent → Session
  | .pong _ => { s with received := s.received + 1 }
  | .ended e =>
    { s with state := .done e.sessionEnd, cancelled := s.cancelled || e == .cancelled }

/-- A session after all events of a trace. -/
def after (s : Session) (trace : Trace) : Session := trace.foldl (fun s e => s.apply e.2) s

/-- The session once it is run. -/
def started (s : Session) : Session := { s with state := .streaming }

/-- The course of a running session. The result of the operation is made of the session at its end
and the result of the run. -/
def course {α : Type} (s : Session) (result : Session → Except OperationError Ending → α) :
    Trace → Course α
  | [] => []
  | (time, .pong p) :: trace =>
    (time, .notice (.ofStreamPong p)) :: course (s.apply (.pong p)) result trace
  | (time, .ended e) :: _ => Course.ending time e.notices (result (s.apply (.ended e)) e.result)

end Session
end GatewayPing
