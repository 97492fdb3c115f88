import GatewayPing.Input
import GatewayPing.Run

/-! From typed input to calls. A dispatcher holds the two transports and the configuration; the
mode is an argument of every operation. Operations end with a result and tell the user about it on
the way: bad news at once, good news about a single call after the configured delay. -/
namespace GatewayPing

/-- The transports and the configuration. -/
structure Dispatcher (τ : Type) where
  transports : TransportPair τ
  config : Config
  deriving Repr

/-- What becomes of a line of input. -/
inductive Outcome where
  /-- The line was blank. -/
  | ignored
  | pong (p : Pong)
  | streamed (received : Nat) (ending : Ending)
  deriving DecidableEq, Repr

/-- The notification about an input that is not what it should be. -/
def Expected.notice (e : Expected) : Notification := ⟨.danger, e.complaint⟩

/-- The refusal of an input that is not what it should be. -/
def OperationError.refuse {α : Type} (input : String) (expected : Expected) :
    Course (Except OperationError α) :=
  Course.ending 0 [expected.notice] (.error (.invalidInput input expected))

namespace Dispatcher

variable {τ : Type}

/-- The dispatcher after one of its transports changed. -/
def update (d : Dispatcher τ) (mode : Mode) (t : τ) : Dispatcher τ :=
  { d with transports := d.transports.update mode t }

theorem update_select (d : Dispatcher τ) (mode : Mode) :
    d.update mode (d.transports.select mode) = d := by
  cases mode <;> rfl

theorem update_update (d : Dispatcher τ) (mode : Mode) (t u : τ) :
    (d.update mode t).update mode u = d.update mode u := by
  cases mode <;> rfl

theorem select_update_same (d : Dispatcher τ) (mode : Mode) (t : τ) :
    (d.update mode t).transports.select mode = t := by
  simp [update]

/-- The course of a single call, from what comes of it. A pong is held back for a while; a failure
is not. -/
def unaryCourse (delay : Nat) :
    Eventual (Except CallError Pong) → Course (Except OperationError Pong)
  | .never => []
  | .after time (.ok p) => Course.ending (time + delay) [.ofPong p] (.ok p)
  | .after time (.error e) =>
    let f := Failure.ofCallError e
    Course.ending time [.ofStatus f.status] (.error (.failed f))

/-- Sends an input as the timestamp of a single call. An input that is no timestamp makes no
call. -/
def unary [Transport τ] (d : Dispatcher τ) (method : Method) (raw : String) (mode : Mode) :
    Course (Except OperationError Pong) × Dispatcher τ :=
  match Input.timestamp? raw with
  | none => (OperationError.refuse raw .timestamp, d)
  | some timestamp =>
    let (reply, t) :=
      Transport.unary (d.transports.select mode) method ⟨timestamp⟩ d.config.unaryHeaders
    (unaryCourse d.config.responseDelay.toNat reply, d.update mode t)

/-- Sends an input as the timestamp of the usual single call. -/
def ping [Transport τ] (d : Dispatcher τ) (raw : String) (mode : Mode) :
    Course (Except OperationError Pong) × Dispatcher τ :=
  d.unary .aPing raw mode

/-- Makes a session of an input, unless the input asks for no stream. -/
def newSession (d : Dispatcher τ) (id : RequestId) (raw : String) : Except OperationError Session :=
  match Input.stream? raw with
  | none => .error (.invalidInput raw .stream)
  | some s => .ok (.create s.count s.timestamp d.config id)

/-- Runs a session on the transport of a mode. -/
def runSession [Transport τ] (d : Dispatcher τ) (s : Session) (mode : Mode)
    (cancelAt : Option Moment) : Except OperationError Session.Run × Dispatcher τ :=
  let (run, t) := s.run (d.transports.select mode) cancelAt
  (run, d.update mode t)

theorem runSession_idle [Transport τ] {s : Session} (idle : s.state = .idle) (d : Dispatcher τ)
    (mode : Mode) (cancelAt : Option Moment) :
    d.runSession s mode cancelAt =
      (.ok ⟨s.started, (s.trace (d.transports.select mode) cancelAt).1⟩,
        d.update mode (s.trace (d.transports.select mode) cancelAt).2) := by
  rw [runSession, Session.run_idle idle]

theorem runSession_busy [Transport τ] {s : Session} (busy : s.state ≠ .idle) (d : Dispatcher τ)
    (mode : Mode) (cancelAt : Option Moment) :
    d.runSession s mode cancelAt = (.error .alreadyStarted, d) := by
  rw [runSession, Session.run_busy busy]
  exact Prod.ext rfl (update_select d mode)

/-- Makes a session of an input and runs it. The result is made of the session at its end and the
result of the run. -/
def stream {α : Type} [Transport τ] (d : Dispatcher τ) (id : RequestId) (raw : String)
    (mode : Mode) (result : Session → Ending → α) :
    Course (Except OperationError α) × Dispatcher τ :=
  match d.newSession id raw with
  | .error _ => (OperationError.refuse raw .stream, d)
  | .ok s =>
    match d.runSession s mode none with
    | (.error e, d) => (Course.ending 0 [] (.error e), d)
    | (.ok run, d) =>
      (run.session.course (fun s ending => ending.map (result s)) run.trace, d)

/-- Makes a session of an input and runs it; the result is the session. -/
def pingStream [Transport τ] (d : Dispatcher τ) (id : RequestId) (raw : String)
    (mode : Mode) : Course (Except OperationError Session) × Dispatcher τ :=
  d.stream id raw mode fun s _ => s

/-- Handles a line of input by its shape. Blank lines are ignored. -/
def handle [Transport τ] (d : Dispatcher τ) (id : RequestId) (raw : String) (mode : Mode) :
    Course (Except OperationError Outcome) × Dispatcher τ :=
  match Input.ofText raw with
  | .empty => (Course.ending 0 [] (.ok .ignored), d)
  | .unary text =>
    let (course, d) := d.ping text mode
    (course.map (·.map .pong), d)
  | .streaming text => d.stream id text mode fun s ending => .streamed s.received ending

end Dispatcher
end GatewayPing
