import GatewayPing.Proofs.Concurrent.Alone
import GatewayPing.Proofs.Concurrent.Steady
import GatewayPing.Proofs.Input.Grammar
import GatewayPing.Proofs.Session.Cancellation

/-! Orders, carried out one after the other. A caller asks a dispatcher for single calls and streams,
keeps the sessions that it opened, runs them, runs them again and tells them to stop (`Flow.perform`).
What a single order comes to is settled here (`Flow.complete_obeys`): the call that it asks for is
made, once and in its mode, and nothing else; bad news is told once if the order fails, and good news
once for each pong. -/
namespace GatewayPing

open Operation (Result)

/-- What a caller asks of a dispatcher. It refers to the sessions that it keeps by their place. -/
inductive Order where
  | ping (raw : String) (mode : Mode)
  | unary (method : Method) (raw : String) (mode : Mode)
  | submit (id : RequestId) (raw : String) (mode : Mode)
  | pingStream (id : RequestId) (raw : String) (mode : Mode)
  /-- Makes a session of an input and keeps it. -/
  | openStream (id : RequestId) (raw : String)
  /-- Makes a session without a dispatcher, and keeps it. -/
  | newSession (id : RequestId) (count : UInt32) (timestamp : Int64) (config : Config)
  /-- Runs a session that was kept, whatever has become of it; it may be told to stop meanwhile. -/
  | runStream (place : Nat) (mode : Mode) (cancelAt : Option Moment)
  | cancel (place : Nat)
  deriving DecidableEq, Repr

/-- A dispatcher and the sessions that were made with it. -/
structure Flow (τ : Type) where
  dispatcher : Dispatcher τ
  /-- The sessions that the caller keeps. -/
  sessions : List Session
  /-- The sessions that operations have made for themselves. -/
  spent : List Session
  deriving Repr

namespace Flow

variable {τ : Type}

/-- A dispatcher that was not used yet. -/
def start (d : Dispatcher τ) : Flow τ := ⟨d, [], []⟩

/-- The session that an operation makes for itself, as it is left by its run. -/
def ownSession? [Transport τ] (op : Operation) (d : Dispatcher τ) : Option Session :=
  match op.plan d with
  | .stream s => some (d.sessionAfter s op.mode)
  | _ => none

/-- Carries out an operation. -/
def operate [Transport τ] (f : Flow τ) (op : Operation) : Course Result × Flow τ :=
  let (course, d) := op.alone f.dispatcher
  (course, { f with
    dispatcher := d
    spent := f.spent ++ (ownSession? op f.dispatcher).toList })

/-- Keeps a session. -/
def keep (f : Flow τ) (s : Session) : Course Result × Flow τ :=
  (Course.ending 0 [] (.session (.ok s)), { f with sessions := f.sessions ++ [s] })

/-- Runs the session at a place. -/
def run [Transport τ] (f : Flow τ) (place : Nat) (s : Session) (mode : Mode)
    (cancelAt : Option Moment) : Course Result × Flow τ :=
  match f.dispatcher.runSession s mode cancelAt with
  | (.error e, d) => (Course.ending 0 [] (.ending s (.error e)), { f with dispatcher := d })
  | (.ok run, d) =>
    (run.session.course .ending run.trace,
      { f with dispatcher := d, sessions := f.sessions.set place run.final })

/-- Carries out an order. One that refers to a session that there is not comes to nothing. -/
def perform [Transport τ] (f : Flow τ) : Order → Course Result × Flow τ
  | .ping raw mode => f.operate (.ping raw mode)
  | .unary method raw mode => f.operate (.unary method raw mode)
  | .submit id raw mode => f.operate (.submit id raw mode)
  | .pingStream id raw mode => f.operate (.pingStream id raw mode)
  | .openStream id raw =>
    match f.dispatcher.newSession id raw with
    | .error _ => ((OperationError.refuse raw .stream).map .session, f)
    | .ok s => f.keep s
  | .newSession id count timestamp config => f.keep (.create count timestamp config id)
  | .runStream place mode cancelAt =>
    match f.sessions[place]? with
    | none => ([], f)
    | some s => f.run place s mode cancelAt
  | .cancel place =>
    match f.sessions[place]? with
    | none => ([], f)
    | some s =>
      (Course.ending 0 [] (.session (.ok s.cancel)),
        { f with sessions := f.sessions.set place s.cancel })

/-- An order that was carried out to its end. -/
structure Entry (τ : Type) where
  before : Flow τ
  order : Order
  notices : List Notification
  result : Result

/-- Carries out an order to its end, if it has one. -/
def complete [Transport τ] (f : Flow τ) (order : Order) : Option (Entry τ × Flow τ) :=
  (f.perform order).1.result?.map fun r =>
    (⟨f, order, (f.perform order).1.notices, r.2⟩, (f.perform order).2)

/-- Carries out orders to their ends, one after the other. -/
def completeAll [Transport τ] (f : Flow τ) : List Order → Option (List (Entry τ) × Flow τ)
  | [] => some ([], f)
  | order :: orders =>
    (f.complete order).bind fun first =>
      (first.2.completeAll orders).map fun rest => (first.1 :: rest.1, rest.2)

/-- The number of pongs that some sessions have received together. -/
def pongs (sessions : List Session) : Nat := sessions.foldr (fun s n => s.received + n) 0

/-- The sessions that were run, to their end or not. -/
def ran (f : Flow τ) : List Session := (f.sessions ++ f.spent).filter (·.state ≠ .idle)

/-- The number of pongs that all sessions have received. -/
def received (f : Flow τ) : Nat := pongs (f.sessions ++ f.spent)

end Flow

/-! The call that an order asks for. -/

namespace Session

/-- The call that a run of a session makes: only an idle session makes one, and only if it is not
told to stop before the run begins. -/
def call? (s : Session) (cancelAt : Option Moment) : Option Call :=
  if s.state = .idle && !s.cancelled && cancelAt.all (·.follows 0) then
    some (.stream s.request s.headers)
  else none

end Session

namespace Dispatcher

variable {τ : Type}

/-- The single call that an input asks for: the input has to be a timestamp. -/
def unaryCall? (d : Dispatcher τ) (method : Method) (raw : String) : Option Call :=
  (Input.timestamp? raw).map fun t => .unary method ⟨t⟩ d.config.unaryHeaders

/-- The stream that an input asks for: the input has to be a count and a timestamp. -/
def streamCall? (d : Dispatcher τ) (id : RequestId) (raw : String) : Option Call :=
  (Input.stream? raw).bind fun s => (Session.create s.count s.timestamp d.config id).call? none

end Dispatcher

/-- The mode in which an order is issued. Sessions are made without one. -/
def Order.mode? : Order → Option Mode
  | .ping _ mode => some mode
  | .unary _ _ mode => some mode
  | .submit _ _ mode => some mode
  | .pingStream _ _ mode => some mode
  | .runStream _ mode _ => some mode
  | _ => none

/-- The call that an order asks for, and its mode. -/
def Flow.call? {τ : Type} (f : Flow τ) : Order → Option (Mode × Call)
  | .ping raw mode => (f.dispatcher.unaryCall? .aPing raw).map (mode, ·)
  | .unary method raw mode => (f.dispatcher.unaryCall? method raw).map (mode, ·)
  | .submit id raw mode =>
    ((f.dispatcher.unaryCall? .aPing raw).or (f.dispatcher.streamCall? id raw)).map (mode, ·)
  | .pingStream id raw mode => (f.dispatcher.streamCall? id raw).map (mode, ·)
  | .runStream place mode cancelAt =>
    ((f.sessions[place]?).bind (·.call? cancelAt)).map (mode, ·)
  | _ => none

/-- A transport after a call. -/
def Transport.receive {τ : Type} [Transport τ] (t : τ) : Call → τ
  | .unary method ping headers => (Transport.unary t method ping headers).2
  | .stream ping headers => (Transport.stream t ping headers).2

/-- A dispatcher after a call reached one of its transports. -/
def Dispatcher.receive {τ : Type} [Transport τ] (d : Dispatcher τ) (c : Mode × Call) :
    Dispatcher τ :=
  d.update c.1 (Transport.receive (d.transports.select c.1) c.2)

namespace Operation.Result

/-- The error that an operation ends with. -/
def error? : Result → Option OperationError
  | .pong (.error e) => some e
  | .outcome (.error e) => some e
  | .session (.error e) => some e
  | .ending _ (.error e) => some e
  | _ => none

/-- Whether an operation fails. To be turned away because a session was run before is no failure. -/
def fails (r : Result) : Bool :=
  match r.error? with
  | none => false
  | some e => e ≠ .alreadyStarted

/-- Whether an operation ends with the answer to a single call. -/
def isPong : Result → Bool
  | .pong (.ok _) => true
  | .outcome (.ok (.pong _)) => true
  | _ => false

private theorem isPong_of_error {r : Result} {e : OperationError} (error : r.error? = some e) :
    r.isPong = false := by
  unfold isPong
  split
  · cases error
  · cases error
  · rfl

end Operation.Result

/-! What is told. -/

namespace Course

variable {α : Type} (time : Nat) (notices : List Notification) (result : α)

theorem ending_notices : (ending time notices result).notices = notices := by
  induction notices with
  | nil => rfl
  | cons n notices ih => exact congrArg (n :: ·) ih

theorem ending_result? : (ending time notices result).result? = some (time, result) := by
  induction notices with
  | nil => rfl
  | cons n notices ih => exact ih

end Course

/-- What an operation tells agrees with its end. Its session, if it has one, has received some
pongs. -/
structure Settles (notices : List Notification) (r : Result) (pongs : Nat) : Prop where
  /-- There is bad news if and only if the operation fails, and then once. -/
  alarms : notices.countP (·.severity == .danger) = if r.fails then 1 else 0
  good : notices.countP (·.severity == .success) = pongs + if r.isPong then 1 else 0

namespace Settles

variable {τ : Type} [Transport τ] {op : Operation}

private theorem ofPong_ok (p : Pong) : Settles [.ofPong p] (op.ofPong (.ok p)) 0 := by
  cases op <;> exact ⟨rfl, rfl⟩

private theorem ofPong_failed (f : Failure) :
    Settles [.ofStatus f.status] (op.ofPong (.error (.failed f))) 0 := by
  cases op <;> exact ⟨rfl, rfl⟩

private theorem unary {delay time : Nat} {reply : Eventual (Except CallError Pong)}
    {x : Except OperationError Pong}
    (ended : (Dispatcher.unaryCourse delay reply).result? = some (time, x)) :
    Settles (Dispatcher.unaryCourse delay reply).notices (op.ofPong x) 0 := by
  cases reply with
  | never => cases ended
  | after due reply =>
    cases reply with
    | ok p =>
      cases ended
      exact ofPong_ok p
    | error e =>
      cases ended
      exact ofPong_failed (.ofCallError e)

/-- What is told of a run agrees with its end. -/
theorem course {result : Session → Except OperationError Ending → Result}
    (fails : ∀ s x, (result s x).fails = (Result.ending s x).fails)
    (quiet : ∀ s x, (result s x).isPong = false) (s : Session) {start time : Nat} {trace : Trace}
    (orderly : trace.Orderly start) {r : Result}
    (ended : (s.course result trace).result? = some (time, r)) :
    Settles (s.course result trace).notices r trace.pongs.length := by
  have good (p : Nat × StreamPong) : p.2.told.severity = .success := rfl
  rw [Session.course_result? s result orderly, Option.map_eq_some_iff] at ended
  obtain ⟨⟨finish, e⟩, last, rfl, rfl⟩ := ended
  rw [Session.course_notices s result orderly, last]
  constructor
  case alarms =>
    rw [fails]
    cases e <;> simp [List.countP_map, Function.comp_def, good, RunEnd.notices, RunEnd.result,
      Result.fails, Result.error?, Notification.ofStatus]
  case good =>
    rw [quiet]
    cases e <;> simp [List.countP_map, Function.comp_def, good, RunEnd.notices,
      Notification.ofStatus]

theorem refused (e : Expected) {raw : String} {r : Result}
    (error : r.error? = some (.invalidInput raw e)) : Settles [e.notice] r 0 := by
  refine ⟨?_, ?_⟩
  · simp [Result.fails, error, Expected.notice]
  · rw [Operation.Result.isPong_of_error error]
    rfl

theorem turnedAway {r : Result} (error : r.error? = some .alreadyStarted) : Settles [] r 0 := by
  refine ⟨?_, ?_⟩
  · simp [Result.fails, error]
  · rw [Operation.Result.isPong_of_error error]
    rfl

theorem kept (s : Session) : Settles [] (.session (.ok s)) 0 := ⟨rfl, rfl⟩

end Settles

/-! Runs of sessions. -/

namespace Session

variable {τ : Type} [Transport τ] {s : Session} {t : τ} {cancelAt : Option Moment}

/-- A run uses its transport for the call that it makes, and for nothing else. -/
theorem trace_receive (idle : s.state = .idle) :
    (s.trace t cancelAt).2 = (s.call? cancelAt).elim t (Transport.receive t) := by
  have none_of (stopped : s.cancelled = true ∨ ∃ m ∈ cancelAt, m.follows 0 = false) :
      s.call? cancelAt = none := by
    rcases stopped with told | ⟨m, given, late⟩
    · simp [call?, told]
    · simp [call?, show cancelAt = some m from given, late]
  by_cases stopped : s.cancelled = true ∨ ∃ m ∈ cancelAt, m.follows 0 = false
  · rw [none_of stopped, trace, Ongoing.drive_stopped idle stopped]
    rfl
  · obtain ⟨live, running⟩ := not_or.mp stopped
    have live : s.cancelled = false := by simpa using live
    have running : ∀ m ∈ cancelAt, m.follows 0 = true := by simpa using running
    have called : s.call? cancelAt = some (.stream s.request s.headers) := by
      simpa [call?, idle, live, Option.all_eq_true] using running
    rw [called, trace_transport idle live running]
    rfl

theorem call?_busy (busy : s.state ≠ .idle) : s.call? cancelAt = none := by
  simp [call?, busy]

end Session

namespace Dispatcher

variable {τ : Type} [Transport τ] {d : Dispatcher τ} {s : Session} {mode : Mode}
  {cancelAt : Option Moment}

private theorem receive_elim (d : Dispatcher τ) (mode : Mode) (call? : Option Call) :
    d.update mode (call?.elim (d.transports.select mode)
      (Transport.receive (d.transports.select mode))) =
      (call?.map (mode, ·)).elim d d.receive := by
  cases call? with
  | none => exact d.update_select mode
  | some call => rfl

/-- What can come of a session that is run: it is turned away, or it is run to an end. -/
inductive Ran (d : Dispatcher τ) (s : Session) (mode : Mode) (cancelAt : Option Moment) :
    Except OperationError Session.Run × Dispatcher τ → Prop where
  | turnedAway (busy : s.state ≠ .idle) : Ran d s mode cancelAt (.error .alreadyStarted, d)
  | run (trace : Trace) (orderly : trace.Orderly 0) :
      Ran d s mode cancelAt (.ok ⟨s.started, trace⟩,
        ((s.call? cancelAt).map (mode, ·)).elim d d.receive)

theorem runSession_ran (d : Dispatcher τ) (s : Session) (mode : Mode) (cancelAt : Option Moment) :
    Ran d s mode cancelAt (d.runSession s mode cancelAt) := by
  by_cases idle : s.state = .idle
  · rw [runSession_idle idle, Session.trace_receive idle, receive_elim]
    exact .run _ (Session.trace_orderly idle)
  · rw [runSession_busy idle]
    exact .turnedAway idle

end Dispatcher

/-- A session that was run is not idle again. -/
theorem Session.Run.final_state {r : Run} {start : Nat} (orderly : r.trace.Orderly start)
    (begun : r.session.state = .streaming) : r.final.state ≠ .idle := by
  rw [final, Session.after_eq _ orderly, begun]
  intro idle
  cases ended : r.trace.ending? <;> rw [ended] at idle <;> cases idle

theorem Session.Run.final_received {r : Run} {start : Nat} (orderly : r.trace.Orderly start) :
    r.final.received = r.session.received + r.trace.pongs.length := by
  rw [final, Session.after_eq _ orderly]

/-! Operations. -/

namespace Input

/-- What the readers make of a line, by its shape: no more than one of them takes it, and the text
of the line is as good as the line. -/
theorem readers_of_shape (raw : String) :
    (ofText raw = .empty ∧ timestamp? raw = none ∧ stream? raw = none) ∨
    (∃ text, ofText raw = .unary text ∧ timestamp? text = timestamp? raw ∧ stream? raw = none) ∨
    (∃ text, ofText raw = .streaming text ∧ timestamp? raw = none ∧ stream? text = stream? raw) := by
  have noTimestamp (other : ∀ text, ofText raw ≠ .unary text) : timestamp? raw = none := by
    cases read : timestamp? raw with
    | none => rfl
    | some t => exact absurd (ofText_of_timestamp? read) (other _)
  have noStream (other : ∀ text, ofText raw ≠ .streaming text) : stream? raw = none := by
    cases read : stream? raw with
    | none => rfl
    | some s => exact absurd (ofText_of_stream? read) (other _)
  by_cases blanks : Text.Blanks raw.toList
  · have shape := ofText_blank blanks
    exact .inl ⟨shape, noTimestamp (by simp [shape]), noStream (by simp [shape])⟩
  · have shape := ofText_marked blanks
    split at shape
    · exact .inr (.inr ⟨_, shape, noTimestamp (by simp [shape]), stream?_trim raw⟩)
    · exact .inr (.inl ⟨_, shape, timestamp?_trim raw, noStream (by simp [shape])⟩)

end Input

namespace Operation

variable {τ : Type} {op : Operation} {d : Dispatcher τ}

/-- The call of a plan. -/
def Plan.call? (d : Dispatcher τ) : Plan → Option Call
  | .nothing _ _ => none
  | .single method message => some (.unary method message d.config.unaryHeaders)
  | .stream s => s.call? none

theorem singlePlan_call? (method : Method) (raw : String)
    (result : Except OperationError Pong → Result) :
    (singlePlan method raw result).call? d = d.unaryCall? method raw := by
  unfold singlePlan Dispatcher.unaryCall?
  cases Input.timestamp? raw <;> rfl

theorem streamPlan_call? (id : RequestId) (raw : String) (result : OperationError → Result) :
    (streamPlan d id raw result).call? d = d.streamCall? id raw := by
  unfold streamPlan Dispatcher.streamCall? Dispatcher.newSession
  cases Input.stream? raw <;> rfl

/-- What a submitted line comes down to depends on which of the readers takes it. -/
theorem submit_call? (id : RequestId) (raw : String) (mode : Mode) :
    ((Operation.submit id raw mode).plan d).call? d =
      (d.unaryCall? .aPing raw).or (d.streamCall? id raw) := by
  rcases Input.readers_of_shape raw with ⟨shape, noTimestamp, noStream⟩ |
    ⟨text, shape, same, noStream⟩ | ⟨text, shape, noTimestamp, same⟩
  · simp [plan, shape, Plan.call?, Dispatcher.unaryCall?, Dispatcher.streamCall?, noTimestamp,
      noStream]
  · simp only [plan, shape, singlePlan_call?]
    simp [Dispatcher.unaryCall?, Dispatcher.streamCall?, same, noStream]
  · simp only [plan, shape, streamPlan_call?]
    simp [Dispatcher.unaryCall?, Dispatcher.streamCall?, noTimestamp, same]

/-- What an operation can come down to that does not refer to a session. -/
inductive Planned : Plan → Prop where
  /-- The input is refused, or there is nothing to do. -/
  | nothing {notices : List Notification} {r : Result} (settles : Settles notices r 0) :
      Planned (.nothing notices r)
  | single (method : Method) (message : Ping) : Planned (.single method message)
  /-- The session is a new one. -/
  | stream {s : Session} (idle : s.Idle) : Planned (.stream s)

private theorem singlePlan_planned (method : Method) (raw : String)
    {result : Except OperationError Pong → Result}
    (error : ∀ e, (result (.error e)).error? = some e) :
    Planned (singlePlan method raw result) := by
  unfold singlePlan
  split
  · exact .nothing (.refused .timestamp (error _))
  · exact .single method _

private theorem streamPlan_planned (d : Dispatcher τ) (id : RequestId) (raw : String)
    {result : OperationError → Result} (error : ∀ e, (result e).error? = some e) :
    Planned (streamPlan d id raw result) := by
  unfold streamPlan Dispatcher.newSession
  cases Input.stream? raw with
  | none => exact .nothing (.refused .stream (error _))
  | some s => exact .stream (Session.create_idle _ _ _ _)

theorem plan_planned (own : ∀ s mode, op ≠ .runStream s mode) (d : Dispatcher τ) :
    Planned (op.plan d) := by
  cases op with
  | ping raw mode => exact singlePlan_planned .aPing raw fun _ => rfl
  | unary method raw mode => exact singlePlan_planned method raw fun _ => rfl
  | pingStream id raw mode => exact streamPlan_planned d id raw fun _ => rfl
  | runStream s mode => exact absurd rfl (own s mode)
  | submit id raw mode =>
    simp only [plan]
    cases Input.ofText raw with
    | empty => exact .nothing ⟨rfl, rfl⟩
    | unary text => exact singlePlan_planned .aPing text fun _ => rfl
    | streaming text => exact streamPlan_planned d id text fun _ => rfl

variable [Transport τ]

/-- A plan uses the transports for its call, and for nothing else. -/
theorem plan_receive (op : Operation) (d : Dispatcher τ) (plan : Plan) :
    (plan.course op d).2 = ((plan.call? d).map (op.mode, ·)).elim d d.receive := by
  cases plan with
  | nothing notices r => rfl
  | single method message => rfl
  | stream s =>
    have ran := d.runSession_ran s op.mode none
    simp only [Plan.course, runCourse, Plan.call?]
    generalize d.runSession s op.mode none = came at ran
    cases ran with
    | turnedAway busy =>
      rw [Session.call?_busy busy]
      rfl
    | run trace orderly => rfl

private theorem ofRun_fails (op : Operation) (s : Session) (x : Except OperationError Ending) :
    (op.ofRun s x).fails = (Result.ending s x).fails := by
  cases op <;> cases x <;> rfl

private theorem ofRun_isPong (op : Operation) (s : Session) (x : Except OperationError Ending) :
    (op.ofRun s x).isPong = false := by
  cases op <;> cases x <;> rfl

/-- What is told of an operation agrees with its end. -/
theorem alone_settles (own : ∀ s mode, op ≠ .runStream s mode) {time : Nat} {r : Result}
    (ended : (op.alone d).1.result? = some (time, r)) :
    Settles (op.alone d).1.notices r ((Flow.ownSession? op d).elim 0 (·.received)) := by
  rw [alone_plan] at ended ⊢
  have planned := plan_planned own d
  unfold Flow.ownSession?
  generalize op.plan d = plan at planned ended
  cases planned with
  | nothing settles =>
    simp only [Plan.course, Course.ending_result?, Option.some.injEq, Prod.mk.injEq] at ended
    obtain ⟨-, rfl⟩ := ended
    rw [Plan.course, Course.ending_notices]
    exact settles
  | single method message =>
    simp only [Plan.course, callCourse, Course.result?_map, Option.map_eq_some_iff] at ended
    obtain ⟨⟨finish, x⟩, ended, same⟩ := ended
    cases same
    simp only [Plan.course, callCourse, Course.notices_map]
    exact .unary ended
  | @stream s idle =>
    have ran := d.runSession_ran s op.mode none
    simp only [Plan.course, runCourse] at ended ⊢
    simp only [Dispatcher.sessionAfter]
    generalize d.runSession s op.mode none = came at ran ended
    cases ran with
    | turnedAway busy => exact absurd idle.state busy
    | run trace orderly =>
      have counted := Session.Run.final_received (r := ⟨s.started, trace⟩) orderly
      rw [show s.started.received = 0 from idle.received, Nat.zero_add] at counted
      simp only [Option.elim_some, counted]
      exact .course op.ofRun_fails op.ofRun_isPong s.started orderly ended

end Operation
end GatewayPing
