import GatewayPing.Dispatcher

/-! Operations, poll by poll. An operation that was begun makes its call when it is polled for the
first time, and then waits for what comes of it; `Task.poll` is what it does each time it is polled.
What an operation does from its start to its end if nothing else goes on is its course
(`Operation.alone`). -/
namespace GatewayPing

/-- What a dispatcher can be asked for. An operation that may make a session has an identifier for
it, and the session that is run belongs to its operation alone. -/
inductive Operation where
  | ping (raw : String) (mode : Mode)
  | unary (method : Method) (raw : String) (mode : Mode)
  | submit (id : RequestId) (raw : String) (mode : Mode)
  | pingStream (id : RequestId) (raw : String) (mode : Mode)
  | runStream (s : Session) (mode : Mode)
  deriving DecidableEq, Repr

namespace Operation

/-- What an operation ends with. -/
inductive Result where
  | pong (r : Except OperationError Pong)
  | outcome (r : Except OperationError Outcome)
  | session (r : Except OperationError Session)
  /-- The session as it is after the run, and how the run ended. -/
  | ending (s : Session) (r : Except OperationError Ending)
  deriving Repr

variable {τ : Type}

def mode : Operation → Mode
  | .ping _ mode => mode
  | .unary _ _ mode => mode
  | .submit _ _ mode => mode
  | .pingStream _ _ mode => mode
  | .runStream _ mode => mode

/-- The result of an operation from that of its single call. -/
def ofPong (op : Operation) (r : Except OperationError Pong) : Result :=
  match op with
  | .submit .. => .outcome (r.map .pong)
  | _ => .pong r

/-- The result of an operation from that of the run of its session. -/
def ofRun (op : Operation) (s : Session) (r : Except OperationError Ending) : Result :=
  match op with
  | .submit .. => .outcome (r.map (.streamed s.received))
  | .pingStream .. => .session (r.map fun _ => s)
  | _ => .ending s r

/-- What an operation comes down to. -/
inductive Plan where
  /-- Nothing is asked of a transport. -/
  | nothing (notices : List Notification) (result : Result)
  | single (method : Method) (ping : Ping)
  | stream (s : Session)

/-- The plan of a single call. -/
def singlePlan (method : Method) (raw : String) (result : Except OperationError Pong → Result) :
    Plan :=
  match Input.timestamp? raw with
  | none => .nothing [Expected.timestamp.notice] (result (.error (.invalidInput raw .timestamp)))
  | some timestamp => .single method ⟨timestamp⟩

/-- The plan of a stream. -/
def streamPlan (d : Dispatcher τ) (id : RequestId) (raw : String)
    (result : OperationError → Result) : Plan :=
  match d.newSession id raw with
  | .error e => .nothing [Expected.stream.notice] (result e)
  | .ok s => .stream s

/-- The plan of an operation, which its input decides. -/
def plan (d : Dispatcher τ) : Operation → Plan
  | .ping raw _ => singlePlan .aPing raw .pong
  | .unary method raw _ => singlePlan method raw .pong
  | .submit id raw _ =>
    match Input.ofText raw with
    | .empty => .nothing [] (.outcome (.ok .ignored))
    | .unary text => singlePlan .aPing text fun r => .outcome (r.map .pong)
    | .streaming text => streamPlan d id text fun e => .outcome (.error e)
  | .pingStream id raw _ => streamPlan d id raw fun e => .session (.error e)
  | .runStream s _ => .stream s

/-- The course of an operation that is carried out alone, and the dispatcher afterwards. -/
def alone [Transport τ] (d : Dispatcher τ) : Operation → Course Result × Dispatcher τ
  | .ping raw mode =>
    let (course, d) := d.ping raw mode
    (course.map .pong, d)
  | .unary method raw mode =>
    let (course, d) := d.unary method raw mode
    (course.map .pong, d)
  | .submit id raw mode =>
    let (course, d) := d.handle id raw mode
    (course.map .outcome, d)
  | .pingStream id raw mode =>
    let (course, d) := d.pingStream id raw mode
    (course.map .session, d)
  | .runStream s mode =>
    match d.runSession s mode none with
    | (.error e, d) => (Course.ending 0 [] (.ending s (.error e)), d)
    | (.ok run, d) => (run.session.course .ending run.trace, d)

end Operation

/-- What an operation that was begun waits for. Times are those that the clock shows. -/
inductive Task.State where
  /-- To be polled for the first time. -/
  | fresh
  /-- The answer to its single call. -/
  | calling (reply : Eventual (Except CallError Pong))
  /-- To tell of a pong, which is held back until a time. -/
  | holding (due : Nat) (p : Pong)
  /-- What its session waits for. -/
  | running (r : Ongoing)
  | finished
  deriving Repr

/-- An operation that was begun, and what it waits for. -/
structure Task where
  op : Operation
  state : Task.State
  deriving Repr

namespace Task

open Operation (Result)

/-- What comes of a poll. At most one call is made. -/
structure Turn (τ : Type) where
  task : Task
  dispatcher : Dispatcher τ
  events : List (Happening Result) := []
  call : Option (Mode × Call) := none
  deriving Repr

variable {τ : Type}

/-- The end of an operation, with notifications just before. -/
def finish (task : Task) (d : Dispatcher τ) (notices : List Notification) (result : Result) :
    Turn τ where
  task := { task with state := .finished }
  dispatcher := d
  events := notices.map .notice ++ [.finished result]

/-- Begins what an operation comes down to. A single call is made at once. -/
def start [Transport τ] (now : Nat) (d : Dispatcher τ) (task : Task) : Operation.Plan → Turn τ
  | .nothing notices result => task.finish d notices result
  | .single method ping =>
    let mode := task.op.mode
    let (reply, t) :=
      Transport.unary (d.transports.select mode) method ping d.config.unaryHeaders
    { task := { task with state := .calling (reply.startingAt now) }
      dispatcher := d.update mode t
      call := some (mode, .unary method ping d.config.unaryHeaders) }
  | .stream s => { task := { task with state := .running ⟨s, .fresh⟩ }, dispatcher := d }

/-- Takes the answer to a single call. A pong is held back for a while. -/
def answered (now : Nat) (d : Dispatcher τ) (task : Task) : Except CallError Pong → Turn τ
  | .ok p =>
    { task := { task with state := .holding (now + d.config.responseDelay.toNat) p }
      dispatcher := d }
  | .error e =>
    let f := Failure.ofCallError e
    task.finish d [.ofStatus f.status] (task.op.ofPong (.error (.failed f)))

/-- What is seen of an operation whose session was polled. -/
def seen (op : Operation) (turn : Ongoing.Turn τ) : List (Happening Result) :=
  match turn.event, turn.run.stage with
  | some (.pong p), _ => [.notice (.ofStreamPong p)]
  | some (.ended e), _ =>
    e.notices.map .notice ++ [.finished (op.ofRun turn.run.session e.result)]
  | none, .done result => [.finished (op.ofRun turn.run.session result)]
  | none, _ => []

/-- Polls the session of an operation. -/
def proceed [Transport τ] (now : Nat) (d : Dispatcher τ) (task : Task) (r : Ongoing) : Turn τ :=
  let mode := task.op.mode
  let turn := r.poll now (d.transports.select mode)
  { task := { task with state := .running turn.run }
    dispatcher := d.update mode turn.transport
    events := seen task.op turn
    call := turn.call.map (mode, ·) }

/-- Polls an operation. Nothing comes of it before something is due. -/
def poll [Transport τ] (now : Nat) (d : Dispatcher τ) (task : Task) : Turn τ :=
  match task.state with
  | .fresh => task.start now d (task.op.plan d)
  | .calling (.after due reply) =>
    if due ≤ now then task.answered now d reply else { task := task, dispatcher := d }
  | .calling .never => { task := task, dispatcher := d }
  | .holding due p =>
    if due ≤ now then task.finish d [.ofPong p] (task.op.ofPong (.ok p))
    else { task := task, dispatcher := d }
  | .running ⟨_, .done _⟩ => { task := task, dispatcher := d }
  | .running r => task.proceed now d r
  | .finished => { task := task, dispatcher := d }

/-- From when on a poll gets an operation further. -/
def due? (task : Task) : Option Nat :=
  match task.state with
  | .fresh => some 0
  | .calling (.after due _) => some due
  | .calling .never => none
  | .holding due _ => some due
  | .running r => r.due?
  | .finished => none

/-- Whether an operation has ended. -/
def isOver (task : Task) : Bool :=
  match task.state with
  | .running ⟨_, .done _⟩ => true
  | .finished => true
  | _ => false

/-- How far an operation is from its end. -/
def rank (task : Task) : Nat × Nat :=
  match task.state with
  | .fresh => (5, 0)
  | .calling _ => (2, 0)
  | .holding _ _ => (1, 0)
  | .running r => r.stage.rank
  | .finished => (0, 0)

/-- The session that an operation runs, as it is now. -/
def session? (task : Task) : Option Session :=
  match task.state with
  | .running r => some r.session
  | _ => none

private theorem start_rank [Transport τ] (now : Nat) (d : Dispatcher τ) (op : Operation)
    (plan : Operation.Plan) :
    Prod.Lex (· < ·) (· < ·) ((⟨op, .fresh⟩ : Task).start now d plan).task.rank
      (⟨op, .fresh⟩ : Task).rank := by
  cases plan <;> exact .left _ _ (by decide)

/-- A poll that is due brings an operation closer to its end. -/
theorem poll_rank [Transport τ] {now due : Nat} {task : Task} (d : Dispatcher τ)
    (pending : task.due? = some due) (passed : due ≤ now) :
    Prod.Lex (· < ·) (· < ·) (task.poll now d).task.rank task.rank := by
  obtain ⟨op, state⟩ := task
  cases state with
  | finished => cases pending
  | fresh => exact start_rank now d op _
  | calling reply =>
    cases reply with
    | never => cases pending
    | after time reply =>
      cases pending
      simp only [poll, passed, ↓reduceIte]
      cases reply with
      | ok p => exact .left _ _ (by decide)
      | error e => exact .left _ _ (by decide)
  | holding limit p =>
    cases pending
    simp only [poll, passed, ↓reduceIte]
    exact .left _ _ (by decide)
  | running r =>
    obtain ⟨s, stage⟩ := r
    cases stage with
    | done result => simp [due?] at pending
    | _ => exact Ongoing.poll_rank _ pending passed

end Task
end GatewayPing
