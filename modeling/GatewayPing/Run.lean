import GatewayPing.Session

/-! Runs of a session, poll by poll. A run goes on only while it is polled. Between two polls it
waits: for the answer to its call, or for the next element of the stream. A poll looks first at
whether the session was told to stop, and only then at what the run waits for.

`Ongoing.poll` is the whole behaviour of a run, and `poll_polled` lists what can come of it.
`Session.run` polls a run from its start to its end, each time as soon as there is something for it
to do. -/
namespace GatewayPing

/-- What a run waits for. Times are those that the clock shows. -/
inductive Stage where
  /-- To be polled for the first time. -/
  | fresh
  /-- To make the call. -/
  | opening
  /-- The answer to the call, which comes at a time if it comes. -/
  | calling (reply : Eventual (Except CallError Feed))
  /-- The next element of the stream. The one before it came at the time `since`. -/
  | listening (since : Nat) (feed : Feed)
  /-- Nothing: the run is over. -/
  | done (result : Except OperationError Ending)
  deriving Repr

namespace Stage

/-- Whether a run was started and is not over. -/
def waits : Stage → Bool
  | .fresh => false
  | .done _ => false
  | _ => true

/-- From when on a poll gets a run further, unless something else happens before. -/
def due? : Stage → Option Nat
  | .fresh => some 0
  | .opening => some 0
  | .calling (.after due _) => some due
  | .calling .never => none
  | .listening since ⟨(delay, _) :: _, _⟩ => some (since + delay)
  | .listening since ⟨[], false⟩ => some since
  | .listening _ ⟨[], true⟩ => none
  | .done _ => none

/-- How far a run is from its end: by what it waits for, and by the elements of the stream that are
still to come. -/
def rank : Stage → Nat × Nat
  | .fresh => (4, 0)
  | .opening => (3, 0)
  | .calling _ => (2, 0)
  | .listening _ feed => (1, feed.items.length)
  | .done _ => (0, 0)

end Stage

/-- A run that was begun: its session as it is now, and what it waits for. -/
structure Ongoing where
  session : Session
  stage : Stage
  deriving Repr

/-- What comes of a poll. At most one thing happens, and at most one call is made. -/
structure Ongoing.Turn (τ : Type) where
  run : Ongoing
  transport : τ
  event : Option SessionEvent := none
  call : Option Call := none
  deriving Repr

namespace Ongoing

variable {τ : Type}

/-- The run of a session that was told to stop. -/
def cancel (r : Ongoing) : Ongoing := { r with session := r.session.cancel }

/-- The end of a run. -/
def finish (r : Ongoing) (t : τ) (e : RunEnd) : Turn τ where
  run := ⟨r.session.apply (.ended e), .done e.result⟩
  transport := t
  event := some (.ended e)

/-- Makes the call. The request and the headers are those of the session. -/
def call [Transport τ] (now : Nat) (r : Ongoing) (t : τ) : Turn τ :=
  let (reply, t) := Transport.stream t r.session.request r.session.headers
  { run := { r with stage := .calling (reply.startingAt now) }
    transport := t
    call := some (.stream r.session.request r.session.headers) }

/-- Takes the answer to the call. -/
def answered (now : Nat) (r : Ongoing) (t : τ) : Except CallError Feed → Turn τ
  | .error e => r.finish t (.failed (.ofCallError e))
  | .ok feed => { run := { r with stage := .listening now feed }, transport := t }

/-- Takes an element of the stream, whose rest is waited for from then on. -/
def receive (now : Nat) (r : Ongoing) (t : τ) (rest : Feed) : Except Status StreamPong → Turn τ
  | .error s => r.finish t (.failed (.broken s))
  | .ok p =>
    { run := ⟨r.session.apply (.pong p), .listening now rest⟩
      transport := t
      event := some (.pong p) }

/-- Takes what has come for a run by a time, if anything has. -/
def advance [Transport τ] (now : Nat) (r : Ongoing) (t : τ) : Turn τ :=
  match r.stage with
  | .opening => r.call now t
  | .calling (.after due reply) =>
    if due ≤ now then r.answered now t reply else { run := r, transport := t }
  | .listening since ⟨(delay, item) :: items, staysOpen⟩ =>
    if since + delay ≤ now then r.receive now t ⟨items, staysOpen⟩ item
    else { run := r, transport := t }
  | .listening since ⟨[], false⟩ =>
    if since ≤ now then r.finish t .completed else { run := r, transport := t }
  | _ => { run := r, transport := t }

/-- Polls a run. The first poll turns the run of a session away that is not idle. -/
def poll [Transport τ] (now : Nat) (r : Ongoing) (t : τ) : Turn τ :=
  match r.stage with
  | .done _ => { run := r, transport := t }
  | .fresh =>
    if r.session.state = .idle then { run := ⟨r.session.started, .opening⟩, transport := t }
    else { run := { r with stage := .done (.error .alreadyStarted) }, transport := t }
  | _ => if r.session.cancelled then r.finish t .cancelled else r.advance now t

/-- The poll of a run that waits looks at the cancellation first: once the session was told to stop,
the run ends, whatever has come for it. -/
theorem poll_cancelled [Transport τ] {now : Nat} {s : Session} {stage : Stage} {t : τ}
    (waits : stage.waits = true) (stopped : s.cancelled = true) :
    (⟨s, stage⟩ : Ongoing).poll now t = (⟨s, stage⟩ : Ongoing).finish t .cancelled := by
  cases stage with
  | fresh => cases waits
  | done result => cases waits
  | _ => exact if_pos stopped

theorem poll_live [Transport τ] {now : Nat} {s : Session} {stage : Stage} {t : τ}
    (waits : stage.waits = true) (live : s.cancelled = false) :
    (⟨s, stage⟩ : Ongoing).poll now t = (⟨s, stage⟩ : Ongoing).advance now t := by
  cases stage with
  | fresh => cases waits
  | done result => cases waits
  | _ => exact if_neg (ne_true_of_eq_false live)

/-- From when on a poll gets a run further. The run of a session that was told to stop can end at
any time. -/
def due? (r : Ongoing) : Option Nat :=
  if r.session.cancelled && r.stage.waits then some 0 else r.stage.due?

theorem due?_live {s : Session} {stage : Stage} (live : s.cancelled = false) :
    (⟨s, stage⟩ : Ongoing).due? = stage.due? := by
  simp [due?, live]

theorem due?_told {s : Session} {stage : Stage} (waits : stage.waits = true)
    (told : s.cancelled = true) : (⟨s, stage⟩ : Ongoing).due? = some 0 := by
  simp [due?, told, waits]

@[simp] theorem due?_fresh {s : Session} : (⟨s, .fresh⟩ : Ongoing).due? = some 0 := by
  simp [due?, Stage.waits, Stage.due?]

@[simp] theorem due?_opening {s : Session} : (⟨s, .opening⟩ : Ongoing).due? = some 0 := by
  simp [due?, Stage.waits, Stage.due?]

@[simp] theorem due?_done {s : Session} {result : Except OperationError Ending} :
    (⟨s, .done result⟩ : Ongoing).due? = none := by
  simp [due?, Stage.waits, Stage.due?]

/-- What can come of a poll. -/
inductive Polled [Transport τ] (now : Nat) (t : τ) : Ongoing → Turn τ → Prop where
  /-- Nothing has come yet. -/
  | waiting {r : Ongoing} (undue : ∀ due, r.due? = some due → now < due) :
      Polled now t r { run := r, transport := t }
  | started {s : Session} (idle : s.state = .idle) :
      Polled now t ⟨s, .fresh⟩ { run := ⟨s.started, .opening⟩, transport := t }
  | refused {s : Session} (busy : s.state ≠ .idle) :
      Polled now t ⟨s, .fresh⟩ { run := ⟨s, .done (.error .alreadyStarted)⟩, transport := t }
  | called {s : Session} (live : s.cancelled = false) :
      Polled now t ⟨s, .opening⟩ ((⟨s, .opening⟩ : Ongoing).call now t)
  | accepted {s : Session} {due : Nat} {feed : Feed} (live : s.cancelled = false)
      (passed : due ≤ now) :
      Polled now t ⟨s, .calling (.after due (.ok feed))⟩
        { run := ⟨s, .listening now feed⟩, transport := t }
  | received {s : Session} {since delay : Nat} {p : StreamPong}
      {items : List (Nat × Except Status StreamPong)} {staysOpen : Bool}
      (live : s.cancelled = false) (passed : since + delay ≤ now) :
      Polled now t ⟨s, .listening since ⟨(delay, .ok p) :: items, staysOpen⟩⟩
        { run := ⟨s.apply (.pong p), .listening now ⟨items, staysOpen⟩⟩
          transport := t
          event := some (.pong p) }
  | ended {s : Session} {stage : Stage} (e : RunEnd) (waits : stage.waits = true) :
      Polled now t ⟨s, stage⟩ ((⟨s, stage⟩ : Ongoing).finish t e)

private theorem advance_polled [Transport τ] (now : Nat) {s : Session} {stage : Stage} (t : τ)
    (live : s.cancelled = false) (waits : stage.waits = true) :
    Polled now t ⟨s, stage⟩ ((⟨s, stage⟩ : Ongoing).advance now t) := by
  have never (quiet : stage.due? = none) :
      Polled now t ⟨s, stage⟩ { run := ⟨s, stage⟩, transport := t } :=
    .waiting (by simp [due?_live live, quiet])
  have undue {due : Nat} (pending : stage.due? = some due) (ahead : ¬ due ≤ now) :
      Polled now t ⟨s, stage⟩ { run := ⟨s, stage⟩, transport := t } := by
    refine .waiting ?_
    intro other same
    cases pending.symm.trans ((due?_live live).symm.trans same)
    exact Nat.not_le.mp ahead
  cases stage with
  | fresh => cases waits
  | done result => cases waits
  | opening => exact .called live
  | calling reply =>
    cases reply with
    | never => exact never rfl
    | after due reply =>
      by_cases passed : due ≤ now
      · cases reply with
        | error e => simpa only [advance, passed, ↓reduceIte] using .ended _ waits
        | ok feed => simpa only [advance, passed, ↓reduceIte] using .accepted live passed
      · simpa only [advance, passed, ↓reduceIte] using undue rfl passed
  | listening since feed =>
    obtain ⟨items, staysOpen⟩ := feed
    cases items with
    | nil =>
      cases staysOpen with
      | true => exact never rfl
      | false =>
        by_cases passed : since ≤ now
        · simpa only [advance, passed, ↓reduceIte] using .ended _ waits
        · simpa only [advance, passed, ↓reduceIte] using undue rfl passed
    | cons item items =>
      obtain ⟨delay, item⟩ := item
      by_cases passed : since + delay ≤ now
      · cases item with
        | error failure => simpa only [advance, passed, ↓reduceIte] using .ended _ waits
        | ok p => simpa only [advance, passed, ↓reduceIte] using .received live passed
      · simpa only [advance, passed, ↓reduceIte] using undue rfl passed

/-- Every poll comes to one of the things listed. -/
theorem poll_polled [Transport τ] (now : Nat) (r : Ongoing) (t : τ) :
    Polled now t r (r.poll now t) := by
  obtain ⟨s, stage⟩ := r
  have waiting (waits : stage.waits = true) :
      Polled now t ⟨s, stage⟩ ((⟨s, stage⟩ : Ongoing).poll now t) := by
    cases live : s.cancelled with
    | true =>
      rw [poll_cancelled waits live]
      exact .ended .cancelled waits
    | false =>
      rw [poll_live waits live]
      exact advance_polled now t live waits
  cases stage with
  | done result => exact .waiting (by simp)
  | fresh =>
    by_cases idle : s.state = .idle
    · simpa only [poll, idle, ↓reduceIte] using .started idle
    · simpa only [poll, idle, ↓reduceIte] using .refused idle
  | _ => exact waiting rfl

/-- A poll that is due brings a run closer to its end. -/
theorem poll_rank [Transport τ] {now due : Nat} {r : Ongoing} (t : τ) (pending : r.due? = some due)
    (passed : due ≤ now) :
    Prod.Lex (· < ·) (· < ·) (r.poll now t).run.stage.rank r.stage.rank := by
  have polled := poll_polled now r t
  generalize r.poll now t = turn at polled
  cases polled with
  | waiting undue => exact absurd (undue due pending) (Nat.not_lt.mpr passed)
  | started idle => exact .left _ _ (by decide)
  | refused busy => exact .left _ _ (by decide)
  | called live => exact .left _ _ (by decide)
  | accepted live arrived => exact .left _ _ (by decide)
  | received live arrived => exact .right _ (Nat.lt_succ_self _)
  | @ended s stage e waits =>
    cases stage with
    | fresh => cases waits
    | done result => cases waits
    | _ => exact .left _ _ (by decide)

/-- The next poll of a run: its time, and the run as it is by then. It takes place as soon as there
is something to do, or at the moment at which the session is told to stop if that comes first. -/
def nextPoll? (cancelAt : Option Moment) (now : Nat) (r : Ongoing) : Option (Nat × Ongoing) :=
  match r.due?.map (max now), cancelAt with
  | due, none => due.map (·, r)
  | some time, some m =>
    if m.follows time then some (time, r) else some (max now m.time, r.cancel)
  | none, some m => if r.stage.waits then some (max now m.time, r.cancel) else none

/-- A run can go on as soon as its session is told to stop. -/
theorem cancel_due? {r : Ongoing} (waits : r.stage.waits = true) : r.cancel.due? = some 0 :=
  due?_told waits rfl

private theorem cancel_due?_le {r : Ongoing} {due : Nat} (pending : r.due? = some due) :
    r.cancel.due? = some 0 := by
  obtain ⟨s, stage⟩ := r
  cases stage with
  | fresh => rfl
  | done result => simp at pending
  | _ => exact cancel_due? rfl

/-- The next poll gets the run further. -/
theorem nextPoll?_due {cancelAt : Option Moment} {now time : Nat} {r next : Ongoing}
    (follows : r.nextPoll? cancelAt now = some (time, next)) :
    next.stage = r.stage ∧ ∃ due, next.due? = some due ∧ due ≤ time := by
  unfold nextPoll? at follows
  cases pending : r.due? with
  | none =>
    cases cancelAt with
    | none => simp [pending] at follows
    | some m =>
      simp only [pending, Option.map_none] at follows
      split at follows
      · rename_i waits
        cases follows
        exact ⟨rfl, 0, cancel_due? waits, Nat.zero_le _⟩
      · cases follows
  | some due =>
    cases cancelAt with
    | none =>
      simp only [pending, Option.map_some] at follows
      cases follows
      exact ⟨rfl, due, pending, Nat.le_max_right now due⟩
    | some m =>
      simp only [pending, Option.map_some] at follows
      split at follows
      · cases follows
        exact ⟨rfl, due, pending, Nat.le_max_right now due⟩
      · cases follows
        exact ⟨rfl, 0, cancel_due?_le pending, Nat.zero_le _⟩

/-- Polls a run from a time on until it is over or nothing will get it further. `cancelAt` is the
moment at which the session is told to stop, if it is. -/
def drive [Transport τ] (cancelAt : Option Moment) (now : Nat) (r : Ongoing) (t : τ) : Trace × τ :=
  match _ : r.nextPoll? cancelAt now with
  | none => ([], t)
  | some (time, next) =>
    let turn := next.poll time t
    let (trace, t) := drive cancelAt time turn.run turn.transport
    (turn.event.toList.map (time, ·) ++ trace, t)
termination_by r.stage.rank
decreasing_by
  obtain ⟨same, due, pending, passed⟩ := nextPoll?_due (by assumption)
  exact same ▸ poll_rank t pending passed

end Ongoing

namespace Session

variable {τ : Type}

/-- The trace of a session that is run, and the transport afterwards. -/
def trace [Transport τ] (s : Session) (t : τ) (cancelAt : Option Moment) : Trace × τ :=
  (⟨s, .fresh⟩ : Ongoing).drive cancelAt 0 t

/-- A session that is run: as it is at the start, and what happens to it. -/
structure Run where
  session : Session
  trace : Trace
  deriving Repr

namespace Run

/-- The session at the end of a run. -/
def final (r : Run) : Session := r.session.after r.trace

/-- The course of a run, which ends with the session and the result. -/
def course (r : Run) : Course (Session × Except OperationError Ending) :=
  r.session.course Prod.mk r.trace

end Run

/-- Runs a session. Only an idle session can be run. -/
def run [Transport τ] (s : Session) (t : τ) (cancelAt : Option Moment) :
    Except OperationError Run × τ :=
  if s.state = .idle then
    let (trace, t) := s.trace t cancelAt
    (.ok ⟨s.started, trace⟩, t)
  else (.error .alreadyStarted, t)

theorem run_idle [Transport τ] {s : Session} (idle : s.state = .idle) (t : τ)
    (cancelAt : Option Moment) :
    s.run t cancelAt = (.ok ⟨s.started, (s.trace t cancelAt).1⟩, (s.trace t cancelAt).2) :=
  if_pos idle

theorem run_busy [Transport τ] {s : Session} (busy : s.state ≠ .idle) (t : τ)
    (cancelAt : Option Moment) : s.run t cancelAt = (.error .alreadyStarted, t) := if_neg busy

end Session
end GatewayPing
