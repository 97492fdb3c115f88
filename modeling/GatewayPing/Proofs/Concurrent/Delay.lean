import GatewayPing.Proofs.Concurrent.Polling

/-! Operations that begin later. What an operation waits for is written down in terms of what the
clock shows, and nothing else about an operation depends on the clock: if it begins some time later
and each poll comes that much later, the same comes of every poll (`Task.poll_delayed`). -/
namespace GatewayPing

/-- The same events, some time later. -/
def Timeline.delayed {ε : Type} (lag : Nat) (tl : Timeline ε) : Timeline ε :=
  tl.map fun event => (lag + event.1, event.2)

namespace Timeline

variable {ε : Type} {lag : Nat}

theorem delayed_append (first second : Timeline ε) :
    (first ++ second).delayed lag = first.delayed lag ++ second.delayed lag :=
  List.map_append

theorem delayed_now (time : Nat) (events : List ε) :
    Timeline.delayed lag (events.map (time, ·)) = events.map (lag + time, ·) := by
  simp [delayed, Function.comp_def]

/-- What happens does not change. -/
theorem delayed_map_snd (tl : Timeline ε) : (tl.delayed lag).map (·.2) = tl.map (·.2) := by
  simp [delayed, Function.comp_def]

end Timeline

/-- Nor does what is told. -/
theorem Course.notices_delayed {α : Type} (lag : Nat) (c : Course α) :
    Course.notices (Timeline.delayed lag c) = c.notices := by
  induction c with
  | nil => rfl
  | cons event c ih =>
    obtain ⟨time, happening⟩ := event
    cases happening with
    | notice n => exact congrArg (n :: ·) ih
    | finished result => exact ih

private theorem Eventual.startingAt_add {α : Type} (lag now : Nat) (e : Eventual α) :
    e.startingAt (lag + now) = (e.startingAt now).startingAt lag := by
  cases e with
  | never => rfl
  | after delay value => simp only [startingAt, Nat.add_assoc]

/-- What is waited for by a run that began some time later. -/
def Stage.delayed (lag : Nat) : Stage → Stage
  | .calling reply => .calling (reply.startingAt lag)
  | .listening since feed => .listening (lag + since) feed
  | stage => stage

namespace Ongoing

variable {τ : Type} {lag now : Nat}

/-- The same run, had it begun some time later. -/
def delayed (lag : Nat) (r : Ongoing) : Ongoing := { r with stage := r.stage.delayed lag }

/-- The same turn of a run that began some time later. -/
def Turn.delayed (lag : Nat) (turn : Turn τ) : Turn τ := { turn with run := turn.run.delayed lag }

/-- What is due at once is due no later because the run began later. -/
theorem due?_delayed (lag : Nat) {r : Ongoing} {due : Nat} (pending : r.due? = some due) :
    ∃ time, (r.delayed lag).due? = some time ∧ time ≤ lag + due := by
  obtain ⟨s, stage⟩ := r
  have stopped (told : s.cancelled = true) (waits : (stage.delayed lag).waits = true) :
      ∃ time, (⟨s, stage.delayed lag⟩ : Ongoing).due? = some time ∧ time ≤ lag + due :=
    ⟨0, due?_told waits told, Nat.zero_le _⟩
  cases stage with
  | fresh => exact ⟨0, due?_fresh, Nat.zero_le _⟩
  | opening => exact ⟨0, due?_opening, Nat.zero_le _⟩
  | done result => simp at pending
  | calling reply =>
    cases told : s.cancelled with
    | true => exact stopped told rfl
    | false =>
      rw [due?_live told] at pending
      cases reply with
      | never => cases pending
      | after limit reply =>
        cases pending
        exact ⟨lag + due, due?_live told, Nat.le_refl _⟩
  | listening since feed =>
    cases told : s.cancelled with
    | true => exact stopped told rfl
    | false =>
      rw [due?_live told] at pending
      obtain ⟨items, staysOpen⟩ := feed
      refine ⟨lag + due, (due?_live told).trans ?_, Nat.le_refl _⟩
      cases items with
      | cons item items =>
        cases pending
        exact congrArg some (Nat.add_assoc lag since item.1)
      | nil =>
        cases staysOpen with
        | true => cases pending
        | false =>
          cases pending
          rfl

variable [Transport τ]

private theorem advance_delayed (s : Session) (stage : Stage) (t : τ) :
    ((⟨s, stage⟩ : Ongoing).delayed lag).advance (lag + now) t =
      ((⟨s, stage⟩ : Ongoing).advance now t).delayed lag := by
  cases stage with
  | fresh => rfl
  | done result => rfl
  | opening =>
    simp only [delayed, Stage.delayed, advance, call, Turn.delayed, Eventual.startingAt_add]
  | calling reply =>
    cases reply with
    | never => rfl
    | after due reply =>
      simp only [delayed, Stage.delayed, Eventual.startingAt, advance, Nat.add_le_add_iff_left]
      split
      · cases reply <;> rfl
      · rfl
  | listening since feed =>
    obtain ⟨items, staysOpen⟩ := feed
    cases items with
    | nil =>
      cases staysOpen with
      | true => rfl
      | false =>
        simp only [delayed, Stage.delayed, advance, Nat.add_le_add_iff_left]
        split <;> rfl
    | cons item items =>
      simp only [delayed, Stage.delayed, advance, Nat.add_assoc, Nat.add_le_add_iff_left]
      split
      · cases item.2 <;> rfl
      · rfl

/-- A run that began later does the same, so much later. -/
theorem poll_delayed (r : Ongoing) (t : τ) :
    (r.delayed lag).poll (lag + now) t = (r.poll now t).delayed lag := by
  obtain ⟨s, stage⟩ := r
  have waiting (waits : stage.waits = true) (still : (stage.delayed lag).waits = true) :
      (⟨s, stage.delayed lag⟩ : Ongoing).poll (lag + now) t =
        ((⟨s, stage⟩ : Ongoing).poll now t).delayed lag := by
    cases told : s.cancelled with
    | true =>
      rw [poll_cancelled waits told, poll_cancelled still told]
      rfl
    | false =>
      rw [poll_live waits told, poll_live still told]
      exact advance_delayed s stage t
  cases stage with
  | fresh =>
    by_cases idle : s.state = .idle
    · simp only [delayed, Stage.delayed, poll, idle, ↓reduceIte]
      rfl
    · simp only [delayed, Stage.delayed, poll, idle, ↓reduceIte]
      rfl
  | done result => rfl
  | _ => exact waiting rfl rfl

end Ongoing

namespace Task

open Operation (Result)

variable {τ : Type} {lag now : Nat}

/-- What is waited for by an operation that began some time later. -/
def State.delayed (lag : Nat) : State → State
  | .calling reply => .calling (reply.startingAt lag)
  | .holding due p => .holding (lag + due) p
  | .running r => .running (r.delayed lag)
  | state => state

/-- The same operation, had it begun some time later. -/
def delayed (lag : Nat) (task : Task) : Task := { task with state := task.state.delayed lag }

/-- The same turn of an operation that began some time later. -/
def Turn.delayed (lag : Nat) (turn : Turn τ) : Turn τ :=
  { turn with task := turn.task.delayed lag }

theorem session?_delayed (task : Task) : (task.delayed lag).session? = task.session? := by
  obtain ⟨op, state⟩ := task
  cases state <;> rfl

@[inherit_doc Ongoing.due?_delayed]
theorem due?_delayed (lag : Nat) {task : Task} {due : Nat} (pending : task.due? = some due) :
    ∃ time, (task.delayed lag).due? = some time ∧ time ≤ lag + due := by
  obtain ⟨op, state⟩ := task
  cases state with
  | fresh => exact ⟨0, rfl, Nat.zero_le _⟩
  | calling reply =>
    cases reply with
    | never => cases pending
    | after limit reply =>
      cases pending
      exact ⟨_, rfl, Nat.le_refl _⟩
  | holding limit p =>
    cases pending
    exact ⟨_, rfl, Nat.le_refl _⟩
  | running r => exact Ongoing.due?_delayed lag pending
  | finished => cases pending

/-- What is seen of a session does not depend on when it began. -/
theorem seen_delayed (op : Operation) (turn : Ongoing.Turn τ) :
    seen op (turn.delayed lag) = seen op turn := by
  obtain ⟨⟨s, stage⟩, t, event, call⟩ := turn
  cases event with
  | some event => cases event <;> cases stage <;> rfl
  | none => cases stage <;> rfl

variable [Transport τ]

private theorem start_delayed (op : Operation) (d : Dispatcher τ) (plan : Operation.Plan) :
    (⟨op, .fresh⟩ : Task).start (lag + now) d plan =
      ((⟨op, .fresh⟩ : Task).start now d plan).delayed lag := by
  cases plan with
  | nothing notices result => rfl
  | stream s => rfl
  | single method ping =>
    simp only [start, Eventual.startingAt_add, Turn.delayed, delayed, State.delayed]

/-- An operation that began later does the same, so much later. -/
theorem poll_delayed (task : Task) (d : Dispatcher τ) :
    (task.delayed lag).poll (lag + now) d = (task.poll now d).delayed lag := by
  obtain ⟨op, state⟩ := task
  cases state with
  | fresh => exact start_delayed op d _
  | finished => rfl
  | calling reply =>
    cases reply with
    | never => rfl
    | after due reply =>
      simp only [delayed, State.delayed, Eventual.startingAt, poll, Nat.add_le_add_iff_left]
      split
      · cases reply with
        | error e => rfl
        | ok p => simp only [answered, Turn.delayed, delayed, State.delayed, Nat.add_assoc]
      · rfl
  | holding due p =>
    simp only [delayed, State.delayed, poll, Nat.add_le_add_iff_left]
    split <;> rfl
  | running r =>
    obtain ⟨s, stage⟩ := r
    have polled := @Ongoing.poll_delayed _ lag now _ ⟨s, stage⟩ (d.transports.select op.mode)
    have proceeds : (⟨op, .running (Ongoing.delayed lag ⟨s, stage⟩)⟩ : Task).proceed (lag + now) d
          (Ongoing.delayed lag ⟨s, stage⟩) =
        ((⟨op, .running ⟨s, stage⟩⟩ : Task).proceed now d ⟨s, stage⟩).delayed lag := by
      simp only [proceed, polled, seen_delayed]
      rfl
    cases stage with
    | done result => rfl
    | _ => exact proceeds

end Task
end GatewayPing
