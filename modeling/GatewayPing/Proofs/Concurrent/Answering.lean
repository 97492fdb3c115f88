import GatewayPing.Proofs.Concurrent.Polling
import GatewayPing.Proofs.Concurrent.Steady

/-! Calls that come to an end. An operation waits for its calls and for nothing else. So where every
call comes to an end, an operation that has not ended can always go on, now or later
(`Task.Moving.due`). -/
namespace GatewayPing

/-- A stream that closes, or breaks off before. -/
def Feed.Ends (feed : Feed) : Prop :=
  feed.staysOpen = false ∨ ∃ delay failure, (delay, .error failure) ∈ feed.items

private theorem Feed.Ends.tail {delay : Nat} {p : StreamPong}
    {items : List (Nat × Except Status StreamPong)}
    {staysOpen : Bool} (ends : Feed.Ends ⟨(delay, .ok p) :: items, staysOpen⟩) :
    Feed.Ends ⟨items, staysOpen⟩ := by
  rcases ends with closes | ⟨later, failure, member⟩
  · exact .inl closes
  · refine .inr ⟨later, failure, ?_⟩
    simpa using member

private theorem Eventual.startingAt_ne_never {α : Type} {reply : Eventual α}
    (answer : reply ≠ .never) (now : Nat) : reply.startingAt now ≠ .never := by
  cases reply with
  | never => exact absurd rfl answer
  | after delay value => nofun

/-- The answer to a stream call, after which the stream ends. -/
def Eventual.Ends : Eventual (Except CallError Feed) → Prop
  | .never => False
  | .after _ (.error _) => True
  | .after _ (.ok feed) => feed.Ends

/-- A transport all of whose calls come to an end. -/
structure Transport.Answers {τ : Type} [Transport τ] (t : τ) : Prop where
  unary : ∀ (method : Method) (ping : Ping) (headers : Headers),
    (Transport.unary t method ping headers).1 ≠ .never
  stream : ∀ (ping : StreamPing) (headers : Headers), (Transport.stream t ping headers).1.Ends

theorem Transport.Answers.recorded {τ : Type} [Transport τ] {t : τ} (answers : Answers t)
    (calls : List Call) : Answers (⟨t, calls⟩ : Recorded τ) :=
  ⟨answers.unary, answers.stream⟩

/-- A dispatcher all of whose calls come to an end. -/
def Dispatcher.Answers {τ : Type} [Transport τ] (d : Dispatcher τ) : Prop :=
  ∀ mode, Transport.Answers (d.transports.select mode)

/-- A run that does not wait for ever. -/
def Stage.Moving : Stage → Prop
  | .calling reply => reply.Ends
  | .listening _ feed => feed.Ends
  | _ => True

private theorem Eventual.Ends.startingAt {reply : Eventual (Except CallError Feed)}
    (ends : reply.Ends) (now : Nat) : (reply.startingAt now).Ends := by
  cases reply with
  | never => exact ends
  | after delay reply => cases reply <;> exact ends

namespace Ongoing

variable {τ : Type} [Transport τ] {r : Ongoing} {t : τ}

/-- A poll leaves a run that does not wait for ever, if the stream that it may ask for ends. -/
theorem poll_moving (moving : r.stage.Moving)
    (answer : (Transport.stream t r.session.request r.session.headers).1.Ends) (now : Nat) :
    (r.poll now t).run.stage.Moving := by
  have polled := poll_polled now r t
  generalize r.poll now t = turn at polled
  cases polled with
  | waiting undue => exact moving
  | called live => exact answer.startingAt now
  | accepted live passed => exact moving
  | received live passed => exact Feed.Ends.tail moving
  | _ => trivial

omit [Transport τ] in
private theorem due_of_moving (moving : r.stage.Moving) (going : ∀ result, r.stage ≠ .done result) :
    ∃ due, r.due? = some due := by
  obtain ⟨s, stage⟩ := r
  cases told : s.cancelled && stage.waits with
  | true => exact ⟨0, by simp only [due?, told, ↓reduceIte]⟩
  | false =>
    simp only [due?, told, Bool.false_eq_true, ↓reduceIte]
    cases stage with
    | fresh => exact ⟨0, rfl⟩
    | opening => exact ⟨0, rfl⟩
    | done result => exact absurd rfl (going result)
    | calling reply =>
      cases reply with
      | never => cases moving
      | after due reply => exact ⟨due, rfl⟩
    | listening since feed =>
      obtain ⟨items, staysOpen⟩ := feed
      cases items with
      | cons item items => exact ⟨since + item.1, rfl⟩
      | nil =>
        rcases moving with closes | ⟨delay, failure, member⟩
        · cases closes
          exact ⟨since, rfl⟩
        · cases member

end Ongoing

namespace Task

variable {τ : Type} [Transport τ] {base d : Dispatcher τ} {task : Task}

/-- An operation that does not wait for ever. -/
def Moving (task : Task) : Prop :=
  match task.state with
  | .calling reply => reply ≠ .never
  | .running r => r.stage.Moving
  | _ => True

/-- An operation that does not wait for ever can go on, unless it has ended. -/
theorem Moving.due (moving : task.Moving) (going : task.isOver = false) :
    ∃ due, task.due? = some due := by
  obtain ⟨op, state⟩ := task
  cases state with
  | fresh => exact ⟨0, rfl⟩
  | holding due p => exact ⟨due, rfl⟩
  | finished => cases going
  | calling reply =>
    cases reply with
    | never => exact absurd rfl moving
    | after due reply => exact ⟨due, rfl⟩
  | running r =>
    refine Ongoing.due_of_moving moving ?_
    rintro result ended
    obtain ⟨s, stage⟩ := r
    cases ended
    cases going

private theorem start_moving (answers : base.Answers) (steady : base.Steady)
    (reached : base.Reached d) (op : Operation) (plan : Operation.Plan) (now : Nat) :
    ((⟨op, .fresh⟩ : Task).start now d plan).task.Moving := by
  cases plan with
  | nothing notices result => trivial
  | stream s => trivial
  | single method ping =>
    have same := (steady op.mode).unary _ (reached.transports op.mode) method ping
      d.config.unaryHeaders
    have answer := (answers op.mode).unary method ping d.config.unaryHeaders
    rw [← same] at answer
    exact Eventual.startingAt_ne_never answer now

/-- A poll leaves an operation that does not wait for ever. -/
theorem poll_moving (answers : base.Answers) (steady : base.Steady) (reached : base.Reached d)
    (moving : task.Moving) (now : Nat) : (task.poll now d).task.Moving := by
  obtain ⟨op, state⟩ := task
  cases state with
  | fresh => exact start_moving answers steady reached op _ now
  | finished => trivial
  | calling reply =>
    cases reply with
    | never => exact moving
    | after due reply =>
      by_cases passed : due ≤ now
      · rw [poll_calling d passed]
        cases reply <;> trivial
      · rw [poll_undue d (by rintro _ ⟨⟩; exact Nat.not_le.mp passed)]
        exact moving
  | holding due p =>
    by_cases passed : due ≤ now
    · rw [poll_holding d passed]
      trivial
    · rw [poll_undue d (by rintro _ ⟨⟩; exact Nat.not_le.mp passed)]
      trivial
  | running r =>
    cases pending : r.due? with
    | none =>
      rw [poll_undue d (by intro due same; cases pending.symm.trans same)]
      exact moving
    | some due =>
      have same := (steady op.mode).stream _ (reached.transports op.mode) r.session.request
        r.session.headers
      have answer := (answers op.mode).stream r.session.request r.session.headers
      rw [poll_running d pending]
      exact Ongoing.poll_moving moving (same ▸ answer) now

end Task
end GatewayPing
