import GatewayPing.Operation

/-! What a poll of an operation can do. A poll that comes too early does nothing at all. One that
comes just in time makes nothing due that is already past. -/
namespace GatewayPing

namespace Stage

/-- Nothing that a stream brings is due before it is waited for. -/
theorem le_due_listening {since due : Nat} {feed : Feed}
    (pending : (listening since feed).due? = some due) : since ≤ due := by
  obtain ⟨items, staysOpen⟩ := feed
  cases items with
  | nil =>
    cases staysOpen with
    | true => cases pending
    | false =>
      cases pending
      exact Nat.le_refl since
  | cons item items =>
    cases pending
    exact Nat.le_add_right since item.1

end Stage

namespace Ongoing

variable {τ : Type} [Transport τ] {now : Nat} {r : Ongoing}

private theorem advance_undue {s : Session} {stage : Stage} (t : τ)
    (undue : ∀ due, stage.due? = some due → now < due) :
    (⟨s, stage⟩ : Ongoing).advance now t = { run := ⟨s, stage⟩, transport := t } := by
  cases stage with
  | fresh => rfl
  | done result => rfl
  | opening => exact absurd (undue 0 rfl) (Nat.not_lt_zero now)
  | calling reply =>
    cases reply with
    | never => rfl
    | after due reply => exact if_neg (Nat.not_le.mpr (undue due rfl))
  | listening since feed =>
    obtain ⟨items, staysOpen⟩ := feed
    cases items with
    | nil =>
      cases staysOpen with
      | true => rfl
      | false => exact if_neg (Nat.not_le.mpr (undue since rfl))
    | cons item items => exact if_neg (Nat.not_le.mpr (undue (since + item.1) rfl))

/-- A poll before anything is due changes nothing. -/
theorem poll_undue (t : τ) (undue : ∀ due, r.due? = some due → now < due) :
    r.poll now t = { run := r, transport := t } := by
  obtain ⟨s, stage⟩ := r
  cases stage with
  | done result => rfl
  | fresh => exact absurd (undue 0 due?_fresh) (Nat.not_lt_zero now)
  | _ =>
    cases told : s.cancelled with
    | true => exact absurd (undue 0 (due?_told rfl told)) (Nat.not_lt_zero now)
    | false =>
      rw [poll_live rfl told]
      exact advance_undue t fun due pending => undue due ((due?_live told).trans pending)

/-- What is due after a poll is not due before it. -/
theorem le_due_poll (t : τ) (pending : r.due? = some now) {due : Nat}
    (next : (r.poll now t).run.due? = some due) : now ≤ due := by
  have polled := poll_polled now r t
  generalize r.poll now t = turn at polled next
  cases polled with
  | waiting undue => exact absurd (undue now pending) (Nat.lt_irrefl now)
  | started idle =>
    cases due?_fresh.symm.trans pending
    exact Nat.zero_le due
  | called live =>
    cases due?_opening.symm.trans pending
    exact Nat.zero_le due
  | accepted live passed =>
    exact Stage.le_due_listening ((due?_live live).symm.trans next)
  | @received s since delay p items staysOpen live passed =>
    exact Stage.le_due_listening ((due?_live (s := s.apply (.pong p)) live).symm.trans next)
  | refused busy => simp at next
  | ended e waits => simp [finish] at next

end Ongoing

namespace Task

variable {τ : Type} [Transport τ] {now : Nat} {task : Task} {op : Operation} {r : Ongoing}

/-- The poll of an operation whose session can go on is that of the session. -/
theorem poll_running {due : Nat} (d : Dispatcher τ) (pending : r.due? = some due) :
    (⟨op, .running r⟩ : Task).poll now d = (⟨op, .running r⟩ : Task).proceed now d r := by
  obtain ⟨s, stage⟩ := r
  cases stage with
  | done result => simp at pending
  | _ => rfl

theorem poll_calling {due : Nat} {reply : Except CallError Pong} (d : Dispatcher τ)
    (passed : due ≤ now) :
    (⟨op, .calling (.after due reply)⟩ : Task).poll now d =
      (⟨op, .calling (.after due reply)⟩ : Task).answered now d reply := if_pos passed

theorem poll_holding {due : Nat} {p : Pong} (d : Dispatcher τ) (passed : due ≤ now) :
    (⟨op, .holding due p⟩ : Task).poll now d =
      (⟨op, .holding due p⟩ : Task).finish d [.ofPong p] (op.ofPong (.ok p)) := if_pos passed

private theorem proceed_undue {stage : Stage} {s : Session} (d : Dispatcher τ)
    (going : ∀ result, stage ≠ .done result)
    (undue : ∀ due, (⟨s, stage⟩ : Ongoing).due? = some due → now < due) :
    (⟨op, .running ⟨s, stage⟩⟩ : Task).proceed now d ⟨s, stage⟩ =
      { task := ⟨op, .running ⟨s, stage⟩⟩, dispatcher := d } := by
  simp only [proceed, Ongoing.poll_undue _ undue, Dispatcher.update_select, Option.map_none]
  cases stage with
  | done result => exact absurd rfl (going result)
  | _ => rfl

/-- A poll before anything is due changes nothing. -/
theorem poll_undue (d : Dispatcher τ) (undue : ∀ due, task.due? = some due → now < due) :
    task.poll now d = { task := task, dispatcher := d } := by
  obtain ⟨op, state⟩ := task
  cases state with
  | fresh => exact absurd (undue 0 rfl) (Nat.not_lt_zero now)
  | calling reply =>
    cases reply with
    | never => rfl
    | after due reply => exact if_neg (Nat.not_le.mpr (undue due rfl))
  | holding due p => exact if_neg (Nat.not_le.mpr (undue due rfl))
  | finished => rfl
  | running r =>
    obtain ⟨s, stage⟩ := r
    cases stage with
    | done result => rfl
    | _ => exact proceed_undue d nofun undue

/-- What is due after a poll is not due before it. -/
theorem le_due_poll (d : Dispatcher τ) (pending : task.due? = some now) {due : Nat}
    (next : (task.poll now d).task.due? = some due) : now ≤ due := by
  obtain ⟨op, state⟩ := task
  cases state with
  | fresh =>
    cases pending
    exact Nat.zero_le due
  | finished => cases pending
  | holding limit p =>
    cases pending
    rw [poll_holding d (Nat.le_refl now)] at next
    cases next
  | calling reply =>
    cases reply with
    | never => cases pending
    | after limit reply =>
      cases pending
      rw [poll_calling d (Nat.le_refl now)] at next
      cases reply with
      | error e => cases next
      | ok p =>
        cases next
        exact Nat.le_add_right now _
  | running r =>
    rw [poll_running d pending] at next
    exact Ongoing.le_due_poll _ pending next

end Task
end GatewayPing
