import GatewayPing.Console
import GatewayPing.Proofs.Concurrent.Independence
import GatewayPing.Proofs.Concurrent.Late

/-! Operations that begin one after another, while the clock goes as it likes. What an operation has
done and what it would still do alone make up what it does alone from the start, but for the times
(`Board.Follows`). Every poll preserves that, however late it comes; a new operation has everything
before it. -/
namespace GatewayPing

/-- An operation that has ended waits for nothing. -/
theorem Task.due?_over {t : Task} (gone : t.isOver = true) : t.due? = none := by
  obtain ⟨op, state⟩ := t
  cases state with
  | running r =>
    obtain ⟨s, stage⟩ := r
    cases stage with
    | done result => exact Ongoing.due?_done
    | _ => cases gone
  | finished => rfl
  | _ => cases gone

namespace Board

open Concurrent (Interleaves ofTask ofTask_ahead ofTask_append ofTask_same ofTask_other
  task_lt_append)

variable {τ : Type} [Transport τ] {base : Dispatcher τ} {ops : List Operation} {b : Board τ}
  {i : Nat} {op : Operation} {t : Task}

/-- What an operation has done so far, with what it would still do alone. -/
def view (base : Dispatcher τ) (b : Board τ) (i : Nat) (t : Task) : Task.Solo τ where
  course := ofTask i b.log ++ (t.solo base).course
  calls := ofTask i b.calls ++ (t.solo base).calls
  task := (t.solo base).task
  dispatcher := (t.solo base).dispatcher

/-- Operations are on their way to what they do alone, sooner or later. -/
structure Follows (base : Dispatcher τ) (ops : List Operation) (b : Board τ) : Prop where
  dispatcher : base.Reached b.dispatcher
  length : b.tasks.length = ops.length
  each : ∀ i op t, ops[i]? = some op → b.tasks[i]? = some t →
    ((⟨op, .fresh⟩ : Task).solo base).Matches (b.view base i t)
  logged : ∀ entry ∈ b.log, entry.task < ops.length
  called : ∀ entry ∈ b.calls, entry.task < ops.length

theorem start_follows (base : Dispatcher τ) : (start base []).Follows base [] where
  dispatcher := .refl base
  length := rfl
  each := by simp
  logged := by simp [start]
  called := by simp [start]

theorem Follows.pass (follows : b.Follows base ops) (time : Nat) :
    (b.pass time).Follows base ops := { follows with }

theorem Follows.spawn (follows : b.Follows base ops) (op : Operation) :
    (b.spawn op).Follows base (ops ++ [op]) := by
  refine ⟨follows.dispatcher, ?_, ?_, ?_, ?_⟩
  · simp [Board.spawn, follows.length]
  · intro i other t given found
    simp only [Board.spawn] at found
    rcases Nat.lt_trichotomy i ops.length with before | rfl | beyond
    · rw [List.getElem?_append_left before] at given
      rw [List.getElem?_append_left (follows.length ▸ before)] at found
      exact follows.each i other t given found
    · rw [List.getElem?_concat_length] at given
      rw [← follows.length, List.getElem?_concat_length] at found
      cases given
      cases found
      have told := ofTask_ahead follows.logged
      have called := ofTask_ahead follows.called
      refine ⟨?_, ?_, .refl _⟩
      · simp [view, Board.spawn, told]
      · simp [view, Board.spawn, called]
    · rw [List.getElem?_eq_none (by simpa using Nat.succ_le_of_lt beyond)] at given
      cases given
  · intro entry member
    simpa using Nat.lt_succ_of_lt (follows.logged entry member)
  · intro entry member
    simpa using Nat.lt_succ_of_lt (follows.called entry member)

/-- A poll of an operation that can go on, on time or late. -/
theorem Follows.poll_due (follows : b.Follows base ops) (steady : base.Steady) {due : Nat}
    (found : b.tasks[i]? = some t) (pending : t.due? = some due) (passed : due ≤ b.clock) :
    (b.poll i).Follows base ops := by
  have inside : i < b.tasks.length := (List.getElem?_eq_some_iff.mp found).1
  have begun := Task.solo_poll_late steady follows.dispatcher pending passed
  simp only [poll, found]
  refine ⟨Task.poll_reached follows.dispatcher t b.clock, ?_, ?_,
    task_lt_append _ follows.logged (follows.length ▸ inside),
    task_lt_append _ follows.called (follows.length ▸ inside)⟩
  · simpa using follows.length
  · intro j op other given there
    by_cases same : i = j
    · subst same
      rw [List.getElem?_set_self inside] at there
      obtain rfl := Option.some.inj there
      have before := follows.each i op t given found
      refine ⟨?_, ?_, before.task.trans begun.task⟩
      · rw [before.course]
        simp only [view, Timeline.events_append, ofTask_append, ofTask_same, List.append_assoc,
          begun.course, Task.Turn.before]
      · rw [before.calls]
        simp only [view, Timeline.events_append, ofTask_append, ofTask_same, List.append_assoc,
          begun.calls, Task.Turn.before]
    · rw [List.getElem?_set_ne same] at there
      have before := follows.each j op other given there
      refine ⟨?_, ?_, before.task⟩
      · rw [before.course]
        simp only [view, ofTask_append, ofTask_other same, List.append_nil]
      · rw [before.calls]
        simp only [view, ofTask_append, ofTask_other same, List.append_nil]

/-- A poll changes nothing, unless it is one of an operation that can go on. -/
theorem poll_cases (b : Board τ) (i : Nat) :
    b.poll i = b ∧ b.told i = [] ∨
      ∃ t due, b.tasks[i]? = some t ∧ t.due? = some due ∧ due ≤ b.clock := by
  cases found : b.tasks[i]? with
  | none => exact .inl ⟨by simp only [poll, found], by simp only [told, found]⟩
  | some t =>
    by_cases undue : ∀ due, t.due? = some due → b.clock < due
    · have still := Task.poll_undue b.dispatcher undue
      refine .inl ⟨poll_still found still, ?_⟩
      simp only [told, found, still]
      rfl
    · obtain ⟨due, pending⟩ := Classical.not_forall.mp undue
      obtain ⟨pending, passed⟩ := Classical.not_imp.mp pending
      exact .inr ⟨t, due, rfl, pending, Nat.not_lt.mp passed⟩

theorem Follows.poll (follows : b.Follows base ops) (steady : base.Steady) (i : Nat) :
    (b.poll i).Follows base ops := by
  rcases b.poll_cases i with ⟨same, -⟩ | ⟨t, due, found, pending, passed⟩
  · exact same.symm ▸ follows
  · exact follows.poll_due steady found pending passed

/-- What is told at a poll comes after what was told before. -/
theorem poll_sink (b : Board τ) (i : Nat) : (b.poll i).sink = b.sink ++ b.told i := by
  cases found : b.tasks[i]? with
  | none => simp only [sink, poll, told, found, List.append_nil]
  | some t =>
    simp [sink, poll, told, found, Concurrent.merged, Course.notices, Function.comp_def]

/-- An operation that has ended has done what it does alone. -/
theorem Follows.of_over (follows : b.Follows base ops) (gone : b.allOver = true)
    (given : ops[i]? = some op) :
    ((⟨op, .fresh⟩ : Task).solo base).course.events = (ofTask i b.log).events ∧
      ((⟨op, .fresh⟩ : Task).solo base).calls.events = (ofTask i b.calls).events := by
  have inside : i < b.tasks.length := follows.length ▸ (List.getElem?_eq_some_iff.mp given).1
  have found := List.getElem?_eq_getElem inside
  have ended : b.tasks[i].isOver = true := List.all_eq_true.mp gone _ (List.getElem_mem inside)
  have matched := follows.each i op _ given found
  simp only [view, Task.solo_settled (Task.due?_over ended), List.append_nil] at matched
  exact ⟨matched.course, matched.calls⟩

end Board
end GatewayPing
