import GatewayPing.Concurrent

/-! Operations that run side by side come to rest. An execution that polls whatever can go on is
made of polls and of waits that pass nothing by (`Board.run_moves`), and it stops only when no
operation can go on any more (`Board.run_settled`). -/
namespace GatewayPing.Board

variable {τ : Type} {b : Board τ} {order : List Nat} {time : Nat}

/-- No operation can go on any more. -/
def Settled (b : Board τ) : Prop := ∀ t ∈ b.tasks, t.due? = none

private theorem mem_due {t : Task} (member : t ∈ b.tasks) (pending : t.due? = some time) :
    time ∈ b.tasks.filterMap Task.due? :=
  List.mem_filterMap.mpr ⟨t, member, pending⟩

/-- Nothing is due before the next time at which anything is due. -/
theorem due?_le (first : b.due? = some time) {t : Task} (member : t ∈ b.tasks) {due : Nat}
    (pending : t.due? = some due) : time ≤ due :=
  (List.min?_eq_some_iff.mp first).2 due (mem_due member pending)

private theorem settled_of_next? (quiet : b.next? order = none) : b.Settled := by
  cases first : b.due? with
  | none =>
    intro t member
    cases pending : t.due? with
    | none => rfl
    | some due =>
      have empty := List.min?_eq_none_iff.mp first
      simpa [empty] using mem_due member pending
  | some time =>
    obtain ⟨t, member, pending⟩ :=
      List.mem_filterMap.mp (List.min?_eq_some_iff.mp first).1
    obtain ⟨i, inside, rfl⟩ := List.mem_iff_getElem.mp member
    simp only [next?, first, Option.bind_eq_bind, Option.bind_some] at quiet
    cases found : (order ++ List.range b.tasks.length).find?
        fun i => b.tasks[i]?.bind Task.due? == some time with
    | some i => simp [found] at quiet
    | none =>
      have missed := List.find?_eq_none.mp found i (by simp [inside])
      simp [inside, pending] at missed

/-- The clock may go on to the next time at which anything is due. -/
theorem wait_due (first : b.due? = some time) :
    b.wait time = { b with clock := max b.clock time } := by
  refine if_pos (List.all_eq_true.mpr ?_)
  intro t member
  cases pending : t.due? with
  | none => rfl
  | some due => exact decide_eq_true (due?_le first member pending)

variable [Transport τ] {schedule : Concurrent.Schedule} {polls : Nat}

private theorem run_rest (quiet : b.next? (schedule polls) = none) : b.run schedule polls = b := by
  rw [run]
  split
  · rfl
  · rename_i next
    cases quiet.symm.trans next

/-- An execution goes on with a wait and a poll. -/
theorem run_next {task : Nat} (next : b.next? (schedule polls) = some (time, task)) :
    b.run schedule polls = ((b.wait time).poll task).run schedule (polls + 1) := by
  rw [wait_due (next?_due next).1, run]
  split
  · rename_i quiet
    cases next.symm.trans quiet
  · rename_i found
    cases next.symm.trans found
    rfl

/-- An execution is a sequence of moves. -/
theorem run_moves (schedule : Concurrent.Schedule) (polls : Nat) (b : Board τ) :
    ∃ moves, b.run schedule polls = b.after moves := by
  induction polls, b using @run.induct _ ‹_› schedule with
  | case1 polls b quiet => exact ⟨[], run_rest quiet⟩
  | case2 polls b time task next ih =>
    obtain ⟨moves, same⟩ := ih
    refine ⟨.wait time :: .poll task :: moves, ?_⟩
    rw [run_next next, wait_due (next?_due next).1, same, ← wait_due (next?_due next).1]
    rfl

/-- An execution goes on until no operation can go on. -/
theorem run_settled (schedule : Concurrent.Schedule) (polls : Nat) (b : Board τ) :
    (b.run schedule polls).Settled := by
  induction polls, b using @run.induct _ ‹_› schedule with
  | case1 polls b quiet => exact (run_rest quiet).symm ▸ settled_of_next? quiet
  | case2 polls b time task next ih =>
    rw [run_next next, wait_due (next?_due next).1]
    exact ih

end GatewayPing.Board
