import Mathlib.Order.WellFounded

/-! Runs that come closer to a goal. A move of a program brings it closer to its goal, or lets no more
than time pass, which makes no difference to how far it is. A run that comes closer at some time,
whenever it has not reached its goal, reaches it (`Pace.reaches`). -/
namespace GatewayPing

/-- How states come closer to a goal, and what time does to them. -/
structure Pace (σ : Type) where
  Closer : σ → σ → Prop
  founded : WellFounded Closer
  /-- The state at a later time, with nothing else changed. -/
  pass : σ → Nat → σ
  pass_zero : ∀ s, pass s 0 = s
  pass_pass : ∀ s first second, pass (pass s first) second = pass s (max first second)
  closer_of_pass : ∀ {next s : σ} {time : Nat}, Closer next (pass s time) → Closer next s

namespace Pace

variable {σ : Type} {pace : Pace σ} {run : Nat → σ} {n k : Nat}

/-- A run of which each step brings it closer, or lets no more than time pass. -/
def Keeps (pace : Pace σ) (run : Nat → σ) : Prop :=
  ∀ n, pace.Closer (run (n + 1)) (run n) ∨ ∃ time, run (n + 1) = pace.pass (run n) time

/-- Between two moments a run comes closer, or no more than time passes. -/
theorem Keeps.between (keeps : pace.Keeps run) (ahead : n ≤ k) :
    (∃ j, pace.Closer (run j) (run n)) ∨ ∃ time, run k = pace.pass (run n) time := by
  induction ahead with
  | refl => exact .inr ⟨0, (pace.pass_zero _).symm⟩
  | @step k ahead ih =>
    rcases ih with closer | ⟨time, same⟩
    · exact .inl closer
    · rcases keeps k with closer | ⟨later, waits⟩
      · exact .inl ⟨k + 1, pace.closer_of_pass (same ▸ closer)⟩
      · exact .inr ⟨max time later, by rw [waits, same, pace.pass_pass]⟩

/-- A step that would bring a run closer from now on does so, unless another one did before. -/
theorem Keeps.closer (keeps : pace.Keeps run) (ahead : n ≤ k)
    (helps : ∀ time, run k = pace.pass (run n) time → pace.Closer (run (k + 1)) (run n)) :
    ∃ j, pace.Closer (run j) (run n) := by
  rcases keeps.between ahead with closer | ⟨time, same⟩
  · exact closer
  · exact ⟨k + 1, helps time same⟩

/-- A run reaches its goal if it comes closer at some time whenever it has not. -/
theorem reaches (pace : Pace σ) {Goal : σ → Prop}
    (closer : ∀ n, ¬ Goal (run n) → ∃ j, pace.Closer (run j) (run n)) : ∃ n, Goal (run n) := by
  obtain ⟨last, ⟨n, rfl⟩, least⟩ := pace.founded.has_min (Set.range run) (Set.range_nonempty run)
  refine ⟨n, by_contra fun missed => ?_⟩
  obtain ⟨j, nearer⟩ := closer n missed
  exact least _ ⟨j, rfl⟩ nearer

end Pace
end GatewayPing
