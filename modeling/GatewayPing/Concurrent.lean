import GatewayPing.Operation

/-! Operations that run side by side on one dispatcher. They begin together (`Board.start`), or one
after another (`Board.spawn`). They are polled in any order and as often as anybody likes
(`Board.poll`), and the clock stands still while any of them can go on (`Board.wait`). Whatever is
seen is written down with its time and with the operation that it belongs to.

`Board.run` is one such execution: it always polls an operation that can go on, which one is up to a
schedule. -/
namespace GatewayPing

namespace Concurrent

variable {ε : Type}

/-- What an operation, given by its index, did at a time. -/
structure Entry (ε : Type) where
  time : Nat
  task : Nat
  event : ε
  deriving Repr

/-- A log as one timeline, whoever did what. -/
def merged (log : List (Entry ε)) : Timeline ε := log.map fun entry => (entry.time, entry.event)

/-- What one operation did. -/
def ofTask (task : Nat) (log : List (Entry ε)) : Timeline ε :=
  merged (log.filter (·.task == task))

/-- The order in which operations are preferred, for each poll. Operations that an order leaves out
come after the others. -/
abbrev Schedule := Nat → List Nat

/-- Prefers operations in ascending order at all times. -/
def Schedule.ascending : Schedule := fun _ => []

end Concurrent

open Concurrent (Entry Schedule)

/-- Operations that run side by side, and what was seen of them so far: what became known to the
outside, and the calls with the mode in which they were made. -/
structure Board (τ : Type) where
  clock : Nat
  dispatcher : Dispatcher τ
  tasks : List Task
  log : List (Entry (Happening Operation.Result))
  calls : List (Entry (Mode × Call))
  deriving Repr

namespace Board

variable {τ : Type}

/-- Begins operations. -/
def start (d : Dispatcher τ) (ops : List Operation) : Board τ where
  clock := 0
  dispatcher := d
  tasks := ops.map fun op => ⟨op, .fresh⟩
  log := []
  calls := []

/-- Begins one more operation. -/
def spawn (b : Board τ) (op : Operation) : Board τ :=
  { b with tasks := b.tasks ++ [⟨op, .fresh⟩] }

/-- Polls an operation. -/
def poll [Transport τ] (b : Board τ) (task : Nat) : Board τ :=
  match b.tasks[task]? with
  | none => b
  | some t =>
    let turn := t.poll b.clock b.dispatcher
    { clock := b.clock
      dispatcher := turn.dispatcher
      tasks := b.tasks.set task turn.task
      log := b.log ++ turn.events.map (⟨b.clock, task, ·⟩)
      calls := b.calls ++ turn.call.toList.map (⟨b.clock, task, ·⟩) }

/-- Lets the clock go on to a time, unless an operation can go on before. -/
def wait (b : Board τ) (time : Nat) : Board τ :=
  if b.tasks.all (·.due?.all (time ≤ ·)) then { b with clock := max b.clock time } else b

/-- What can happen next. -/
inductive Move where
  | poll (task : Nat)
  | wait (time : Nat)
  deriving DecidableEq, Repr

def move [Transport τ] (b : Board τ) : Move → Board τ
  | .poll task => b.poll task
  | .wait time => b.wait time

/-- Operations after moves. -/
def after [Transport τ] (b : Board τ) (moves : List Move) : Board τ := moves.foldl move b

/-- The next time at which any operation can go on. -/
def due? (b : Board τ) : Option Nat := (b.tasks.filterMap Task.due?).min?

/-- The operation to poll next and the time for it: one of those that can go on first. -/
def next? (order : List Nat) (b : Board τ) : Option (Nat × Nat) := do
  let time ← b.due?
  let task ← (order ++ List.range b.tasks.length).find? fun i =>
    b.tasks[i]?.bind Task.due? == some time
  some (time, task)

theorem next?_due {order : List Nat} {b : Board τ} {time task : Nat}
    (next : b.next? order = some (time, task)) :
    b.due? = some time ∧ ∃ t, b.tasks[task]? = some t ∧ t.due? = some time := by
  obtain ⟨limit, first, next⟩ := Option.bind_eq_some_iff.mp next
  obtain ⟨i, found, next⟩ := Option.bind_eq_some_iff.mp next
  cases next
  refine ⟨first, ?_⟩
  have pending := List.find?_some found
  exact Option.bind_eq_some_iff.mp (eq_of_beq pending)

/-- How far operations are from their end: the sums of what is left for each. -/
def rank (b : Board τ) : Nat × Nat :=
  (b.tasks.foldr (fun t n => t.rank.1 + n) 0, b.tasks.foldr (fun t n => t.rank.2 + n) 0)

private theorem foldr_set (weight : Task → Nat) (tasks : List Task) {i : Nat} {t : Task}
    (found : tasks[i]? = some t) (t' : Task) :
    (tasks.set i t').foldr (fun t n => weight t + n) 0 + weight t =
      tasks.foldr (fun t n => weight t + n) 0 + weight t' := by
  induction tasks generalizing i with
  | nil => simp at found
  | cons head tasks ih =>
    cases i with
    | zero =>
      cases found
      simp only [List.set_cons_zero, List.foldr_cons]
      omega
    | succ i =>
      have rest := ih (i := i) found
      simp only [List.set_cons_succ, List.foldr_cons]
      omega

theorem poll_rank [Transport τ] {b : Board τ} {task : Nat} {t : Task} {time : Nat}
    (found : b.tasks[task]? = some t) (pending : t.due? = some time) (passed : time ≤ b.clock) :
    Prod.Lex (· < ·) (· < ·) (b.poll task).rank b.rank := by
  have closer := t.poll_rank b.dispatcher pending passed
  simp only [poll, found, rank]
  -- In both sums only the share of the operation that is polled changes.
  have first := foldr_set (·.rank.1) b.tasks found (t.poll b.clock b.dispatcher).task
  have second := foldr_set (·.rank.2) b.tasks found (t.poll b.clock b.dispatcher).task
  rcases Prod.lex_def.mp closer with less | ⟨same, less⟩
  · exact .left _ _ (by omega)
  · exact Prod.lex_def.mpr (.inr ⟨by omega, by omega⟩)

/-- Runs operations until none of them can go on any more. -/
def run [Transport τ] (schedule : Schedule) (polls : Nat) (b : Board τ) : Board τ :=
  match _ : b.next? (schedule polls) with
  | none => b
  | some (time, task) =>
    run schedule (polls + 1) (({ b with clock := max b.clock time } : Board τ).poll task)
termination_by b.rank
decreasing_by
  obtain ⟨-, t, found, pending⟩ := next?_due (by assumption)
  exact poll_rank (b := { b with clock := max b.clock time }) found pending (Nat.le_max_right _ _)

/-- What the user is told. -/
def sink (b : Board τ) : List Notification := Course.notices (Concurrent.merged b.log)

end Board
end GatewayPing
