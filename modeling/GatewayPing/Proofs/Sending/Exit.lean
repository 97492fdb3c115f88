import GatewayPing.Proofs.Pace
import GatewayPing.Proofs.Sending.Soundness
import Mathlib.Data.Nat.Pairing

/-! The program that sends one input exits once its operation has ended. Every move brings it closer
to its exit, or lets no more than time pass (`Sending.move_cases`); if the operation has an end, there
is always a move that brings it closer, now or later. So it exits in any execution in which every
move is made again and again (`Sending.Sound.exits_of_fair`), and then it has shown all that the
operation tells, and how it ended (`Sending.Sound.complete`). -/
namespace GatewayPing.Sending

variable {τ : Type}

def Stage.rank : Stage → Nat
  | .awaiting => 2
  | .closing _ => 1
  | .exited _ => 0

/-- How far the program is from its exit: its operation is to be brought to its end, notifications to
be printed, and stages to be passed. -/
def rank (s : Sending τ) : Nat × (Nat × Nat) × Nat := (s.stage.rank, s.task.rank, s.channel.length)

/-- The program came closer to its exit. -/
def Closer (next s : Sending τ) : Prop :=
  Prod.Lex (· < ·) (Prod.Lex (Prod.Lex (· < ·) (· < ·)) (· < ·)) next.rank s.rank

private theorem closer_wf : WellFounded (@Closer τ) :=
  InvImage.wf rank
    (Prod.lex Nat.lt_wfRel (Prod.lex (Prod.lex Nat.lt_wfRel Nat.lt_wfRel) Nat.lt_wfRel)).wf

/-- Whether the program has exited. -/
def HasExited (s : Sending τ) : Prop := ∃ succeeded, s.stage = .exited succeeded

/-- The program later, with nothing else changed. -/
def pass (s : Sending τ) (time : Nat) : Sending τ := { s with clock := max s.clock time }

def pace : Pace (Sending τ) where
  Closer := Closer
  founded := closer_wf
  pass := pass
  pass_zero s := by simp [pass]
  pass_pass s first second := by simp [pass, Nat.max_assoc]
  closer_of_pass closer := closer

variable {colour : Bool} {s : Sending τ} {succeeded : Bool}

private theorem print_closer (waiting : s.channel ≠ []) : Closer (s.print colour) s := by
  cases queued : s.channel with
  | nil => exact absurd queued waiting
  | cons n channel =>
    simp only [print, queued]
    exact .right _ (.right _ (by simp [queued]))

private theorem exit_closer (stage : s.stage = .closing succeeded) (drained : s.channel = []) :
    Closer s.exit s := by
  simp only [exit, stage, drained]
  exact .left _ _ (by simp [stage, Stage.rank])

variable [Transport τ]

/-- A poll that is due ends the operation or brings it closer to its end. -/
theorem poll_closer {time due : Nat} (stage : s.stage = .awaiting) (pending : s.task.due? = some due)
    (passed : due ≤ time) : Closer (s.poll time) s := by
  have further := s.task.poll_rank s.dispatcher pending
    (Nat.le_trans passed (Nat.le_max_right s.clock time))
  simp only [poll, stage]
  cases Happening.verdict? (s.task.poll (max s.clock time) s.dispatcher).events with
  | none =>
    refine Prod.lex_def.mpr (.inr ⟨by simp [rank, stage], ?_⟩)
    exact .left _ _ further
  | some succeeded => exact .left _ _ (by simp [stage, Stage.rank])

/-- A move brings the program closer to its exit, unless it lets no more than time pass. -/
theorem move_cases (colour : Bool) (s : Sending τ) (m : Move) :
    Closer (s.move colour m) s ∨ ∃ time, s.move colour m = s.pass time := by
  have still : s = s.pass 0 := (pace.pass_zero s).symm
  cases m with
  | poll time =>
    cases stage : s.stage with
    | awaiting =>
      by_cases ready : ∃ due, s.task.due? = some due ∧ due ≤ max s.clock time
      · obtain ⟨due, pending, passed⟩ := ready
        have same : s.poll time = s.poll (max s.clock time) := by
          simp only [poll, ← Nat.max_assoc, Nat.max_self]
        exact .inl (by rw [move, same]; exact poll_closer stage pending passed)
      · have early := Task.poll_undue s.dispatcher fun due pending =>
          Nat.not_le.mp fun passed => ready ⟨due, pending, passed⟩
        refine .inr ⟨time, ?_⟩
        simp [move, poll, stage, early, pass, Happening.verdict?, Course.notices]
    | _ => exact .inr ⟨0, by simpa only [move, poll, stage] using still⟩
  | print =>
    cases queued : s.channel with
    | nil => exact .inr ⟨0, by simpa only [move, print, queued] using still⟩
    | cons n channel => exact .inl (print_closer (by simp [queued]))
  | exit =>
    cases stage : s.stage with
    | closing succeeded =>
      cases queued : s.channel with
      | nil => exact .inl (exit_closer stage queued)
      | cons n channel => exact .inr ⟨0, by simpa only [move, exit, stage, queued] using still⟩
    | _ => exact .inr ⟨0, by simpa only [move, exit, stage] using still⟩

/-- A sequence of moves without an end in which every move is made again and again, and in which
time goes on. -/
structure Fair (moves : Nat → Move) : Prop where
  polls : ∀ time n, ∃ k, n ≤ k ∧ ∃ later, time ≤ later ∧ moves k = .poll later
  prints : ∀ n, ∃ k, n ≤ k ∧ moves k = .print
  exits : ∀ n, ∃ k, n ≤ k ∧ moves k = .exit

/-- The program after the first moves of a sequence. -/
def during (colour : Bool) (s : Sending τ) (moves : Nat → Move) (n : Nat) : Sending τ :=
  s.after colour ((List.range n).map moves)

variable {moves : Nat → Move} {n k : Nat}

private theorem during_succ (s : Sending τ) (moves : Nat → Move) (n : Nat) :
    s.during colour moves (n + 1) = (s.during colour moves n).move colour (moves n) := by
  simp [during, after, List.range_succ]

private theorem during_keeps (s : Sending τ) (moves : Nat → Move) :
    pace.Keeps (s.during colour moves) := by
  intro n
  rw [during_succ]
  exact move_cases colour _ (moves n)

/-- A move that would bring the program closer from now on, and is made, does so unless another one
did before. -/
theorem during_closer (ahead : n ≤ k)
    (helps : ∀ time, Closer (((s.during colour moves n).pass time).move colour (moves k))
      (s.during colour moves n)) :
    ∃ j, Closer (s.during colour moves j) (s.during colour moves n) := by
  refine (during_keeps s moves).closer ahead fun time same => ?_
  rw [during_succ, same]
  exact helps time

variable {d : Dispatcher τ} {op : Operation} {past : List (Happening Operation.Result)}

/-- An operation that has an end, and has not ended, can go on. -/
theorem Sound.due (sound : Sound colour d op past s) (ends : (op.alone d).1.result? ≠ none)
    (stage : s.stage = .awaiting) : ∃ due, s.task.due? = some due := by
  rw [← Option.isSome_iff_exists, Option.isSome_iff_ne_none]
  intro settled
  have undecided : Happening.verdict? past = none := by rw [← sound.verdict, stage]; rfl
  have all : (op.alone d).1.events = past := by
    rw [sound.course, Task.solo_settled settled]
    exact List.append_nil past
  rw [← all, Happening.verdict?_events, Option.map_eq_none_iff] at undecided
  exact ends undecided

/-- In a fair execution the program comes closer to its exit, until it has exited. -/
theorem Sound.progress (sound : Sound colour d op past (s.during colour moves n))
    (ends : (op.alone d).1.result? ≠ none) (fair : Fair moves)
    (going : ¬ (s.during colour moves n).HasExited) :
    ∃ j, Closer (s.during colour moves j) (s.during colour moves n) := by
  cases stage : (s.during colour moves n).stage with
  | exited succeeded => exact absurd ⟨succeeded, stage⟩ going
  | awaiting =>
    obtain ⟨due, pending⟩ := sound.due ends stage
    obtain ⟨k, ahead, later, passed, polls⟩ := fair.polls due n
    refine during_closer ahead fun time => ?_
    rw [polls]
    exact poll_closer (s := (s.during colour moves n).pass time) stage pending passed
  | closing succeeded =>
    cases queued : (s.during colour moves n).channel with
    | nil =>
      obtain ⟨k, ahead, exits⟩ := fair.exits n
      refine during_closer ahead fun time => ?_
      rw [exits]
      exact exit_closer (s := (s.during colour moves n).pass time) stage queued
    | cons notice channel =>
      obtain ⟨k, ahead, prints⟩ := fair.prints n
      refine during_closer ahead fun time => ?_
      rw [prints]
      exact print_closer (s := (s.during colour moves n).pass time) (by simp [pass, queued])

/-- The program exits in every fair execution, if its operation has an end. -/
theorem Sound.exits_of_fair (sound : Sound colour d op past s)
    (ends : (op.alone d).1.result? ≠ none) (fair : Fair moves) :
    ∃ n, (s.during colour moves n).HasExited := by
  refine pace.reaches fun n going => ?_
  obtain ⟨past', later⟩ := sound.after ((List.range n).map moves)
  exact Sound.progress later ends fair going

/-- A sequence in which all moves come again and again. -/
def rotation (n : Nat) : Move :=
  match Nat.unpair n with
  | (0, _) => .print
  | (1, _) => .exit
  | (_, time) => .poll time

private theorem rotation_fair : Fair rotation := by
  have reached (code n : Nat) : n ≤ Nat.pair code n ∧ Nat.unpair (Nat.pair code n) = (code, n) :=
    ⟨Nat.right_le_pair code n, Nat.unpair_pair code n⟩
  refine ⟨?_, ?_, ?_⟩
  · intro time n
    obtain ⟨ahead, code⟩ := reached 2 (max time n)
    refine ⟨_, Nat.le_trans (Nat.le_max_right time n) ahead, max time n, Nat.le_max_left time n, ?_⟩
    rw [rotation, code]
    rfl
  · intro n
    exact ⟨_, (reached 0 n).1, by rw [rotation, (reached 0 n).2]; rfl⟩
  · intro n
    exact ⟨_, (reached 1 n).1, by rw [rotation, (reached 1 n).2]; rfl⟩

/-- At any time the program can be brought to its exit, if its operation has an end. -/
theorem Sound.exits (sound : Sound colour d op past s) (ends : (op.alone d).1.result? ≠ none) :
    ∃ more, (s.after colour more).HasExited := by
  obtain ⟨n, exited⟩ := sound.exits_of_fair ends rotation_fair
  exact ⟨_, exited⟩

/-- A program that has exited has come to the end of its operation: it has printed all that was told,
in its order, and its exit code tells how the operation ended. -/
theorem Sound.complete (sound : Sound colour d op past s) (exited : s.HasExited) :
    ∃ time result, (op.alone d).1.result? = some (time, result) ∧
      s.report = ⟨Program.printed colour (op.alone d).1.notices, [],
        some (Program.exitCode result.succeeded)⟩ ∧
      s.dispatcher = (op.alone d).2 := by
  obtain ⟨succeeded, stage⟩ := exited
  have settled := Task.solo_settled (d := s.dispatcher) (sound.settled (by rw [stage]; nofun))
  have all : (op.alone d).1.events = past := by
    rw [sound.course, settled]
    exact List.append_nil past
  have verdict : (op.alone d).1.result?.map (·.2.succeeded) = some succeeded := by
    rw [← Happening.verdict?_events, all, ← sound.verdict, stage]
    rfl
  obtain ⟨⟨time, result⟩, ended, rfl⟩ := Option.map_eq_some_iff.mp verdict
  refine ⟨time, result, ended, ?_, ?_⟩
  · have output := sound.printed
    rw [sound.drained _ stage, ← all, ← Course.notices_events] at output
    simp only [report, stage, ← output]
    simp [Program.printed]
  · rw [sound.dispatcher, settled]

end GatewayPing.Sending
