import GatewayPing.Proofs.Console.Soundness
import GatewayPing.Proofs.Pace

/-! The interactive program exits. Every move brings it closer to its exit, or does nothing, or lets
time pass (`Console.move_cases`); and as long as it has not exited, there is a move that brings it
closer, now or later (`Console.Sound.progress`). So from anywhere it can be brought to its exit, and
it exits in any execution that makes every move again and again (`Console.exits_of_fair`). -/
namespace GatewayPing.Console

variable {τ : Type}

/-- How far a stage is from the exit. -/
def Stage.rank : Stage → Nat
  | .reading => 3
  | .joining _ => 2
  | .closing _ => 1
  | .exited _ => 0

/-- How far the program is from its exit: lines are to be read and stages to be passed, operations to
be brought to their ends, and notifications to be printed. -/
def rank (c : Console τ) : Nat × (Nat × Nat) × Nat :=
  (c.stage.rank + c.unread.length, c.board.rank, c.channel.length)

/-- The program came closer to its exit. -/
def Closer (next c : Console τ) : Prop :=
  Prod.Lex (· < ·) (Prod.Lex (Prod.Lex (· < ·) (· < ·)) (· < ·)) next.rank c.rank

private theorem closer_wf : WellFounded (@Closer τ) :=
  InvImage.wf rank
    (Prod.lex Nat.lt_wfRel (Prod.lex (Prod.lex Nat.lt_wfRel Nat.lt_wfRel) Nat.lt_wfRel)).wf

/-- Whether the program has exited. -/
def HasExited (c : Console τ) : Prop := ∃ succeeded, c.stage = .exited succeeded

/-- The program later, with nothing else changed. -/
def pass (c : Console τ) (time : Nat) : Console τ := { c with board := c.board.pass time }

private theorem pass_pass (c : Console τ) (first second : Nat) :
    (c.pass first).pass second = c.pass (max first second) := by
  simp [pass, Board.pass, Nat.max_assoc]

def pace : Pace (Console τ) where
  Closer := Closer
  founded := closer_wf
  pass := pass
  pass_zero c := by simp [pass, Board.pass]
  pass_pass := pass_pass
  closer_of_pass closer := closer

variable {place : Surroundings} {default : Mode} {c : Console τ}

private theorem readLine_closer (stage : c.stage = .reading) :
    Closer (c.readLine place default) c := by
  cases next : c.unread with
  | nil =>
    simp only [readLine, stage, next]
    exact .left _ _ (by simp [stage, next, Stage.rank])
  | cons line unread =>
    simp only [readLine, stage, next]
    cases Text.Utf8.decode line with
    | error fault => exact .left _ _ (by simp [stage, next, Stage.rank])
    | ok text => exact .left _ _ (by simp [stage, next, Stage.rank])

private theorem print_closer (waiting : c.channel ≠ []) : Closer (c.print place.colour) c := by
  cases queued : c.channel with
  | nil => exact absurd queued waiting
  | cons n channel =>
    simp only [print, queued]
    exact .right _ (.right _ (by simp [queued]))

private theorem join_closer {succeeded : Bool} (stage : c.stage = .joining succeeded)
    (gone : c.board.allOver = true) : Closer c.join c := by
  simp only [join, stage, gone, ↓reduceIte]
  exact .left _ _ (by simp [stage, Stage.rank])

private theorem exit_closer {succeeded : Bool} (stage : c.stage = .closing succeeded)
    (drained : c.channel = []) (gone : c.board.allOver = true) : Closer c.exit c := by
  simp only [exit, stage, drained, gone, ↓reduceIte]
  exact .left _ _ (by simp [stage, Stage.rank])

variable [Transport τ]

private theorem poll_closer {task due : Nat} {t : Task} (found : c.board.tasks[task]? = some t)
    (pending : t.due? = some due) (passed : due ≤ c.board.clock) : Closer (c.poll task) c :=
  .right _ (.left _ _ (Board.poll_rank found pending passed))

/-- A move brings the program closer to its exit, unless it does nothing or lets time pass. -/
theorem move_cases (place : Surroundings) (default : Mode) (c : Console τ) (m : Move) :
    Closer (c.move place default m) c ∨ ∃ time, c.move place default m = c.pass time := by
  have still : c = c.pass 0 := by simp [pass, Board.pass]
  cases m with
  | read =>
    cases stage : c.stage with
    | reading => exact .inl (readLine_closer stage)
    | _ => exact .inr ⟨0, by simpa only [move, readLine, stage] using still⟩
  | poll task =>
    rcases c.board.poll_cases task with ⟨same, silent⟩ | ⟨t, due, found, pending, passed⟩
    · refine .inr ⟨0, ?_⟩
      simpa only [move, poll, same, silent, List.append_nil] using still
    · exact .inl (poll_closer found pending passed)
  | pass time => exact .inr ⟨time, rfl⟩
  | print =>
    cases queued : c.channel with
    | nil => exact .inr ⟨0, by simpa only [move, print, queued] using still⟩
    | cons n channel => exact .inl (print_closer (by simp [queued]))
  | join =>
    cases stage : c.stage with
    | joining succeeded =>
      cases gone : c.board.allOver with
      | true => exact .inl (join_closer stage gone)
      | false => exact .inr ⟨0, by simpa [move, join, stage, gone] using still⟩
    | _ => exact .inr ⟨0, by simpa only [move, join, stage] using still⟩
  | exit =>
    cases stage : c.stage with
    | closing succeeded =>
      cases queued : c.channel with
      | nil =>
        cases gone : c.board.allOver with
        | true => exact .inl (exit_closer stage queued gone)
        | false => exact .inr ⟨0, by simpa [move, exit, stage, queued, gone] using still⟩
      | cons n channel => exact .inr ⟨0, by simpa only [move, exit, stage, queued] using still⟩
    | _ => exact .inr ⟨0, by simpa only [move, exit, stage] using still⟩

variable {d : Dispatcher τ} {done : List String} {c : Console (Recorded τ)}

/-- As long as the program has not exited, there is a move that brings it closer from some time
on. -/
theorem Sound.progress (sound : Sound place default d done c) (going : ¬ c.HasExited) :
    ∃ m time, (∀ later, m ≠ .pass later) ∧
      ∀ later, time ≤ later → Closer ((c.pass later).move place default m) c := by
  cases stage : c.stage with
  | exited succeeded => exact absurd ⟨succeeded, stage⟩ going
  | reading =>
    refine ⟨.read, 0, nofun, ?_⟩
    intro later _
    exact readLine_closer (c := c.pass later) stage
  | joining succeeded =>
    cases gone : c.board.allOver with
    | true =>
      refine ⟨.join, 0, nofun, ?_⟩
      intro later _
      exact join_closer (c := c.pass later) stage gone
    | false =>
      obtain ⟨t, member, running⟩ := List.all_eq_false.mp gone
      obtain ⟨i, inside, rfl⟩ := List.mem_iff_getElem.mp member
      obtain ⟨due, pending⟩ := (sound.moving _ member).due (Bool.eq_false_iff.mpr running)
      refine ⟨.poll i, due, nofun, ?_⟩
      intro later passed
      have found : (c.pass later).board.tasks[i]? = some c.board.tasks[i] :=
        List.getElem?_eq_getElem inside
      exact poll_closer found pending (Nat.le_trans passed (Nat.le_max_right _ _))
  | closing succeeded =>
    have gone : c.board.allOver = true := sound.gone (by rw [stage]; rfl)
    cases queued : c.channel with
    | nil =>
      refine ⟨.exit, 0, nofun, ?_⟩
      intro later _
      exact exit_closer (c := c.pass later) stage queued gone
    | cons n channel =>
      refine ⟨.print, 0, nofun, ?_⟩
      intro later _
      have waiting : (c.pass later).channel ≠ [] := by
        rw [show (c.pass later).channel = n :: channel from queued]
        exact List.cons_ne_nil n channel
      exact print_closer waiting

/-- From anywhere the program can be brought to its exit. -/
theorem Sound.exits (sound : Sound place default d done c) (steady : d.Steady)
    (answers : d.Answers) : ∃ moves, (c.after place default moves).HasExited := by
  induction c using closer_wf.induction generalizing done with
  | _ c ih =>
    by_cases ended : c.HasExited
    · exact ⟨[], ended⟩
    · obtain ⟨m, time, -, closer⟩ := sound.progress ended
      obtain ⟨done', next⟩ := (sound.pass time).move steady answers m
      obtain ⟨moves, exited⟩ := ih _ (closer time (Nat.le_refl time)) next
      exact ⟨.pass time :: m :: moves, exited⟩

/-- A sequence of moves without an end in which every move is made again and again, and in which
time goes on. -/
structure Fair (moves : Nat → Move) : Prop where
  again : ∀ m, (∀ time, m ≠ .pass time) → ∀ n, ∃ k, n ≤ k ∧ moves k = m
  clock : ∀ time n, ∃ k, n ≤ k ∧ ∃ later, time ≤ later ∧ moves k = .pass later

/-- The program after the first moves of a sequence. -/
def during (place : Surroundings) (default : Mode) (c : Console (Recorded τ))
    (moves : Nat → Move) (n : Nat) : Console (Recorded τ) :=
  c.after place default ((List.range n).map moves)

variable {moves : Nat → Move} {n k : Nat}

private theorem during_succ (c : Console (Recorded τ)) (moves : Nat → Move) (n : Nat) :
    c.during place default moves (n + 1) =
      (c.during place default moves n).move place default (moves n) := by
  simp [during, after, List.range_succ]

/-- Between two moments the program comes closer to its exit, or nothing but time passes. -/
theorem during_cases (c : Console (Recorded τ)) (moves : Nat → Move) (ahead : n ≤ k) :
    (∃ j, Closer (c.during place default moves j) (c.during place default moves n)) ∨
      ∃ time, c.during place default moves k = (c.during place default moves n).pass time := by
  have keeps : pace.Keeps (c.during place default moves) := by
    intro n
    rw [during_succ]
    exact move_cases place default _ (moves n)
  exact keeps.between ahead

/-- In a fair execution the program comes closer to its exit, until it has exited. -/
theorem Sound.during_closer (sound : Sound place default d done (c.during place default moves n))
    (fair : Fair moves) (going : ¬ (c.during place default moves n).HasExited) :
    ∃ k, Closer (c.during place default moves k) (c.during place default moves n) := by
  obtain ⟨m, time, moving, closer⟩ := sound.progress going
  obtain ⟨i, ahead, later, enough, passes⟩ := fair.clock time n
  obtain ⟨k, beyond, made⟩ := fair.again m moving (i + 1)
  rcases during_cases c moves ahead with closer | ⟨first, same⟩
  · exact closer
  have waited : c.during place default moves (i + 1) =
      (c.during place default moves n).pass (max first later) := by
    rw [during_succ, passes, same, ← pass_pass]
    rfl
  rcases during_cases c moves beyond with ⟨j, closer⟩ | ⟨second, same'⟩
  · rw [waited] at closer
    exact ⟨j, closer⟩
  · refine ⟨k + 1, ?_⟩
    rw [during_succ, made, same', waited, pass_pass]
    exact closer _ (by omega)

/-- The program exits in every fair execution. -/
theorem exits_of_fair (steady : d.Steady) (answers : d.Answers) (fair : Fair moves) :
    ∃ n, ((start d.recorded place.input).during place default moves n).HasExited := by
  refine pace.reaches fun n going => ?_
  obtain ⟨done, sound⟩ := (start_sound place default d).after steady answers
    ((List.range n).map moves)
  exact Sound.during_closer sound fair going

end GatewayPing.Console
