import GatewayPing.Proofs.Concurrent.Answering
import GatewayPing.Proofs.Concurrent.Joining
import GatewayPing.Proofs.Text.Lines

/-! What holds of the interactive program at any time (`Console.Sound`). The lines that were read
and those that can still be read are the lines of the input; the operations of those that were read
are on their way; what was printed and what the printer will still get is all that was told. Every
move preserves that (`Console.Sound.move`). -/
namespace GatewayPing

/-- Nothing more comes of operations that have ended. -/
theorem Board.poll_allOver {τ : Type} [Transport τ] {b : Board τ} (gone : b.allOver = true)
    (task : Nat) : b.poll task = b ∧ b.told task = [] := by
  rcases b.poll_cases task with same | ⟨t, due, found, pending, -⟩
  · exact same
  · have ended := List.all_eq_true.mp gone t (List.mem_of_getElem? found)
    cases (Task.due?_over ended).symm.trans pending

private theorem Dispatcher.Answers.recorded {τ : Type} [Transport τ] {d : Dispatcher τ}
    (answers : d.Answers) : d.recorded.Answers := by
  intro mode
  rw [recorded_select]
  exact (answers mode).recorded []

/-- No poll leaves an operation that waits for ever. -/
theorem Board.poll_moving {τ : Type} [Transport τ] {base : Dispatcher τ} {b : Board τ}
    (answers : base.Answers) (steady : base.Steady) (reached : base.Reached b.dispatcher)
    (moving : ∀ t ∈ b.tasks, t.Moving) (task : Nat) : ∀ t ∈ (b.poll task).tasks, t.Moving := by
  unfold Board.poll
  split
  · exact moving
  · rename_i t found
    intro other member
    rcases List.mem_or_eq_of_mem_set member with old | rfl
    · exact moving other old
    · exact Task.poll_moving answers steady reached (moving t (List.mem_of_getElem? found)) _

/-- Lines that were read after others. -/
def Text.Lines.following (lines : Lines) (done : List String) : Lines :=
  ⟨done ++ lines.texts, lines.fault⟩

namespace Console

open Text (Lines)

variable {τ : Type}

/-- The operations of lines. -/
def operations (place : Surroundings) (default : Mode) (texts : List String) : List Operation :=
  texts.zipIdx.map fun (text, i) => Program.lineOperation (place.ids i) default text

theorem operations_concat (place : Surroundings) (default : Mode) (texts : List String)
    (text : String) :
    operations place default (texts ++ [text]) =
      operations place default texts ++
        [Program.lineOperation (place.ids texts.length) default text] := by
  simp [operations, List.zipIdx_append]

@[simp] theorem length_operations (place : Surroundings) (default : Mode) (texts : List String) :
    (operations place default texts).length = texts.length := by
  simp [operations]

/-- What is said about a line that could not be read. -/
def complaints (colour : Bool) (fault : Option Text.Utf8.Fault) : List String :=
  fault.toList.map fun f => failureText colour "Failed to read stdin" f.message

namespace Stage

/-- How the program exits, once that is known. -/
def verdict? : Stage → Option Bool
  | .reading => none
  | .joining succeeded => some succeeded
  | .closing succeeded => some succeeded
  | .exited succeeded => some succeeded

/-- Whether the operations are waited for no more. -/
def joined : Stage → Bool
  | .reading => false
  | .joining _ => false
  | _ => true

end Stage

variable [Transport τ] {place : Surroundings} {default : Mode} {d : Dispatcher τ}
  {done : List String} {c : Console (Recorded τ)}

/-- The program has read some lines, and has lost nothing. -/
structure Sound (place : Surroundings) (default : Mode) (d : Dispatcher τ) (done : List String)
    (c : Console (Recorded τ)) : Prop where
  board : c.board.Follows d.recorded (operations place default done)
  moving : ∀ t ∈ c.board.tasks, t.Moving
  calls : ∀ mode, c.board.dispatcher.callsOf mode = callsIn mode (c.board.calls.map (·.event))
  reading : c.stage = .reading →
    (Lines.read c.unread).following done = Lines.ofBytes place.input ∧ c.errors = []
  read : ∀ succeeded ∈ c.stage.verdict?,
    done = (Lines.ofBytes place.input).texts ∧
      c.errors = complaints place.colour (Lines.ofBytes place.input).fault ∧
      succeeded = (Lines.ofBytes place.input).fault.isNone
  gone : c.stage.joined = true → c.board.allOver = true
  drained : ∀ succeeded, c.stage = .exited succeeded → c.channel = []
  printed : c.output ++ Program.printed place.colour c.channel =
    Program.printed place.colour c.board.sink

theorem start_sound (place : Surroundings) (default : Mode) (d : Dispatcher τ) :
    Sound place default d [] (start d.recorded place.input) where
  board := Board.start_follows d.recorded
  moving := by simp [start, Board.start]
  calls := d.recorded_callsOf
  reading := fun _ => ⟨rfl, rfl⟩
  read := nofun
  gone := nofun
  drained := nofun
  printed := rfl

theorem Sound.pass (sound : Sound place default d done c) (time : Nat) :
    Sound place default d done { c with board := c.board.pass time } :=
  { sound with board := sound.board.pass time }

/-- The next line is read, its operation is begun. -/
theorem Sound.begin {unread : List Bytes} {line : Bytes} {text : String}
    (sound : Sound place default d done c) (stage : c.stage = .reading)
    (next : c.unread = line :: unread) (decoded : Text.Utf8.decode line = .ok text) :
    let rest := String.ofList (Text.withoutEnd text.toList)
    let id := place.ids c.board.tasks.length
    Sound place default d (done ++ [rest])
      { c with unread, board := c.board.spawn (Program.lineOperation id default rest) } := by
  intro rest id
  have length : c.board.tasks.length = done.length := by simpa using sound.board.length
  refine { sound with board := ?_, moving := ?_, reading := ?_, read := ?_, gone := ?_ }
  · rw [operations_concat, ← length]
    exact sound.board.spawn _
  · intro t member
    rcases List.mem_append.mp member with old | new
    · exact sound.moving t old
    · obtain rfl := List.mem_singleton.mp new
      trivial
  · intro _
    obtain ⟨whole, quiet⟩ := sound.reading stage
    refine ⟨?_, quiet⟩
    rw [← whole, next]
    simp [Lines.following, Lines.read, decoded, rest]
  · intro succeeded known
    simp only [stage] at known
    cases known
  · intro joined
    simp only [stage] at joined
    cases joined

private theorem Sound.readLine (sound : Sound place default d done c) :
    ∃ done', Sound place default d done' (c.readLine place default) := by
  cases stage : c.stage with
  | reading =>
    obtain ⟨whole, quiet⟩ := sound.reading stage
    cases next : c.unread with
    | nil =>
      simp only [Console.readLine, stage, next]
      refine ⟨done, { sound with reading := nofun, read := ?_, gone := nofun, drained := nofun }⟩
      rintro _ ⟨⟩
      rw [next] at whole
      rw [← whole]
      exact ⟨(List.append_nil done).symm, quiet, rfl⟩
    | cons line unread =>
      simp only [Console.readLine, stage, next]
      cases decoded : Text.Utf8.decode line with
      | error fault =>
        refine ⟨done, { sound with reading := nofun, read := ?_, gone := nofun, drained := nofun }⟩
        rintro _ ⟨⟩
        rw [next, Lines.read, decoded] at whole
        rw [← whole, quiet]
        exact ⟨(List.append_nil done).symm, rfl, rfl⟩
      | ok text => exact ⟨_, by simpa only [stage] using sound.begin stage next decoded⟩
  | _ =>
    simp only [Console.readLine, stage]
    exact ⟨done, sound⟩

private theorem Sound.poll (sound : Sound place default d done c) (steady : d.Steady)
    (answers : d.Answers) (task : Nat) : Sound place default d done (c.poll task) := by
  have steady := Board.recorded_steady steady
  have board := sound.board.poll steady task
  refine { sound with
    board := board, moving := ?_, calls := ?_, gone := ?_, drained := ?_, printed := ?_ }
  · exact Board.poll_moving answers.recorded steady sound.board.dispatcher sound.moving task
  · intro mode
    exact Board.after_calls (sound.calls mode) [.poll task]
  · intro joined
    have gone := sound.gone joined
    simpa only [Console.poll, (Board.poll_allOver gone task).1] using gone
  · intro succeeded ended
    have gone := sound.gone (by rw [show c.stage = .exited succeeded from ended]; rfl)
    simp only [Console.poll, (Board.poll_allOver gone task).2, List.append_nil]
    exact sound.drained succeeded ended
  · simp only [Console.poll, Board.poll_sink, Program.printed, List.map_append]
    rw [← List.append_assoc]
    exact congrArg (· ++ _) sound.printed

private theorem Sound.print (sound : Sound place default d done c) :
    Sound place default d done (c.print place.colour) := by
  unfold Console.print
  split
  · exact sound
  · rename_i n channel queued
    refine { sound with drained := ?_, printed := ?_ }
    · intro succeeded ended
      cases (sound.drained succeeded ended).symm.trans queued
    · rw [← sound.printed, queued]
      simp [Program.printed]

private theorem Sound.join (sound : Sound place default d done c) :
    Sound place default d done c.join := by
  obtain ⟨stage, unread, board, channel, output, errors⟩ := c
  cases stage with
  | joining succeeded =>
    simp only [Console.join]
    split
    · rename_i gone
      exact { sound with reading := nofun, gone := fun _ => gone, drained := nofun }
    · exact sound
  | _ => exact sound

private theorem Sound.exit (sound : Sound place default d done c) :
    Sound place default d done c.exit := by
  obtain ⟨stage, unread, board, channel, output, errors⟩ := c
  cases stage with
  | closing succeeded =>
    cases channel with
    | nil =>
      simp only [Console.exit]
      split
      · rename_i gone
        exact { sound with reading := nofun, gone := fun _ => gone, drained := fun _ _ => rfl }
      · exact sound
    | cons n channel => exact sound
  | _ => exact sound

/-- Every move keeps what holds of the program. -/
theorem Sound.move (sound : Sound place default d done c) (steady : d.Steady)
    (answers : d.Answers) (m : Move) :
    ∃ done', Sound place default d done' (c.move place default m) := by
  cases m with
  | read => exact sound.readLine
  | poll task => exact ⟨done, sound.poll steady answers task⟩
  | pass time => exact ⟨done, sound.pass time⟩
  | print => exact ⟨done, sound.print⟩
  | join => exact ⟨done, sound.join⟩
  | exit => exact ⟨done, sound.exit⟩

theorem Sound.after (sound : Sound place default d done c) (steady : d.Steady)
    (answers : d.Answers) (moves : List Move) :
    ∃ done', Sound place default d done' (c.after place default moves) := by
  induction moves generalizing done c with
  | nil => exact ⟨done, sound⟩
  | cons m moves ih =>
    obtain ⟨done', next⟩ := sound.move steady answers m
    exact ih next

end Console
end GatewayPing
