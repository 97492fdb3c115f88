import GatewayPing.Proofs.Console.Exit
import GatewayPing.Proofs.Concurrent.Settling

/-! One execution of the interactive program: it reads all lines, brings all operations to their
ends, and prints what they told. This is what `Program.perform` computes (`Console.performs`). -/
namespace GatewayPing.Console

open Text (Lines)

variable {τ : Type} {place : Surroundings} {default : Mode}

private theorem wait_cases (b : Board τ) (time : Nat) :
    b.wait time = b.pass time ∨ b.wait time = b := by
  unfold Board.wait
  split
  · exact .inl rfl
  · exact .inr rfl

/-- The program that has only read so far, and begun the operations of the lines. -/
def begun (d : Dispatcher τ) (unread : List Bytes) (ops : List Operation) : Console τ where
  stage := .reading
  unread := unread
  board := .start d ops
  channel := []
  output := []
  errors := []

/-- The program that has read all that it can, and has done nothing else. -/
def loaded (d : Dispatcher τ) (unread : List Bytes) (ops : List Operation) (succeeded : Bool)
    (errors : List String) : Console τ :=
  { begun d unread ops with stage := .joining succeeded, errors }

private theorem readLine_text (d : Dispatcher τ) (done : List String) {line : Bytes}
    (unread : List Bytes) {text : String} (decoded : Text.Utf8.decode line = .ok text) :
    (begun d (line :: unread) (operations place default done)).readLine place default =
      begun d unread (operations place default (done ++ [Lines.bare text])) := by
  rw [operations_concat]
  simp [readLine, begun, decoded, Board.spawn, Board.start, Lines.bare]

variable [Transport τ]

/-- What the program can come to. -/
def Reaches (place : Surroundings) (default : Mode) (c next : Console τ) : Prop :=
  ∃ moves, c.after place default moves = next

private theorem Reaches.refl (c : Console τ) : Reaches place default c c := ⟨[], rfl⟩

private theorem Reaches.trans {a b c : Console τ} (first : Reaches place default a b)
    (second : Reaches place default b c) : Reaches place default a c := by
  obtain ⟨moves, rfl⟩ := first
  obtain ⟨more, rfl⟩ := second
  exact ⟨moves ++ more, List.foldl_append⟩

private theorem Reaches.move (c : Console τ) (m : Move) :
    Reaches place default c (c.move place default m) := ⟨[m], rfl⟩

/-- All lines can be read before anything else happens. -/
theorem reaches_loaded (place : Surroundings) (default : Mode) (d : Dispatcher τ)
    (raw : List Bytes) (done : List String) :
    ∃ unread, Reaches place default (begun d raw (operations place default done))
      (loaded d unread (operations place default (done ++ (Lines.read raw).texts))
        (Lines.read raw).fault.isNone (complaints place.colour (Lines.read raw).fault)) := by
  induction raw generalizing done with
  | nil =>
    refine ⟨[], ?_⟩
    rw [Lines.read, List.append_nil]
    exact .move _ .read
  | cons line raw ih =>
    cases decoded : Text.Utf8.decode line with
    | error fault =>
      refine ⟨line :: raw, ?_⟩
      have broken : Reaches place default (begun d (line :: raw) (operations place default done)) _ :=
        .move _ .read
      simp only [move, readLine, begun, decoded] at broken
      rw [Lines.read, decoded, List.append_nil]
      exact broken
    | ok text =>
      obtain ⟨unread, later⟩ := ih (done ++ [Lines.bare text])
      refine ⟨unread, .trans (.move _ .read) ?_⟩
      rw [move, readLine_text d done raw decoded, Lines.read, decoded]
      rw [List.append_assoc] at later
      exact later

/-- What operations that run side by side do can be done before anything else happens. -/
theorem reaches_polled (place : Surroundings) (default : Mode) (c : Console τ)
    (moves : List Board.Move) :
    ∃ told, (c.board.after moves).sink = c.board.sink ++ told ∧
      Reaches place default c
        { c with board := c.board.after moves, channel := c.channel ++ told } := by
  induction moves generalizing c with
  | nil => exact ⟨[], (List.append_nil _).symm, by simpa [Board.after] using Reaches.refl c⟩
  | cons m moves ih =>
    cases m with
    | poll task =>
      obtain ⟨told, sink, later⟩ := ih (c.poll task)
      refine ⟨c.board.told task ++ told, ?_, .trans (.move c (.poll task)) ?_⟩
      · rw [← List.append_assoc, ← Board.poll_sink]
        exact sink
      · rw [← List.append_assoc]
        exact later
    | wait time =>
      have next : c.board.after (.wait time :: moves) = (c.board.wait time).after moves := rfl
      rcases wait_cases c.board time with waited | waited <;> rw [next, waited]
      · obtain ⟨told, sink, later⟩ := ih (c.pass time)
        exact ⟨told, sink, .trans (.move c (.pass time)) later⟩
      · exact ih c

/-- All that is in the channel can be printed before anything else happens. -/
theorem reaches_printed (c : Console τ) :
    Reaches place default c
      { c with channel := [], output := c.output ++ Program.printed place.colour c.channel } := by
  obtain ⟨stage, unread, board, channel, output, errors⟩ := c
  induction channel generalizing output with
  | nil => simpa [Program.printed] using Reaches.refl _
  | cons n channel ih =>
    refine .trans (.move _ .print) ?_
    simpa [move, print, Program.printed] using ih (output ++ [n.render place.colour])

/-- The last moves, once all has been printed. -/
theorem reaches_exited (c : Console τ) {succeeded : Bool} (stage : c.stage = .joining succeeded)
    (gone : c.board.allOver = true) (drained : c.channel = []) :
    Reaches place default c { c with stage := .exited succeeded } := by
  have joined : c.join = { c with stage := .closing succeeded } := by
    simp only [join, stage, gone, ↓reduceIte]
  have exited : exit { c with stage := .closing succeeded } =
      { c with stage := .exited succeeded } := by
    simp only [exit, drained, gone, ↓reduceIte]
  rw [← exited, ← joined]
  exact .trans (.move c .join) (.move c.join .exit)

variable {d : Dispatcher τ} {done : List String} {c : Console (Recorded τ)}

/-- Operations that do not wait for ever have ended once none of them can go on. -/
theorem Sound.allOver (sound : Sound place default d done c) (settled : c.board.Settled) :
    c.board.allOver = true := by
  refine List.all_eq_true.mpr ?_
  intro t member
  cases gone : t.isOver with
  | true => rfl
  | false =>
    obtain ⟨due, pending⟩ := (sound.moving t member).due gone
    cases (settled t member).symm.trans pending

/-- The program that has nothing left to do but to print all that the operations of its lines
told. -/
def performed (place : Surroundings) (default : Mode) (d : Dispatcher τ) (unread : List Bytes)
    (lines : Lines) : Console τ :=
  let b := Program.handleLines place default d lines.texts
  { loaded d unread (operations place default lines.texts) lines.fault.isNone
      (complaints place.colour lines.fault) with board := b, channel := b.sink }

private theorem reaches_performed (d : Dispatcher τ) (raw : List Bytes) :
    ∃ unread, Reaches place default (begun d raw [])
      (performed place default d unread (Lines.read raw)) := by
  obtain ⟨unread, read⟩ := reaches_loaded place default d raw []
  rw [List.nil_append] at read
  obtain ⟨polls, run⟩ := Board.run_moves place.schedule 0
    (Board.start d (operations place default (Lines.read raw).texts))
  obtain ⟨told, sink, polled⟩ := reaches_polled place default
    (loaded d unread (operations place default (Lines.read raw).texts)
      (Lines.read raw).fault.isNone (complaints place.colour (Lines.read raw).fault)) polls
  have board : (Board.start d (operations place default (Lines.read raw).texts)).after polls =
      Program.handleLines place default d (Lines.read raw).texts := run.symm
  have all : told = (Program.handleLines place default d (Lines.read raw).texts).sink := by
    rw [← board]
    exact sink.symm
  refine ⟨unread, read.trans ?_⟩
  rw [all] at polled
  simpa only [performed, loaded, begun, board, List.nil_append] using polled

/-- There is an execution of which all is seen that `Program.perform` shows. -/
theorem performs (steady : d.Steady) (answers : d.Answers) :
    ∃ c, Reaches place default (start d.recorded place.input) c ∧ c.HasExited ∧
      Program.perform place d.recorded (.interactive default) = (c.report, c.board.dispatcher) := by
  obtain ⟨unread, reached⟩ : ∃ unread, Reaches place default (start d.recorded place.input)
      (performed place default d.recorded unread (Lines.ofBytes place.input)) :=
    reaches_performed d.recorded (Text.cutLines place.input)
  have gone : (Program.handleLines place default d.recorded
      (Lines.ofBytes place.input).texts).allOver = true := by
    obtain ⟨moves, after⟩ := reached
    obtain ⟨done, sound⟩ := (start_sound place default d).after steady answers moves
    rw [after] at sound
    exact sound.allOver (Board.run_settled _ _ _)
  refine ⟨_, (reached.trans (reaches_printed _)).trans (reaches_exited _ rfl gone rfl),
    ⟨_, rfl⟩, ?_⟩
  refine Prod.ext ?_ rfl
  simp only [Program.perform, Program.reportLines]
  rw [if_pos (by exact gone)]
  rfl

end GatewayPing.Console
