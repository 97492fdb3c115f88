import GatewayPing.Proofs.Console.Performing
import GatewayPing.Proofs.Wording
import Mathlib.Data.Nat.Pairing

/-! The interactive program loses nothing. When it exits, the operations of the lines before the
first that is no text have come to their ends and made their calls, and all that they told was
printed, each operation's in its order (`Console.Complete`). It does exit, whatever the order of its
moves (`Console.nothing_lost`); `Program.perform` shows one such order. -/
namespace GatewayPing

namespace Concurrent

variable {ε β : Type}

private theorem events_merged (log : List (Entry ε)) : (merged log).events = log.map (·.event) := by
  simp [merged, Timeline.events, Function.comp_def]

/-- What is read off the part of a log that belongs to one operation. -/
theorem filterMap_ofTask (f : ε → Option β) (i : Nat) (log : List (Entry ε)) :
    ((log.filterMap fun entry => (f entry.event).map (entry.task, ·)).filter (·.1 == i)).map (·.2) =
      (ofTask i log).events.filterMap f := by
  rw [ofTask, events_merged]
  induction log with
  | nil => rfl
  | cons entry log ih =>
    by_cases same : entry.task = i
    · cases told : f entry.event with
      | none => simpa [told, same] using ih
      | some seen => simpa [told, same] using ih
    · cases told : f entry.event with
      | none => simpa [told, same] using ih
      | some seen => simpa [told, same] using ih

/-- What is read off a log is put together from what is read off its parts. -/
theorem interleaves_filterMap (f : ε → Option β) {log : List (Entry ε)} {parts : List (List β)}
    (inside : ∀ entry ∈ log, entry.task < parts.length)
    (each : ∀ i part, parts[i]? = some part → (ofTask i log).events.filterMap f = part) :
    Interleaves parts ((merged log).events.filterMap f) := by
  refine ⟨log.filterMap fun entry => (f entry.event).map (entry.task, ·), ?_, ?_, ?_⟩
  · rw [events_merged, List.filterMap_map, List.map_filterMap]
    congr 1
    funext entry
    simp [Function.comp_def]
  · intro marked member
    obtain ⟨entry, there, told⟩ := List.mem_filterMap.mp member
    obtain ⟨seen, -, rfl⟩ := Option.map_eq_some_iff.mp told
    exact inside entry there
  · intro i part found
    rw [filterMap_ofTask, each i part found]

end Concurrent

private theorem callsIn_filterMap (mode : Mode) (calls : List (Mode × Call)) :
    callsIn mode calls =
      calls.filterMap fun call => if call.1 == mode then some call.2 else none := by
  rw [callsIn, ← List.filterMap_eq_filter, List.map_filterMap]
  congr 1
  funext call
  by_cases same : call.1 = mode <;> simp [Option.guard, same]

namespace Console

open Concurrent (Interleaves ofTask)
open Text (Lines)

variable {τ : Type} [Transport τ] {place : Surroundings} {default : Mode} {d : Dispatcher τ}
  {done : List String} {lines : Lines} {c : Console (Recorded τ)}

/-- What comes of lines if each is handled alone: of its input, in its mode. -/
def handled (place : Surroundings) (default : Mode) (d : Dispatcher τ) (texts : List String) :
    List (Course (Except OperationError Outcome) × Dispatcher τ) :=
  texts.zipIdx.map fun (text, i) =>
    let line := Line.read default text
    d.handle (place.ids i) line.input line.mode

/-- What the interactive program has done when it exits. -/
structure Complete (place : Surroundings) (default : Mode) (d : Dispatcher τ) (lines : Lines)
    (c : Console (Recorded τ)) : Prop where
  /-- All that comes of the lines has come, to the end of each. -/
  ended : c.board.allOver = true
  finished : ∀ i part, (handled place default d.recorded lines.texts)[i]? = some part →
    (ofTask i c.board.log).events = Timeline.events (part.1.map Operation.Result.outcome)
  /-- The calls of the lines were made, and no others. -/
  calls : ∀ mode, Interleaves
    ((handled place default d.recorded lines.texts).map fun part => part.2.callsOf mode)
    (c.board.dispatcher.callsOf mode)
  /-- All that the lines tell was printed once, what one line tells in its order. -/
  output : ∃ told,
    Interleaves ((handled place default d.recorded lines.texts).map (·.1.notices)) told ∧
    Notification.Lines place.colour told c.report.output
  valid : lines.fault = none → c.report.errors = [] ∧ c.report.exitCode = some 0
  invalid : ∀ fault, lines.fault = some fault →
    c.report.errors = [failureText place.colour "Failed to read stdin" fault.message] ∧
      c.report.exitCode = some 1

/-- What comes of a line is what comes of its operation. -/
theorem handled_alone {i : Nat} {part : Course (Except OperationError Outcome) × Dispatcher τ}
    (found : (handled place default d done)[i]? = some part) :
    ∃ op, (operations place default done)[i]? = some op ∧
      op.alone d = (part.1.map Operation.Result.outcome, part.2) := by
  rw [handled, List.getElem?_map] at found
  obtain ⟨⟨text, j⟩, given, rfl⟩ := Option.map_eq_some_iff.mp found
  refine ⟨Program.lineOperation (place.ids j) default text, ?_, ?_⟩
  · rw [operations, List.getElem?_map, given, Option.map_some]
  · simp only [Program.lineOperation, Operation.alone]

private theorem length_handled (place : Surroundings) (default : Mode) (d : Dispatcher τ)
    (texts : List String) : (handled place default d texts).length = texts.length := by
  simp [handled]

/-- What the operation of a line has done by the time at which all have ended. -/
theorem Sound.finished (sound : Sound place default d done c) (gone : c.board.allOver = true)
    {i : Nat} {part : Course (Except OperationError Outcome) × Dispatcher (Recorded τ)}
    (found : (handled place default d.recorded done)[i]? = some part) :
    (ofTask i c.board.log).events = Timeline.events (part.1.map Operation.Result.outcome) ∧
      ∀ mode, callsIn mode (ofTask i c.board.calls).events = part.2.callsOf mode := by
  obtain ⟨op, given, alone⟩ := handled_alone found
  obtain ⟨course, calls⟩ := sound.board.of_over gone given
  obtain ⟨same, left⟩ := Task.solo_alone op d.recorded
  rw [alone] at same left
  refine ⟨by rw [← course, same], ?_⟩
  intro mode
  rw [← calls, ← left, Task.solo_calls, d.recorded_callsOf]
  rfl

/-- The calls that were made by then. -/
theorem Sound.made (sound : Sound place default d done c) (gone : c.board.allOver = true)
    (mode : Mode) :
    Interleaves ((handled place default d.recorded done).map fun part => part.2.callsOf mode)
      (c.board.dispatcher.callsOf mode) := by
  rw [sound.calls mode, callsIn_filterMap, ← Concurrent.events_merged]
  refine Concurrent.interleaves_filterMap _ ?_ ?_
  · simpa [length_handled] using sound.board.called
  · intro i calls found
    rw [List.getElem?_map] at found
    obtain ⟨part, given, rfl⟩ := Option.map_eq_some_iff.mp found
    rw [← callsIn_filterMap, (sound.finished gone given).2 mode]

/-- What was told by then. -/
theorem Sound.told (sound : Sound place default d done c) (gone : c.board.allOver = true) :
    Interleaves ((handled place default d.recorded done).map (·.1.notices)) c.board.sink := by
  rw [Board.sink, Course.notices_events]
  refine Concurrent.interleaves_filterMap _ ?_ ?_
  · simpa [length_handled] using sound.board.logged
  · intro i notices found
    rw [List.getElem?_map] at found
    obtain ⟨part, given, rfl⟩ := Option.map_eq_some_iff.mp found
    rw [(sound.finished gone given).1, ← Course.notices_events, Course.notices_map]

/-- A program that has exited has done all that it should. -/
theorem Sound.complete (sound : Sound place default d done c) (exited : c.HasExited) :
    c.Complete place default d (Lines.ofBytes place.input) := by
  obtain ⟨succeeded, stage⟩ := exited
  have gone : c.board.allOver = true := sound.gone (by rw [stage]; rfl)
  have read := sound.read succeeded (by rw [stage]; rfl)
  have printed := sound.printed
  rw [sound.drained succeeded stage] at printed
  have code : c.report.exitCode = some (Program.exitCode succeeded) := by
    simp only [report, stage]
  generalize Lines.ofBytes place.input = lines at read
  obtain ⟨rfl, errors, verdict⟩ := read
  refine ⟨gone, fun i part found => (sound.finished gone found).1, sound.made gone, ?_, ?_, ?_⟩
  · have output : c.report.output = Program.printed place.colour c.board.sink :=
      (List.append_nil _).symm.trans printed
    exact ⟨c.board.sink, sound.told gone, output ▸ Notification.lines_render _ _⟩
  · intro whole
    rw [whole] at errors verdict
    rw [code, verdict]
    exact ⟨errors, rfl⟩
  · intro fault broken
    rw [broken] at errors verdict
    rw [code, verdict]
    exact ⟨errors, rfl⟩

/-- A sequence in which all moves come again and again. -/
def rotation (n : Nat) : Move :=
  match Nat.unpair n with
  | (0, _) => .read
  | (1, _) => .print
  | (2, _) => .join
  | (3, _) => .exit
  | (4, time) => .pass time
  | (task + 5, _) => .poll task

private theorem rotation_fair : Fair rotation := by
  have reached (code n : Nat) : n ≤ Nat.pair code n ∧ Nat.unpair (Nat.pair code n) = (code, n) :=
    ⟨Nat.right_le_pair code n, Nat.unpair_pair code n⟩
  refine ⟨?_, ?_⟩
  · intro m moving n
    have step (code : Nat) (made : rotation (Nat.pair code n) = m) :
        ∃ k, n ≤ k ∧ rotation k = m := ⟨_, (reached code n).1, made⟩
    cases m with
    | read => exact step 0 (by rw [rotation, (reached 0 n).2])
    | print => exact step 1 (by rw [rotation, (reached 1 n).2])
    | join => exact step 2 (by rw [rotation, (reached 2 n).2])
    | exit => exact step 3 (by rw [rotation, (reached 3 n).2])
    | poll task => exact step (task + 5) (by rw [rotation, (reached (task + 5) n).2])
    | pass time => exact absurd rfl (moving time)
  · intro time n
    obtain ⟨ahead, code⟩ := reached 4 (max time n)
    refine ⟨_, Nat.le_trans (Nat.le_max_right time n) ahead, max time n, Nat.le_max_left time n, ?_⟩
    rw [rotation, code]

/-- The interactive program and what it can come to. -/
structure Lossless (place : Surroundings) (default : Mode) (d : Dispatcher τ) (lines : Lines) :
    Prop where
  /-- Whatever the order of its moves, it has done all that it should when it exits. -/
  complete : ∀ moves, let c := (start d.recorded place.input).after place default moves
    c.HasExited → c.Complete place default d lines
  /-- At any time it can be brought to its exit, and it exits in every fair execution. -/
  exits : ∀ moves, let c := (start d.recorded place.input).after place default moves
    ∃ more, (c.after place default more).HasExited
  fair : ∀ moves, Fair moves →
    ∃ n, ((start d.recorded place.input).during place default moves n).HasExited
  /-- `Program.perform` shows one execution. -/
  performed : ∃ moves, let c := (start d.recorded place.input).after place default moves
    c.HasExited ∧
      Program.perform place d.recorded (.interactive default) = (c.report, c.board.dispatcher)

/-- Where every call comes to an end and depends on its request only, the interactive program loses
nothing: it reads the lines of its input up to the first that is no text. -/
theorem nothing_lost (place : Surroundings) (default : Mode) (steady : d.Steady)
    (answers : d.Answers) :
    ∃ raw lines, Text.Cut place.input raw ∧ Lines.Reads raw lines ∧
      Lossless place default d lines := by
  refine ⟨_, _, Text.cutLines_cut place.input, Lines.read_reads _, ?_⟩
  refine ⟨?_, ?_, ?_, ?_⟩
  · intro moves c exited
    obtain ⟨done, sound⟩ := (start_sound place default d).after steady answers moves
    exact sound.complete exited
  · intro moves
    obtain ⟨done, sound⟩ := (start_sound place default d).after steady answers moves
    exact sound.exits steady answers
  · intro moves fair
    exact exits_of_fair steady answers fair
  · obtain ⟨c, ⟨moves, rfl⟩, exited, same⟩ := performs steady answers
    exact ⟨moves, exited, same⟩

/-- A timestamp, a stream in the other mode and a blank line; then a byte that begins no character,
and one line more. -/
theorem nothing_lost_broken_line :
    let t : Rehearsal :=
      ⟨.text, [(10, .pong none "svc-a")], [(20, .feed ⟨[(5, .ok ⟨7, "svc-b"⟩)], false⟩)]⟩
    let u : Rehearsal :=
      ⟨.binary, [(0, .notReady "down")],
        [(3, .feed ⟨[(1, .ok ⟨7, "svc-a"⟩), (0, .error ⟨.internal, "gone"⟩)], true⟩)]⟩
    let d : Dispatcher Rehearsal := ⟨⟨t, u⟩, .default⟩
    let place : Surroundings :=
      { colour := false
        file := fun _ => .missing
        userConfig := none
        input := Text.Utf8.encode "1700\nbinary: 2 1700\r\n \n" ++ [0xFF, 0x0A, 0x37]
        ids := fun i => ⟨i⟩
        schedule := .ascending }
    (∃ raw lines, Text.Cut place.input raw ∧ Lines.Reads raw lines ∧
      Lossless place .text d lines) ∧ Fair rotation := by
  intro t u d place
  have steady : d.Steady := by
    intro mode
    cases mode with
    | text => exact Transport.steady_of_fixed (fun _ _ _ => rfl) fun _ _ => rfl
    | binary => exact Transport.steady_of_fixed (fun _ _ _ => rfl) fun _ _ => rfl
  have answers : d.Answers := by
    intro mode
    cases mode with
    | text => exact ⟨nofun, fun _ _ => .inl rfl⟩
    | binary => exact ⟨nofun, fun _ _ => .inr ⟨0, _, List.mem_cons_of_mem _ List.mem_cons_self⟩⟩
  exact ⟨nothing_lost place .text steady answers, rotation_fair⟩

end Console
end GatewayPing
