import GatewayPing.Proofs.Text.Utf8
import GatewayPing.Text.Lines

/-! Lines. There is one way to cut a byte sequence into lines, each with the newline that ends it,
and `cutLines` finds it (`cutLines_cut`, `Cut.unique`). Of the lines, those before the first that is
not UTF-8 are read (`Lines.read_reads`). -/
namespace GatewayPing.Text

/-- A byte sequence in lines: a newline ends each line but the last, which may go without, and
stands nowhere else. -/
inductive Cut : Bytes → List Bytes → Prop where
  | nothing : Cut [] []
  | tail {line : Bytes} (some : line ≠ []) (inside : newline ∉ line) : Cut line [line]
  | line {line rest : Bytes} {lines : List Bytes} (inside : newline ∉ line)
      (later : Cut rest lines) :
      Cut (line ++ newline :: rest) ((line ++ [newline]) :: lines)

private theorem cutLinesFrom_cut (line s : Bytes) (inside : newline ∉ line) :
    Cut (line.reverse ++ s) (cutLinesFrom line s) := by
  induction s generalizing line with
  | nil =>
    cases line with
    | nil => exact .nothing
    | cons b line =>
      rw [List.append_nil]
      exact .tail (by simp) (mt List.mem_reverse.mp inside)
  | cons b s ih =>
    by_cases ends : b = newline
    · have later := ih [] (by simp)
      have cut := Cut.line (by simpa using inside : newline ∉ line.reverse) later
      simpa [cutLinesFrom, ends] using cut
    · have later := ih (b :: line) (by simp [inside, Ne.symm ends])
      simpa [cutLinesFrom, ends] using later

theorem cutLines_cut (s : Bytes) : Cut s (cutLines s) := cutLinesFrom_cut [] s (by simp)

/-- Two beginnings without a newline, each before one. -/
theorem append_newline_inj {first second rest rest' : Bytes} (inside : newline ∉ first)
    (inside' : newline ∉ second) (same : first ++ newline :: rest = second ++ newline :: rest') :
    first = second ∧ rest = rest' := by
  induction first generalizing second with
  | nil =>
    cases second with
    | nil => exact ⟨rfl, (List.cons.inj same).2⟩
    | cons b second => exact absurd (List.mem_cons.mpr (.inl (List.cons.inj same).1)) inside'
  | cons b first ih =>
    cases second with
    | nil => exact absurd (List.mem_cons.mpr (.inl (List.cons.inj same).1.symm)) inside
    | cons b' second =>
      obtain ⟨rfl, later⟩ := List.cons.inj same
      obtain ⟨rfl, rest⟩ := ih (List.not_mem_of_not_mem_cons inside)
        (List.not_mem_of_not_mem_cons inside') later
      exact ⟨rfl, rest⟩

/-- A byte sequence is cut into lines in one way. -/
theorem Cut.unique {s : Bytes} {lines lines' : List Bytes} (cut : Cut s lines)
    (cut' : Cut s lines') : lines = lines' := by
  induction cut generalizing lines' with
  | nothing =>
    generalize whole : ([] : Bytes) = s at cut'
    cases cut' with
    | nothing => rfl
    | tail some inside => exact absurd whole.symm some
    | line inside later => simp at whole
  | @tail line some inside =>
    cases cut' with
    | nothing => exact absurd rfl some
    | tail some' inside' => rfl
    | line inside' later => simp at inside
  | @line line rest lines inside later ih =>
    generalize whole : line ++ newline :: rest = s at cut'
    cases cut' with
    | nothing => simp at whole
    | tail some' inside' => simp [← whole] at inside'
    | line inside' later' =>
      obtain ⟨rfl, rfl⟩ := append_newline_inj inside inside' whole
      rw [ih later']

namespace Lines

/-- A text without the end of its line. -/
def bare (text : String) : String := String.ofList (withoutEnd text.toList)

/-- What is read of lines: their texts if all of them are texts, and otherwise those before the
first that is none. -/
inductive Reads : List Bytes → Lines → Prop where
  | whole (texts : List String) : Reads (texts.map Utf8.encode) ⟨texts.map bare, none⟩
  | broken (texts : List String) {bad : Bytes} (rest : List Bytes) (fault : Utf8.Fault)
      (none : ∀ text, bad ≠ Utf8.encode text) :
      Reads (texts.map Utf8.encode ++ bad :: rest) ⟨texts.map bare, some fault⟩

private theorem Reads.cons {raw : List Bytes} {lines : Lines} (reads : Reads raw lines)
    (text : String) : Reads (Utf8.encode text :: raw) ⟨bare text :: lines.texts, lines.fault⟩ := by
  cases reads with
  | whole texts => exact .whole (text :: texts)
  | broken texts rest fault none => exact .broken (text :: texts) rest fault none

theorem read_reads (raw : List Bytes) : Reads raw (read raw) := by
  induction raw with
  | nil => exact .whole []
  | cons line raw ih =>
    cases decoded : Utf8.decode line with
    | error fault =>
      rw [read, decoded]
      refine .broken [] raw fault ?_
      intro text same
      rw [Utf8.decode_eq_ok_iff.mpr same] at decoded
      cases decoded
    | ok text =>
      rw [read, decoded, Utf8.decode_eq_ok_iff.mp decoded]
      exact ih.cons text

end Lines
end GatewayPing.Text
