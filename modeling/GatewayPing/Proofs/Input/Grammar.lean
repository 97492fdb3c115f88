import GatewayPing.Input
import GatewayPing.Proofs.Text.Trim
import Mathlib.Algebra.Group.Nat.Defs

/-! The grammar of the input field. A line is blank, or it holds a timestamp, or a count and a
timestamp, or it is unreadable; it is one of these (`exists_sentence`), and one only (`Says.unique`).
The readers of timestamps and of streams accept exactly the lines of their kind, and only where the
shape of the line is theirs. -/
namespace GatewayPing

open Text

/-- The number that a row of decimal digits denotes. The row is not empty. -/
structure Text.Denotes (digits : List Char) (n : Nat) : Prop where
  nonempty : digits ≠ []
  decimal : ∀ c ∈ digits, c.isDigit = true
  value : Nat.ofDigitChars 10 digits 0 = n

namespace Input

/-- A number with blanks around it. -/
def HoldsNumber (cs : List Char) (v : Nat) : Prop :=
  ∃ before digits after, cs = before ++ digits ++ after ∧
    Blanks before ∧ Denotes digits v ∧ Blanks after

/-- Two numbers with blanks around them and at least one blank between them. -/
def HoldsNumbers (cs : List Char) (n v : Nat) : Prop :=
  ∃ before count between digits after, cs = before ++ count ++ between ++ digits ++ after ∧
    Blanks before ∧ Denotes count n ∧ Blanks between ∧ between ≠ [] ∧ Denotes digits v ∧
    Blanks after

/-- What a line of input says. -/
inductive Sentence where
  | blank
  | timestamp (v : Nat)
  | stream (count v : Nat)
  /-- Anything else; the text is the line without the blanks around it. -/
  | unreadable (text : List Char)
  deriving DecidableEq, Repr

/-- The grammar. -/
inductive Says (cs : List Char) : Sentence → Prop where
  | blank (blanks : Blanks cs) : Says cs .blank
  | timestamp {v : Nat} (number : HoldsNumber cs v) (fits : v ≤ 2 ^ 63 - 1) :
      Says cs (.timestamp v)
  | stream {n v : Nat} (numbers : HoldsNumbers cs n v) (positive : 1 ≤ n)
      (fits : v ≤ 2 ^ 63 - 1) : Says cs (.stream n v)
  | unreadable {text : List Char} (trimmed : Trimmed cs text) (marked : ¬ Blanks cs)
      (single : ∀ v, HoldsNumber cs v → 2 ^ 63 - 1 < v)
      (double : ∀ n v, HoldsNumbers cs n v → n = 0 ∨ 2 ^ 63 - 1 < v) :
      Says cs (.unreadable text)

/-! Digits. -/

private theorem isBlank_of_isDigit {c : Char} (digit : c.isDigit = true) : isBlank c = false := by
  have range : 48 ≤ c.toNat ∧ c.toNat ≤ 57 := by
    simpa [Char.isDigit, UInt32.le_iff_toNat_le] using digit
  simp only [isBlank, Bool.or_eq_false_iff, Bool.and_eq_false_iff, decide_eq_false_iff_not,
    beq_eq_false_iff_ne]
  omega

variable {cs digits : List Char} {n m v w : Nat}

private theorem number?_eq_some : number? cs = some n ↔ Denotes cs n := by
  unfold number?
  constructor
  · intro read
    split at read
    · rename_i row
      obtain ⟨filled, decimal⟩ : cs ≠ [] ∧ ∀ c ∈ cs, c.isDigit = true := by simpa using row
      exact ⟨filled, decimal, Option.some.inj read⟩
    · cases read
  · rintro ⟨filled, decimal, rfl⟩
    exact if_pos (by simpa using And.intro filled decimal)

private theorem timestampOfDigits?_eq_some {t : Int64} :
    timestampOfDigits? cs = some t ↔ ∃ v, Denotes cs v ∧ v ≤ 2 ^ 63 - 1 ∧ t = .ofNat v := by
  simp only [timestampOfDigits?, Option.bind_eq_bind, Option.bind_eq_some_iff, number?_eq_some,
    Option.ite_none_right_eq_some, Option.some.injEq, @eq_comm _ t]
  rfl

/-- A number that fits is carried over unchanged. -/
theorem eq_ofNat_iff {t : Int64} (fits : v ≤ 2 ^ 63 - 1) : t = .ofNat v ↔ t.toInt = v := by
  rw [← Int64.toInt_inj, Int64.toInt_ofNat_of_lt (Nat.lt_of_le_of_lt fits (by decide))]

private theorem eq_ofNat_min_iff {count : UInt32} :
    count = .ofNat (min n (2 ^ 32 - 1)) ↔ count.toNat = min n (2 ^ 32 - 1) := by
  have small : min n (2 ^ 32 - 1) < UInt32.size :=
    Nat.lt_of_le_of_lt (Nat.min_le_right _ _) (by decide)
  rw [← UInt32.toNat_inj, UInt32.toNat_ofNat_of_lt' small]

end Input

private theorem Text.Denotes.tight {digits : List Char} {n : Nat} (number : Denotes digits n) :
    Tight digits where
  first c found := Input.isBlank_of_isDigit (number.decimal c (List.mem_of_mem_head? found))
  last c found := Input.isBlank_of_isDigit (number.decimal c (List.mem_of_getLast? found))

private theorem Text.Denotes.not_blank {digits : List Char} {n : Nat} (number : Denotes digits n) :
    ∀ c ∈ digits, isBlank c = false :=
  fun c member => Input.isBlank_of_isDigit (number.decimal c member)

private theorem Text.Denotes.unique {digits : List Char} {n m : Nat} (first : Denotes digits n)
    (second : Denotes digits m) : n = m :=
  first.value.symm.trans second.value

namespace Input

variable {cs digits : List Char} {n m v w : Nat}

/-! Lines with one number. -/

/-- A line holds a number if a number is left of it when it is trimmed. -/
theorem holdsNumber_iff : HoldsNumber cs v ↔ Denotes (trim cs) v := by
  constructor
  · rintro ⟨before, digits, after, same, left, number, right⟩
    rw [trim_of_trimmed ⟨⟨before, after, same, left, right⟩, number.tight⟩]
    exact number
  · intro number
    obtain ⟨⟨before, after, same, left, right⟩, -⟩ := trimmed_trim cs
    exact ⟨before, trim cs, after, same, left, number, right⟩

private theorem HoldsNumber.unique (first : HoldsNumber cs v) (second : HoldsNumber cs w) : v = w :=
  (holdsNumber_iff.mp first).unique (holdsNumber_iff.mp second)

private theorem HoldsNumber.marked (number : HoldsNumber cs v) : ¬ Blanks cs :=
  fun blanks => (holdsNumber_iff.mp number).nonempty (trim_eq_nil.mpr blanks)

/-! Lines with two numbers. -/

/-- A line holds two numbers if the first blank that is left when it is trimmed comes after one
number and before blanks and another. -/
theorem holdsNumbers_iff :
    HoldsNumbers cs n v ↔ ∃ count rest, splitAtFirst isBlank (trim cs) = some (count, rest) ∧
      Denotes count n ∧ Denotes (trimStart rest) v := by
  constructor
  · rintro ⟨before, count, between, digits, after, same, left, first, gap, parted, second, right⟩
    obtain ⟨blank, gap', rfl⟩ := List.exists_cons_of_ne_nil parted
    have tight : Tight (count ++ blank :: gap' ++ digits) :=
      first.tight.around first.nonempty second.tight second.nonempty _
    have middle : trim cs = count ++ blank :: (gap' ++ digits) := by
      rw [trim_of_trimmed ⟨⟨before, after, by simpa using same, left, right⟩, tight⟩]
      simp
    refine ⟨count, gap' ++ digits, ?_, first, ?_⟩
    · rw [middle]
      exact splitAtFirst_append first.not_blank (gap blank (by simp))
    · have rest : Blanks gap' := fun c member => gap c (by simp [member])
      rw [trimStart_blanks rest, trimStart, dropWhile_of_head? second.tight.first]
      exact second
  · rintro ⟨count, rest, split, first, second⟩
    obtain ⟨blank, isBlank, middle, -⟩ := splitAtFirst_eq_some split
    obtain ⟨⟨before, after, same, left, right⟩, -⟩ := trimmed_trim cs
    have parts := List.takeWhile_append_dropWhile (p := Text.isBlank) (l := rest)
    refine ⟨before, count, blank :: rest.takeWhile Text.isBlank, trimStart rest, after, ?_, left,
      first, ?_, by simp, second, right⟩
    · calc cs = before ++ (count ++ blank :: rest) ++ after := by rw [← middle, ← same]
        _ = before ++ (count ++ blank :: (rest.takeWhile Text.isBlank ++ trimStart rest)) ++
            after := by rw [trimStart, parts]
        _ = _ := by simp
    · intro c member
      rcases List.mem_cons.mp member with rfl | inside
      · exact isBlank
      · exact blanks_takeWhile rest c inside

theorem HoldsNumbers.unique (first : HoldsNumbers cs n v) (second : HoldsNumbers cs m w) :
    n = m ∧ v = w := by
  obtain ⟨count, rest, split, number, last⟩ := holdsNumbers_iff.mp first
  obtain ⟨count', rest', split', number', last'⟩ := holdsNumbers_iff.mp second
  cases split.symm.trans split'
  exact ⟨number.unique number', last.unique last'⟩

/-- Of two numbers there is a blank left when the line is trimmed. -/
theorem HoldsNumbers.parted (numbers : HoldsNumbers cs n v) :
    (Text.trim cs).any isBlank = true := by
  obtain ⟨count, rest, split, -, -⟩ := holdsNumbers_iff.mp numbers
  obtain ⟨blank, isBlank, middle, -⟩ := splitAtFirst_eq_some split
  exact List.any_eq_true.mpr ⟨blank, by simp [middle], isBlank⟩

/-- Of one number there is none. -/
theorem HoldsNumber.whole (number : HoldsNumber cs v) : (Text.trim cs).any isBlank = false :=
  List.any_eq_false.mpr fun c member =>
    Bool.eq_false_iff.mp ((holdsNumber_iff.mp number).not_blank c member)

private theorem HoldsNumbers.marked (numbers : HoldsNumbers cs n v) : ¬ Blanks cs := by
  intro blanks
  have parted := numbers.parted
  rw [trim_eq_nil.mpr blanks] at parted
  cases parted

private theorem HoldsNumber.not_numbers (number : HoldsNumber cs v) : ¬ HoldsNumbers cs n w :=
  fun numbers => Bool.false_ne_true (number.whole.symm.trans numbers.parted)

/-! Sentences. -/

theorem says_timestamp_iff : Says cs (.timestamp v) ↔ HoldsNumber cs v ∧ v ≤ 2 ^ 63 - 1 := by
  constructor
  · intro said
    cases said with
    | timestamp number fits => exact ⟨number, fits⟩
  · rintro ⟨number, fits⟩
    exact .timestamp number fits

theorem says_stream_iff :
    Says cs (.stream n v) ↔ HoldsNumbers cs n v ∧ 1 ≤ n ∧ v ≤ 2 ^ 63 - 1 := by
  constructor
  · intro said
    cases said with
    | stream numbers positive fits => exact ⟨numbers, positive, fits⟩
  · rintro ⟨numbers, positive, fits⟩
    exact .stream numbers positive fits

/-- A line says one thing only. -/
theorem Says.unique {s t : Sentence} (first : Says cs s) (second : Says cs t) : s = t := by
  cases first with
  | blank blanks =>
    cases second with
    | blank => rfl
    | timestamp number => exact absurd blanks number.marked
    | stream numbers => exact absurd blanks numbers.marked
    | unreadable _ marked => exact absurd blanks marked
  | timestamp number fits =>
    cases second with
    | blank blanks => exact absurd blanks number.marked
    | timestamp other => rw [number.unique other]
    | stream numbers => exact absurd numbers number.not_numbers
    | unreadable _ _ single => exact absurd fits (Nat.not_le.mpr (single _ number))
  | stream numbers positive fits =>
    cases second with
    | blank blanks => exact absurd blanks numbers.marked
    | timestamp number => exact absurd numbers number.not_numbers
    | stream others => rw [(numbers.unique others).1, (numbers.unique others).2]
    | unreadable _ _ _ double =>
      rcases double _ _ numbers with zero | large
      · omega
      · exact absurd fits (Nat.not_le.mpr large)
  | unreadable trimmed marked single double =>
    cases second with
    | blank blanks => exact absurd blanks marked
    | timestamp number fits => exact absurd fits (Nat.not_le.mpr (single _ number))
    | stream numbers positive fits =>
      rcases double _ _ numbers with zero | large
      · omega
      · exact absurd fits (Nat.not_le.mpr large)
    | unreadable same => rw [← trim_of_trimmed trimmed, trim_of_trimmed same]

theorem exists_sentence (cs : List Char) : ∃ s, Says cs s := by
  by_cases blanks : Blanks cs
  · exact ⟨.blank, .blank blanks⟩
  by_cases single : ∃ v, HoldsNumber cs v ∧ v ≤ 2 ^ 63 - 1
  · obtain ⟨v, number, fits⟩ := single
    exact ⟨.timestamp v, .timestamp number fits⟩
  by_cases double : ∃ n v, HoldsNumbers cs n v ∧ 1 ≤ n ∧ v ≤ 2 ^ 63 - 1
  · obtain ⟨n, v, numbers, positive, fits⟩ := double
    exact ⟨.stream n v, .stream numbers positive fits⟩
  refine ⟨.unreadable (trim cs), .unreadable (trimmed_trim cs) blanks ?_ ?_⟩
  · intro v number
    exact Nat.not_le.mp fun fits => single ⟨v, number, fits⟩
  · intro n v numbers
    by_cases positive : 1 ≤ n
    · exact .inr (Nat.not_le.mp fun fits => double ⟨n, v, numbers, positive, fits⟩)
    · exact .inl (by omega)

/-! Readers. -/

variable {raw : String}

/-- The timestamps are those of the lines that say a timestamp. -/
theorem timestamp?_eq_some {t : Int64} :
    timestamp? raw = some t ↔ ∃ v, Says raw.toList (.timestamp v) ∧ t = .ofNat v := by
  simp only [timestamp?, timestampOfDigits?_eq_some, says_timestamp_iff, holdsNumber_iff, and_assoc]

/-- The streams are those of the lines that say a count and a timestamp. -/
theorem stream?_eq_some {s : StreamInput} :
    stream? raw = some s ↔ ∃ n v, Says raw.toList (.stream n v) ∧
      s = ⟨.ofNat (min n (2 ^ 32 - 1)), .ofNat v⟩ := by
  constructor
  · intro read
    simp only [stream?, Option.bind_eq_bind, Option.bind_eq_some_iff, number?_eq_some,
      timestampOfDigits?_eq_some] at read
    obtain ⟨⟨count, rest⟩, split, n, first, t, ⟨v, second, fits, rfl⟩, made⟩ := read
    split at made
    · cases made
    · rename_i positive
      exact ⟨n, v, .stream (holdsNumbers_iff.mpr ⟨count, rest, split, first, second⟩)
        (Nat.one_le_iff_ne_zero.mpr positive) fits, (Option.some.inj made).symm⟩
  · rintro ⟨n, v, said, rfl⟩
    obtain ⟨numbers, positive, fits⟩ := says_stream_iff.mp said
    obtain ⟨count, rest, split, first, second⟩ := holdsNumbers_iff.mp numbers
    have time := timestampOfDigits?_eq_some.mpr ⟨v, second, fits, rfl⟩
    have counted := number?_eq_some.mpr first
    simp only [stream?, split, counted, time, Option.bind_eq_bind, Option.bind_some,
      Nat.ne_of_gt positive, ↓reduceIte]
    rfl

/-- What the readers make of a line, as numbers. A count beyond 32 bits stands for the largest. -/
theorem timestamp?_iff {t : Int64} :
    timestamp? raw = some t ↔ ∃ v, Says raw.toList (.timestamp v) ∧ t.toInt = v := by
  rw [timestamp?_eq_some]
  refine exists_congr fun v => and_congr_right fun said => ?_
  exact eq_ofNat_iff (says_timestamp_iff.mp said).2

@[inherit_doc timestamp?_iff]
theorem stream?_iff {s : StreamInput} :
    stream? raw = some s ↔ ∃ n v, Says raw.toList (.stream n v) ∧
      s.count.toNat = min n (2 ^ 32 - 1) ∧ s.timestamp.toInt = v := by
  obtain ⟨count, timestamp⟩ := s
  rw [stream?_eq_some]
  refine exists_congr fun n => exists_congr fun v => and_congr_right fun said => ?_
  rw [StreamInput.mk.injEq, eq_ofNat_min_iff, eq_ofNat_iff (says_stream_iff.mp said).2.2]

/-- No line is a timestamp and a stream. -/
theorem readers_apart (raw : String) : timestamp? raw = none ∨ stream? raw = none := by
  cases read : timestamp? raw with
  | none => exact .inl rfl
  | some t =>
    obtain ⟨v, single, -⟩ := timestamp?_eq_some.mp read
    refine .inr (Option.eq_none_iff_forall_ne_some.mpr fun s other => ?_)
    obtain ⟨n, w, double, -⟩ := stream?_eq_some.mp other
    cases single.unique double

/-- Both readers trim, so that nothing is lost when a line was trimmed before. -/
theorem timestamp?_trim (raw : String) :
    timestamp? (String.ofList (trim raw.toList)) = timestamp? raw := by
  simp only [timestamp?, String.toList_ofList, trim_trim]

theorem stream?_trim (raw : String) : stream? (String.ofList (trim raw.toList)) = stream? raw := by
  simp only [stream?, String.toList_ofList, trim_trim]

/-- The text of a line that is not blank is one word, or it is several. -/
theorem ofText_marked (marked : ¬ Blanks raw.toList) :
    ofText raw =
      if (trim raw.toList).any isBlank then .streaming (String.ofList (trim raw.toList))
      else .unary (String.ofList (trim raw.toList)) := by
  have filled : (trim raw.toList).isEmpty = false := by
    simpa [trim_eq_nil] using marked
  simp only [ofText, filled, Bool.false_eq_true, ↓reduceIte]

theorem ofText_blank (blanks : Blanks raw.toList) : ofText raw = .empty := by
  simp only [ofText, trim_eq_nil.mpr blanks, List.isEmpty_nil, ↓reduceIte]

theorem timestamp?_of_unreadable {text : List Char} (said : Says raw.toList (.unreadable text)) :
    timestamp? raw = none := by
  refine Option.eq_none_iff_forall_ne_some.mpr fun t read => ?_
  obtain ⟨v, other, -⟩ := timestamp?_eq_some.mp read
  cases said.unique other

theorem stream?_of_unreadable {text : List Char} (said : Says raw.toList (.unreadable text)) :
    stream? raw = none := by
  refine Option.eq_none_iff_forall_ne_some.mpr fun s read => ?_
  obtain ⟨n, v, other, -⟩ := stream?_eq_some.mp read
  cases said.unique other

theorem ofText_of_number (number : HoldsNumber raw.toList v) :
    ofText raw = .unary (String.ofList (trim raw.toList)) := by
  rw [ofText_marked number.marked, if_neg (ne_true_of_eq_false number.whole)]

theorem ofText_of_numbers (numbers : HoldsNumbers raw.toList n v) :
    ofText raw = .streaming (String.ofList (trim raw.toList)) := by
  rw [ofText_marked numbers.marked, if_pos numbers.parted]

/-- Timestamps are read only of lines of one word, and streams only of lines of several. -/
theorem ofText_of_timestamp? {t : Int64} (read : timestamp? raw = some t) :
    ofText raw = .unary (String.ofList (trim raw.toList)) := by
  obtain ⟨v, said, -⟩ := timestamp?_eq_some.mp read
  exact ofText_of_number (says_timestamp_iff.mp said).1

@[inherit_doc ofText_of_timestamp?]
theorem ofText_of_stream? {s : StreamInput} (read : stream? raw = some s) :
    ofText raw = .streaming (String.ofList (trim raw.toList)) := by
  obtain ⟨n, v, said, -⟩ := stream?_eq_some.mp read
  exact ofText_of_numbers (says_stream_iff.mp said).1

end Input
end GatewayPing
