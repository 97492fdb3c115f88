import GatewayPing.Json.Read
import GatewayPing.Proofs.Json.Passing

/-! Values are read as what they mean. A reader that reads by a meaning (`Reader.Reads`) takes every
value that means something to it, and refuses every other one, whatever blanks stand before the
value and whatever follows it. Strings, integers, optional values, lists and pairs are read by their
meanings, and a whole text is read as its value if nothing but blanks follows it. -/
namespace GatewayPing.Json

variable {α β : Type} {s rest : Bytes} {meaning? : Tree → Option α}

/-- A reader takes every value as what it means, and refuses a value that means nothing. -/
def Reader.Reads (r : Reader α) (meaning? : Tree → Option α) : Prop :=
  ∀ (t : Tree) (before : List Space) (rest : Bytes), Stops rest →
    Gives (r.run (spelled (blanks before) ++ (spelled t.chars ++ rest))) rest (meaning? t)

theorem Reader.Reads.map {r : Reader α} (reads : r.Reads meaning?) (f : α → β) :
    (r.map f).Reads fun t => (meaning? t).map f := by
  intro t before rest stops
  simp only [Option.map_eq_bind]
  exact (reads t before rest stops).andThen fun _ => .value rfl

theorem skipBlank_first (t : Tree) (before : List Space) (rest : Bytes) :
    ∃ tail, spelled t.chars ++ rest = t.first :: tail ∧
      skipBlank (spelled (blanks before) ++ (spelled t.chars ++ rest)) = t.first :: tail := by
  obtain ⟨tail, text⟩ := t.head
  refine ⟨tail ++ rest, by rw [text, List.cons_append], ?_⟩
  rw [skipBlank_tree, text, List.cons_append]

/-! Strings. -/

private theorem Tree.string_or (t : Tree) :
    (∃ items, t = .string items) ∨ t.first ≠ byte '"' ∧ t.text? = none := by
  cases t with
  | string items => exact .inl ⟨items, rfl⟩
  | number n => exact .inr ⟨n.starts.ne (by decide), rfl⟩
  | boolean b => cases b <;> exact .inr ⟨by decide, rfl⟩
  | _ =>
    refine .inr ⟨?_, rfl⟩
    simp only [first]
    decide

/-- A string is read as the text that it means. -/
theorem string_reads : Reader.string.Reads Tree.text? := by
  intro t before rest _
  obtain ⟨tail, text, found⟩ := skipBlank_first t before rest
  rcases t.string_or with ⟨items, rfl⟩ | ⟨other, nothing⟩
  · rw [Tree.chars, spelled_quoted] at text
    obtain ⟨-, rfl⟩ := List.cons.inj text
    simp only [Reader.string, found, Tree.first, beq_self_eq_true, ↓reduceIte, Tree.text?]
    rcases (takeText items rest).cases with ⟨chars, meant, read⟩ | ⟨meant, fault, refused⟩
    · rw [meant, read]
      exact .value rfl
    · rw [meant, refused]
      exact .refused rfl
  · rw [nothing]
    simp only [Reader.string, found, beq_eq_false_iff_ne.mpr other, Bool.false_eq_true, ↓reduceIte]
    exact .refused rfl

/-! Numbers. -/

private theorem Tree.number_or (t : Tree) :
    (∃ n, t = .number n) ∨ ¬Starts t.first ∧ ∀ low high, t.int? low high = none := by
  cases t with
  | number n => exact .inl ⟨n, rfl⟩
  | boolean b => cases b <;> exact .inr ⟨by decide, fun _ _ => rfl⟩
  | _ =>
    refine .inr ⟨?_, fun _ _ => rfl⟩
    simp only [first]
    decide

theorem Tree.int?_number {n : Written} {low high value : Int} :
    (Tree.number n).int? low high = some value ↔
      n.int? = some value ∧ low ≤ value ∧ value ≤ high := by
  simp [Tree.int?, Option.filter_eq_some_iff]

theorem Tree.int?_eq_some {t : Tree} {low high value : Int} : t.int? low high = some value ↔
    ∃ n, t = .number n ∧ n.int? = some value ∧ low ≤ value ∧ value ≤ high := by
  cases t with
  | number n => simp [Tree.int?_number]
  | _ => simp [Tree.int?]

theorem Tree.nat?_number {n : Written} {most value : Nat} :
    (Tree.number n).nat? most = some value ↔ n.nat? = some value ∧ value ≤ most := by
  simp [Tree.nat?, Option.filter_eq_some_iff]

/-- Natural numbers are the integers from zero on. -/
theorem Tree.int?_nat (t : Tree) (most : Nat) :
    t.int? 0 most = (t.nat? most).map Int.ofNat := by
  cases t with
  | number n =>
    refine Option.ext fun value => ?_
    rw [Tree.int?_number, Option.map_eq_some_iff]
    constructor
    · rintro ⟨same, above, below⟩
      obtain ⟨size, rfl⟩ := Int.eq_ofNat_of_zero_le above
      exact ⟨size, Tree.nat?_number.mpr ⟨Written.int?_eq_natCast.mp same, Int.ofNat_le.mp below⟩, rfl⟩
    · rintro ⟨size, same, rfl⟩
      obtain ⟨same, below⟩ := Tree.nat?_number.mp same
      exact ⟨Written.int?_eq_natCast.mpr same, Int.natCast_nonneg size, Int.ofNat_le.mpr below⟩
  | _ => rfl

/-- An integer is read between its bounds, which 64 bits hold. -/
theorem integer_reads {low high : Int} (expected : String) (above : -0x8000000000000000 ≤ low)
    (below : high ≤ 0xFFFFFFFFFFFFFFFF) :
    (Reader.integer low high expected).Reads (Tree.int? low high) := by
  intro t before rest stops
  obtain ⟨tail, text, found⟩ := skipBlank_first t before rest
  rcases t.number_or with ⟨n, rfl⟩ | ⟨other, nothing⟩
  · have starts : (n.first == byte '-' || isDigit n.first) = true := n.starts
    have numeral : takeNumeral .endOfValue (n.first :: tail) = .ok (n.numeral, rest) := by
      rw [← takeNumeral_chars n stops]
      exact congrArg _ text.symm
    simp only [Reader.integer, found, Tree.first, starts, ↓reduceIte, numeral]
    cases meant : (Tree.number n).int? low high with
    | some value =>
      obtain ⟨same, inside⟩ := Tree.int?_number.mp meant
      have whole := n.number_int same (Int.le_trans above inside.1) (Int.le_trans inside.2 below)
        rest.length
      simp only [whole, inside, decide_true, Bool.and_self, ↓reduceIte]
      exact .value rfl
    | none =>
      cases number : n.numeral.number rest.length with
      | error fault => exact .refused rfl
      | ok value =>
        cases value with
        | real f => exact .refused rfl
        | whole m =>
          refine .refused (if_neg ?_)
          intro inside
          simp only [Bool.and_eq_true, decide_eq_true_eq] at inside
          have same := Tree.int?_number.mpr ⟨Written.int_of_number number, inside⟩
          cases meant.symm.trans same
  · have starts : (t.first == byte '-' || isDigit t.first) = false := by simpa [Starts] using other
    rw [nothing low high]
    simp only [Reader.integer, found, starts, Bool.false_eq_true, ↓reduceIte]
    exact .refused rfl

/-- A natural number is read within its limit. -/
theorem natural_reads (most : Nat) (expected : String) (fits : most ≤ maxSignificand) :
    (Reader.integer 0 most expected).Reads fun t => (t.nat? most).map Int.ofNat := by
  have reads : (Reader.integer 0 most expected).Reads (Tree.int? 0 most) :=
    integer_reads expected (by decide) (Int.ofNat_le.mpr fits)
  exact funext (fun t : Tree => t.int?_nat most) ▸ reads

/-! Absent values. -/

theorem Tree.null_or (meaning? : Tree → Option α) (t : Tree) :
    t = .null ∨ t.first ≠ byte 'n' ∧ t.optional? meaning? = (meaning? t).map some := by
  cases t with
  | null => exact .inl rfl
  | number n => exact .inr ⟨n.starts.ne (by decide), rfl⟩
  | boolean b => cases b <;> exact .inr ⟨by decide, rfl⟩
  | _ =>
    refine .inr ⟨?_, rfl⟩
    simp only [first]
    decide

/-- A value that may be absent is read as absent where the literal for that stands. -/
theorem optional_reads {r : Reader α} (reads : r.Reads meaning?) :
    r.optional.Reads (Tree.optional? meaning?) := by
  intro t before rest stops
  obtain ⟨tail, text, found⟩ := skipBlank_first t before rest
  rcases t.null_or meaning? with rfl | ⟨other, present⟩
  · obtain ⟨-, rfl⟩ := List.cons.inj text
    refine .value ?_
    simp only [Reader.optional, found]
    rfl
  · have gives : Gives ((r.map some).run (spelled t.chars ++ rest)) rest ((meaning? t).map some) :=
      reads.map some t [] rest stops
    rw [text] at gives
    rw [present]
    simp only [Reader.optional, found, beq_eq_false_iff_ne.mpr other, Bool.false_eq_true,
      ↓reduceIte]
    exact gives

/-! Lists. -/

private theorem nextElement_first (es : Elements) (s : Bytes) :
    nextElement true (spelled es.chars ++ s) =
      .ok (.element (skipBlank (spelled es.chars ++ s))) := by
  obtain ⟨t, tail, found⟩ := es.head s
  simp only [nextElement, found, beq_eq_false_iff_ne.mpr t.opens.2, Bool.false_eq_true,
    ↓reduceIte]

private theorem nextElement_later (after : List Space) (es : Elements) (s : Bytes) :
    nextElement false (spelled (blanks after) ++ byte ',' :: (spelled es.chars ++ s)) =
      .ok (.element (skipBlank (spelled es.chars ++ s))) := by
  obtain ⟨t, tail, found⟩ := es.head s
  have open? : (byte ',' == byte ']') = false := rfl
  rw [nextElement, skipBlank_blanks, skipBlank_cons rfl]
  simp only [open?, found, beq_eq_false_iff_ne.mpr t.opens.2, beq_self_eq_true,
    Bool.false_eq_true, ↓reduceIte]

private theorem nextElement_close (first : Bool) (after : List Space) (s : Bytes) :
    nextElement first (spelled (blanks after) ++ byte ']' :: s) = .ok (.closed s) := by
  rw [nextElement, skipBlank_blanks, skipBlank_cons rfl]
  exact if_pos (beq_self_eq_true _)

/-- What an element is read as, where it stands. -/
theorem Reader.Reads.element {r : Reader α} (reads : r.Reads meaning?) (t : Tree)
    (before : List Space) (stops : Stops rest) :
    Gives (r.run (skipBlank (spelled (blanks before) ++ (spelled t.chars ++ rest)))) rest
      (meaning? t) := by
  rw [skipBlank_tree]
  exact reads t [] rest stops

variable {r : Reader α} {got : List α} {inner : Bytes}

private theorem readElements_closed (found : nextElement got.isEmpty s = .ok (.closed rest)) :
    readElements r got s = .ok (got.reverse, rest) := by
  rw [readElements]
  split
  all_goals rename_i same; cases found.symm.trans same
  rfl

private theorem readElements_element (found : nextElement got.isEmpty s = .ok (.element inner)) :
    readElements r got s =
      match r.run inner with
      | .error e => .error e
      | .ok (a, rest) => readElements r (a :: got) rest := by
  rw [readElements]
  split
  all_goals rename_i same; cases found.symm.trans same
  split <;> rename_i value <;> rw [value]

theorem mapM_cons_option (f : α → Option β) (a : α) (as : List α) :
    (a :: as).mapM f = (f a).bind fun b => (as.mapM f).map (b :: ·) := by
  rw [List.mapM_cons]
  cases f a with
  | none => rfl
  | some b => cases as.mapM f <;> rfl

/-- One element is read, and the others after it. -/
theorem readElements_value {later : Option (List α)} {next : Bytes} (reads : r.Reads meaning?)
    (value : Tree) (before : List Space) (stops : Stops next)
    (found : nextElement got.isEmpty s = .ok (.element
      (skipBlank (spelled (blanks before) ++ (spelled value.chars ++ next)))))
    (others : ∀ a, Gives (readElements r (a :: got) next) rest
      (later.map ((a :: got).reverse ++ ·))) :
    Gives (readElements r got s) rest
      (((meaning? value).bind fun a => later.map (a :: ·)).map (got.reverse ++ ·)) := by
  rw [readElements_element found, Option.map_bind]
  refine (reads.element value before stops).andThen fun a => ?_
  simpa [Function.comp_def] using others a

/-- The elements of a list are read one by one, and the list is refused with the first of them that
means nothing. -/
theorem readElements_elements (reads : r.Reads meaning?) (es : Elements) (got : List α)
    (s rest : Bytes)
    (found : nextElement got.isEmpty s =
      .ok (.element (skipBlank (spelled es.chars ++ byte ']' :: rest)))) :
    Gives (readElements r got s) rest ((es.values.mapM meaning?).map (got.reverse ++ ·)) := by
  match es with
  | .last before value after =>
    rw [Elements.spelled_last] at found
    rw [Elements.values, mapM_cons_option]
    refine readElements_value reads value before (stops_blanks after stops_bracket) found ?_
    intro a
    rw [readElements_closed (nextElement_close _ after rest)]
    exact .value (by simp)
  | .more before value after later =>
    rw [Elements.spelled_more] at found
    rw [Elements.values, mapM_cons_option]
    refine readElements_value reads value before (stops_blanks after stops_comma) found ?_
    intro a
    exact readElements_elements reads later (a :: got) _ rest (nextElement_later after later _)

private theorem Tree.list_or (t : Tree) :
    (∃ inside, t = .emptyList inside) ∨ (∃ es, t = .list es) ∨
      t.first ≠ byte '[' ∧ t.elements? = none := by
  cases t with
  | emptyList inside => exact .inl ⟨inside, rfl⟩
  | list es => exact .inr (.inl ⟨es, rfl⟩)
  | number n => exact .inr (.inr ⟨n.starts.ne (by decide), rfl⟩)
  | boolean b => cases b <;> exact .inr (.inr ⟨by decide, rfl⟩)
  | _ =>
    refine .inr (.inr ⟨?_, rfl⟩)
    simp only [first]
    decide

/-- A list is read as the list of what its elements mean. -/
theorem list_reads (reads : r.Reads meaning?) : r.list.Reads (Tree.list? meaning?) := by
  intro t before rest _
  obtain ⟨tail, text, found⟩ := skipBlank_first t before rest
  rcases t.list_or with ⟨inside, rfl⟩ | ⟨es, rfl⟩ | ⟨other, nothing⟩
  · rw [Tree.chars, spelled_brackets] at text
    obtain ⟨-, rfl⟩ := List.cons.inj text
    refine .value ?_
    simp only [Reader.list, found, Tree.first, beq_self_eq_true, ↓reduceIte]
    exact readElements_closed (nextElement_close true inside rest)
  · rw [Tree.chars, spelled_brackets] at text
    obtain ⟨-, rfl⟩ := List.cons.inj text
    have gives := readElements_elements reads es [] _ rest (nextElement_first es _)
    simp only [Reader.list, found, Tree.first, beq_self_eq_true, ↓reduceIte]
    simpa [Tree.list?, Tree.elements?] using gives
  · have empty : t.list? meaning? = none := by rw [Tree.list?, nothing, Option.bind_none]
    rw [empty]
    simp only [Reader.list, found, beq_eq_false_iff_ne.mpr other, Bool.false_eq_true, ↓reduceIte]
    exact .refused rfl

/-! Pairs. -/

private theorem takePart_element {n : Nat} {next : Bytes} (reads : r.Reads meaning?) (value : Tree)
    (before : List Space) (stops : Stops next)
    (found : nextElement (n == 0) s = .ok (.element
      (skipBlank (spelled (blanks before) ++ (spelled value.chars ++ next))))) :
    Gives (takePart r n s) next (meaning? value) := by
  rw [takePart, found]
  exact reads.element value before stops

private theorem takePart_closed (n : Nat) (after : List Space) (s : Bytes) :
    ∃ fault, takePart r n (spelled (blanks after) ++ byte ']' :: s) = .error fault := by
  rw [takePart, nextElement_close]
  exact ⟨_, rfl⟩

/-- Whether a list is closed, before what follows it. -/
def Closes (s rest : Bytes) : Bool → Prop
  | true => closeList s = .ok rest
  | false => ∃ fault, closeList s = .error fault

private theorem closes_close (after : List Space) (s : Bytes) :
    Closes (spelled (blanks after) ++ byte ']' :: s) s true := by
  rw [Closes, closeList, skipBlank_blanks, skipBlank_cons rfl]
  exact if_pos (beq_self_eq_true _)

private theorem closes_more (after : List Space) (s rest : Bytes) :
    Closes (spelled (blanks after) ++ byte ',' :: s) rest false := by
  have open? : (byte ',' == byte ']') = false := rfl
  rw [Closes, closeList, skipBlank_blanks, skipBlank_cons rfl]
  simp only [open?, beq_self_eq_true, Bool.false_eq_true, ↓reduceIte]
  split
  · exact ⟨_, rfl⟩
  · split <;> exact ⟨_, rfl⟩

variable {second : Reader β} {meaning2? : Tree → Option β}

/-- A pair is read part by part, and then closed. -/
theorem takeParts_gives {next next' : Bytes} {a : Option α} {b : Option β} {closed : Bool}
    (one : Gives (takePart r 0 s) next a) (two : Gives (takePart second 1 next) next' b)
    (close : Closes next' rest closed) :
    Gives (takeParts r second s) rest
      (a.bind fun a => b.bind fun b => if closed then some (a, b) else none) := by
  refine one.andThen fun a => two.andThen fun b => ?_
  cases closed with
  | true =>
    have ended : closeList next' = .ok rest := close
    rw [ended]
    exact .value rfl
  | false =>
    obtain ⟨fault, refused⟩ := close
    rw [refused]
    exact .refused rfl

/-- The parts of a pair are read if there are two of them. -/
theorem takeParts_elements (reads : r.Reads meaning?) (reads2 : second.Reads meaning2?)
    (es : Elements) (rest : Bytes) :
    Gives (takeParts r second (spelled es.chars ++ byte ']' :: rest)) rest
      (Tree.pair? meaning? meaning2? (.list es)) := by
  have first := nextElement_first es (byte ']' :: rest)
  match es with
  | .last before value after =>
    rw [Elements.spelled_last] at first ⊢
    have one := takePart_element (n := 0) reads value before
      (stops_blanks after stops_bracket) first
    have two : Gives (takePart second 1 (spelled (blanks after) ++ byte ']' :: rest))
      (spelled (blanks after) ++ byte ']' :: rest) none := takePart_closed 1 after rest
    simpa [Tree.pair?, Tree.elements?, Elements.values] using
      takeParts_gives one two (closes_close after rest)
  | .more before value after later =>
    have next := nextElement_later after later (byte ']' :: rest)
    rw [Elements.spelled_more] at first ⊢
    have one := takePart_element (n := 0) reads value before (stops_blanks after stops_comma) first
    match later with
    | .last before' value' after' =>
      rw [Elements.spelled_last] at next one ⊢
      have two := takePart_element (n := 1) reads2 value' before'
        (stops_blanks after' stops_bracket) next
      exact takeParts_gives one two (closes_close after' rest)
    | .more before' value' after' later' =>
      rw [Elements.spelled_more] at next one ⊢
      have two := takePart_element (n := 1) reads2 value' before'
        (stops_blanks after' stops_comma) next
      have nothing : Tree.pair? meaning? meaning2? (.list (.more before value after
          (.more before' value' after' later'))) = none := by
        cases later' <;> rfl
      rw [nothing]
      simpa using takeParts_gives one two (closes_more after' _ rest)

/-- A pair is read as what its two parts mean. -/
theorem pair_reads (reads : r.Reads meaning?) (reads2 : second.Reads meaning2?) :
    (Reader.pair r second).Reads (Tree.pair? meaning? meaning2?) := by
  intro t before rest _
  obtain ⟨tail, text, found⟩ := skipBlank_first t before rest
  rcases t.list_or with ⟨inside, rfl⟩ | ⟨es, rfl⟩ | ⟨other, nothing⟩
  · rw [Tree.chars, spelled_brackets] at text
    obtain ⟨-, rfl⟩ := List.cons.inj text
    obtain ⟨fault, missing⟩ := takePart_closed (r := r) 0 inside rest
    simp only [Reader.pair, found, Tree.first, beq_self_eq_true, ↓reduceIte, takeParts, missing]
    exact .refused rfl
  · rw [Tree.chars, spelled_brackets] at text
    obtain ⟨-, rfl⟩ := List.cons.inj text
    simp only [Reader.pair, found, Tree.first, beq_self_eq_true, ↓reduceIte]
    exact takeParts_elements reads reads2 es rest
  · have none : t.pair? meaning? meaning2? = none := by rw [Tree.pair?, nothing]
    rw [none]
    simp only [Reader.pair, found, beq_eq_false_iff_ne.mpr other, Bool.false_eq_true, ↓reduceIte]
    exact .refused rfl

/-! Whole texts. -/

/-- A text that ends after a value is read as what the value is read as. -/
theorem Reader.read_ended {meaning : Option α} (gives : Gives (r.run s) rest meaning)
    (ended : skipBlank rest = []) :
    (∃ a, meaning = some a ∧ r.read s = .ok a) ∨ meaning = none ∧ ∃ e, r.read s = .error e := by
  rcases gives.cases with ⟨a, some, read⟩ | ⟨none, fault, refused⟩
  · exact .inl ⟨a, some, by simp only [Reader.read, read, ended]⟩
  · exact .inr ⟨none, fault.locate s, by simp only [Reader.read, refused]⟩

/-- A text that goes on after a value is refused. -/
theorem Reader.read_trailing {meaning : Option α} (gives : Gives (r.run s) rest meaning)
    (more : skipBlank rest ≠ []) : ∃ e, r.read s = .error e := by
  obtain ⟨b, tail, found⟩ := List.exists_cons_of_ne_nil more
  rcases gives.cases with ⟨a, -, read⟩ | ⟨-, fault, refused⟩
  · simp only [Reader.read, read, found]
    exact ⟨_, rfl⟩
  · simp only [Reader.read, refused]
    exact ⟨_, rfl⟩

end GatewayPing.Json
