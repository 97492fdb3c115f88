import GatewayPing.Json.Skip
import GatewayPing.Proofs.Json.Grammar

/-! Blanks and strings are scanned as they were written. Blanks are passed over. A string is read
as what it means, and refused if it means nothing (`takeChars_items`); where nobody asks for it, it
is passed over in either case (`skipString_items`). -/
namespace GatewayPing.Json

open Text

/-- The bytes of a text. -/
def spelled (cs : List Char) : Bytes := cs.flatMap String.utf8EncodeChar

variable {c : Char} {cs ds : List Char} {s rest : Bytes} {taken : List Char}

@[simp] theorem spelled_nil : spelled [] = [] := rfl

@[simp] theorem spelled_append (cs ds : List Char) :
    spelled (cs ++ ds) = spelled cs ++ spelled ds := List.flatMap_append

theorem encode_ascii (small : c.toNat < 128) : String.utf8EncodeChar c = [byte c] :=
  if_pos (Nat.le_of_lt_succ small)

theorem spelled_cons (small : c.toNat < 128) (cs : List Char) :
    spelled (c :: cs) = byte c :: spelled cs := by
  rw [spelled, List.flatMap_cons, encode_ascii small]
  rfl

theorem spelled_ascii (small : ∀ c ∈ cs, c.toNat < 128) : spelled cs = ascii cs := by
  induction cs with
  | nil => rfl
  | cons c cs ih =>
    rw [spelled_cons (small c List.mem_cons_self), ih fun d member =>
      small d (List.mem_cons_of_mem c member)]
    rfl

/-- What comes of reading: a value and the rest, if the text has a meaning, and else a fault. -/
def Gives {α : Type} (result : Except Fault (α × Bytes)) (rest : Bytes) : Option α → Prop
  | some a => result = .ok (a, rest)
  | none => ∃ fault, result = .error fault

section
variable {α β : Type} {result : Except Fault (α × Bytes)} {fault : Fault} {a : α}
  {meaning : Option α} {next : Bytes}

theorem Gives.value (read : result = .ok (a, rest)) : Gives result rest (some a) := read

theorem Gives.refused (refused : result = .error fault) : Gives result rest none := ⟨fault, refused⟩

theorem Gives.cases (gives : Gives result rest meaning) :
    (∃ a, meaning = some a ∧ result = .ok (a, rest)) ∨
      meaning = none ∧ ∃ fault, result = .error fault := by
  cases meaning with
  | none => exact .inr ⟨rfl, gives⟩
  | some a => exact .inl ⟨a, rfl, gives⟩

/-- Two values are read one after the other. -/
theorem Gives.andThen {more : α → Bytes → Except Fault (β × Bytes)} {later : α → Option β}
    (gives : Gives result next meaning) (others : ∀ a, Gives (more a next) rest (later a)) :
    Gives (match result with
      | .error e => .error e
      | .ok (a, s) => more a s) rest (meaning.bind later) := by
  rcases gives.cases with ⟨a, rfl, read⟩ | ⟨rfl, fault, refused⟩
  · rw [read]
    exact others a
  · rw [refused]
    exact .refused rfl

end

/-! Blanks. -/

theorem skipBlank_blanks (spaces : List Space) (s : Bytes) :
    skipBlank (spelled (blanks spaces) ++ s) = skipBlank s := by
  induction spaces with
  | nil => rfl
  | cons blank spaces ih =>
    have passed : isBlank (byte blank.char) = true := by cases blank <;> rfl
    have small : blank.char.toNat < 128 := by cases blank <;> decide
    rw [blanks, List.map_cons, spelled_cons small, List.cons_append, skipBlank,
      List.dropWhile_cons_of_pos passed]
    exact ih

theorem skipBlank_skipBlank (s : Bytes) : skipBlank (skipBlank s) = skipBlank s := by
  induction s with
  | nil => rfl
  | cons b s ih =>
    cases blank : isBlank b with
    | true => simpa [skipBlank, List.dropWhile_cons, blank] using ih
    | false => simp [skipBlank, blank]

/-- Nothing but blanks is left to skip. -/
theorem skipBlank_eq_nil : skipBlank s = [] ↔ ∃ spaces, s = spelled (blanks spaces) := by
  constructor
  · intro skipped
    induction s with
    | nil => exact ⟨[], rfl⟩
    | cons b s ih =>
      cases blank : isBlank b with
      | false => simp [skipBlank, blank] at skipped
      | true =>
        obtain ⟨spaces, rfl⟩ := ih (by simpa [skipBlank, List.dropWhile_cons, blank] using skipped)
        simp only [isBlank, Bool.or_eq_true, beq_iff_eq] at blank
        rcases blank with ((rfl | rfl) | rfl) | rfl
        · exact ⟨.space :: spaces, rfl⟩
        · exact ⟨.lineFeed :: spaces, rfl⟩
        · exact ⟨.tab :: spaces, rfl⟩
        · exact ⟨.carriageReturn :: spaces, rfl⟩
  · rintro ⟨spaces, rfl⟩
    rw [← List.append_nil (spelled (blanks spaces)), skipBlank_blanks]
    rfl

/-! Strings. -/

private theorem HexDigit.char_lt (d : HexDigit) : d.char.toNat < 128 := by
  cases d with
  | decimal n => revert n; decide
  | small n => revert n; decide
  | large n => revert n; decide

private theorem hexValue?_char (d : HexDigit) : hexValue? (byte d.char) = some d.value := by
  cases d with
  | decimal n => revert n; decide
  | small n => revert n; decide
  | large n => revert n; decide

private theorem takeHex_digits (a b c d : HexDigit) (rest : Bytes) :
    takeHex (byte a.char :: byte b.char :: byte c.char :: byte d.char :: rest) =
      .ok (Item.number a b c d, rest) := by
  simp only [takeHex, hexValue?_char, Item.number]

theorem spelled_code (a b c d : HexDigit) (rest : Bytes) :
    spelled (Item.code a b c d).chars ++ rest = byte '\\' :: byte 'u' :: byte a.char ::
      byte b.char :: byte c.char :: byte d.char :: rest := by
  rw [spelled_ascii (by simp [Item.chars, a.char_lt, b.char_lt, c.char_lt, d.char_lt])]
  rfl

private theorem spelled_short (s : Short) (rest : Bytes) :
    spelled (Item.short s).chars ++ rest = byte '\\' :: byte s.letter :: rest := by
  cases s <;> rfl

theorem spelled_plain {c : Char} (plain : Plain c) :
    spelled (Item.plain c plain).chars = String.utf8EncodeChar c :=
  List.append_nil _

private theorem shortEscape?_letter (s : Short) : shortEscape? (byte s.letter) = some s.char := by
  cases s <;> rfl

theorem spelled_items (item : Item) (items : List Item) (rest : Bytes) :
    spelled (itemChars (item :: items)) ++ rest =
      spelled item.chars ++ (spelled (itemChars items) ++ rest) := by
  rw [itemChars, List.flatMap_cons, spelled_append, List.append_assoc]
  rfl

private theorem takePair_digits (lead : Nat) (a b c d : HexDigit) (rest : Bytes) :
    takePair lead (spelled (Item.code a b c d).chars ++ rest) =
      if isTrailing (Item.number a b c d) then .ok (pairChar lead (Item.number a b c d), rest)
      else .error ⟨.loneSurrogate, rest.length⟩ := by
  rw [spelled_code]
  simp only [takePair, beq_self_eq_true, ↓reduceIte, takeHex_digits]
  rfl

/-- The second half of a surrogate pair is looked for in vain. -/
theorem takePair_missing (lead : Nat) {items : List Item}
    (other : ∀ a b c d later, items ≠ .code a b c d :: later) (rest : Bytes) :
    ∃ fault, takePair lead (spelled (itemChars items) ++ byte '"' :: rest) = .error fault := by
  cases items with
  | nil => exact ⟨_, rfl⟩
  | cons item items =>
    rw [spelled_items]
    cases item with
    | code a b c d => exact absurd rfl (other a b c d items)
    | short s =>
      rw [spelled_short]
      cases s <;> exact ⟨_, rfl⟩
    | plain c plain =>
      obtain ⟨b, tail, bytes, -⟩ := Utf8.encode_head c
      have inert := inert_encode plain b (by rw [bytes]; exact List.mem_cons_self)
      rw [spelled_plain, bytes, List.cons_append, takePair.eq_def]
      exact ⟨_, if_neg (by simpa using inert.2.1)⟩

private theorem takeChars_escape_fault {fault : Fault} (escape : takeEscape s = .error fault) :
    takeChars taken (byte '\\' :: s) = .error fault := by
  rw [takeChars, if_neg (by decide), if_pos (beq_self_eq_true _)]
  split
  · rename_i failed
    cases escape.symm.trans failed
    rfl
  · rename_i same
    cases escape.symm.trans same

/-- What becomes of an escape by number. -/
theorem takeEscape_digits (a b c d : HexDigit) (s : Bytes) :
    takeEscape (byte 'u' :: byte a.char :: byte b.char :: byte c.char :: byte d.char :: s) =
      if isTrailing (Item.number a b c d) then .error ⟨.loneSurrogate, s.length⟩
      else if isLeading (Item.number a b c d) then takePair (Item.number a b c d) s
      else .ok (Char.ofNat (Item.number a b c d), s) := by
  have noShort : shortEscape? (byte 'u') = none := rfl
  simp only [takeEscape, noShort, beq_self_eq_true, ↓reduceIte, takeUnicode, takeHex_digits]

/-- A string is read as what it means, and refused if it means nothing. -/
theorem takeChars_items (items : List Item) (taken : List Char) (rest : Bytes) :
    Gives (takeChars taken (spelled (itemChars items) ++ byte '"' :: rest)) rest
      ((meant? items).map (taken.reverse ++ ·)) := by
  -- A character that was taken stands before the meaning of the items after it.
  have next {items : List Item} {c : Char} {taken : List Char}
      (later : Gives (takeChars (c :: taken) (spelled (itemChars items) ++ byte '"' :: rest)) rest
        ((meant? items).map ((c :: taken).reverse ++ ·))) :
      Gives (takeChars (c :: taken) (spelled (itemChars items) ++ byte '"' :: rest)) rest
        (((meant? items).map (c :: ·)).map (taken.reverse ++ ·)) := by
    simpa [Function.comp_def] using later
  fun_induction meant? items generalizing taken with
  | case1 => simp [Gives, itemChars, takeChars_quote]
  | case2 c plain items ih =>
    rw [spelled_items]
    rw [spelled_plain, takeChars_plain plain]
    exact next (ih _)
  | case3 s items ih =>
    rw [spelled_items, spelled_short]
    have escape : takeEscape (byte s.letter :: (spelled (itemChars items) ++ byte '"' :: rest)) =
        .ok (s.char, spelled (itemChars items) ++ byte '"' :: rest) := by
      simp only [takeEscape, shortEscape?_letter]
    rw [takeChars_escape escape]
    exact next (ih _)
  | case4 a b c d items n trailing =>
    rw [spelled_items, spelled_code]
    have escape := takeEscape_digits a b c d (spelled (itemChars items) ++ byte '"' :: rest)
    rw [if_pos trailing] at escape
    exact ⟨_, takeChars_escape_fault escape⟩
  | case5 a b c d n single leading a' b' c' d' items trail trailing ih =>
    rw [spelled_items, spelled_code, spelled_items]
    have escape := takeEscape_digits a b c d
      (spelled (Item.code a' b' c' d').chars ++ (spelled (itemChars items) ++ byte '"' :: rest))
    rw [if_neg single, if_pos leading, takePair_digits, if_pos trailing] at escape
    rw [takeChars_escape escape]
    exact next (ih _)
  | case6 a b c d n single leading a' b' c' d' items trail lone =>
    rw [spelled_items, spelled_code, spelled_items]
    have escape := takeEscape_digits a b c d
      (spelled (Item.code a' b' c' d').chars ++ (spelled (itemChars items) ++ byte '"' :: rest))
    rw [if_neg single, if_pos leading, takePair_digits, if_neg lone] at escape
    exact ⟨_, takeChars_escape_fault escape⟩
  | case7 a b c d items n single leading other =>
    rw [spelled_items, spelled_code]
    obtain ⟨fault, missing⟩ := takePair_missing (Item.number a b c d) other rest
    have escape := takeEscape_digits a b c d (spelled (itemChars items) ++ byte '"' :: rest)
    rw [if_neg single, if_pos leading, missing] at escape
    exact ⟨_, takeChars_escape_fault escape⟩
  | case8 a b c d items n single plain ih =>
    rw [spelled_items, spelled_code]
    have escape := takeEscape_digits a b c d (spelled (itemChars items) ++ byte '"' :: rest)
    rw [if_neg single, if_neg plain] at escape
    rw [takeChars_escape escape]
    exact next (ih _)

theorem takeText (items : List Item) (rest : Bytes) :
    Gives (takeChars [] (spelled (itemChars items) ++ byte '"' :: rest)) rest (meant? items) := by
  simpa using takeChars_items items [] rest

/-! Strings that nobody asked for. -/

private theorem skipString_quote (rest : Bytes) : skipString (byte '"' :: rest) = .ok rest := by
  rw [skipString]
  exact if_pos (beq_self_eq_true _)

private theorem skipString_escape (escape : skipEscape s = .ok rest) :
    skipString (byte '\\' :: s) = skipString rest := by
  rw [skipString, if_neg (by decide), if_pos (beq_self_eq_true _)]
  split
  · rename_i failed
    cases escape.symm.trans failed
  · rename_i same
    cases escape.symm.trans same
    rfl

private theorem skipString_inert {bs : Bytes} (inert : ∀ b ∈ bs, Inert b) :
    skipString (bs ++ rest) = skipString rest := by
  induction bs with
  | nil => rfl
  | cons b bs ih =>
    obtain ⟨quote, backslash, visible⟩ := inert b List.mem_cons_self
    rw [List.cons_append, skipString, if_neg (by simpa using quote),
      if_neg (by simpa using backslash), if_neg visible]
    exact ih fun b member => inert b (List.mem_cons_of_mem _ member)

private theorem skipString_item (item : Item) (rest : Bytes) :
    skipString (spelled item.chars ++ rest) = skipString rest := by
  cases item with
  | plain c plain =>
    rw [spelled_plain]
    exact skipString_inert (inert_encode plain)
  | short s =>
    have escape : skipEscape (byte s.letter :: rest) = .ok rest := by
      simp only [skipEscape, shortEscape?_letter, Option.isSome_some, ↓reduceIte]
    rw [spelled_short, skipString_escape escape]
  | code a b c d =>
    have noShort : shortEscape? (byte 'u') = none := rfl
    have escape : skipEscape (byte 'u' :: byte a.char :: byte b.char :: byte c.char ::
        byte d.char :: rest) = .ok rest := by
      simp only [skipEscape, noShort, Option.isSome_none, Bool.false_eq_true, beq_self_eq_true,
        ↓reduceIte, takeHex_digits]
      rfl
    rw [spelled_code, skipString_escape escape]

/-- A string is passed over, whether it means something or not. -/
theorem skipString_items (items : List Item) (rest : Bytes) :
    skipString (spelled (itemChars items) ++ byte '"' :: rest) = .ok rest := by
  induction items with
  | nil => exact skipString_quote rest
  | cons item items ih => rw [spelled_items, skipString_item, ih]

end GatewayPing.Json
