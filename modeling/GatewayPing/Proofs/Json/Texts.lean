import GatewayPing.Json.Write
import GatewayPing.Proofs.Json.Objects

/-! What is written is the text of a value that means what was written (`Writes`): strings, natural
numbers, lists and pairs, and objects of named values (`object_text`). -/
namespace GatewayPing.Json

variable {α β : Type} {meaning? : Tree → Option α}

/-- A text is the text of a value with a meaning. -/
def Writes (meaning? : Tree → Option α) (text : Bytes) (a : α) : Prop :=
  ∃ t : Tree, spelled t.chars = text ∧ meaning? t = some a

theorem Writes.map {text : Bytes} {a : α} (writes : Writes meaning? text a) (f : α → β) :
    Writes (fun t => (meaning? t).map f) text (f a) := by
  obtain ⟨t, same, means⟩ := writes
  exact ⟨t, same, by simp only [means, Option.map_some]⟩

/-- A value that may be absent is written as it is where it is present. -/
theorem Writes.present {text : Bytes} {a : α} (writes : Writes meaning? text a)
    (apart : meaning? .null = none) : Writes (Tree.optional? meaning?) text (some a) := by
  obtain ⟨t, same, means⟩ := writes
  rcases t.null_or meaning? with rfl | ⟨-, present⟩
  · cases apart.symm.trans means
  · exact ⟨t, same, by rw [present, means, Option.map_some]⟩

/-! Strings. -/

private theorem hexDigit_digitChar {d : Nat} (small : d < 16) :
    ∃ h : HexDigit, h.char = Nat.digitChar d ∧ h.value = d := by
  by_cases decimal : d < 10
  · have same : ∀ n : Fin 10, (HexDigit.decimal n).char = Nat.digitChar n := by decide
    exact ⟨.decimal ⟨d, decimal⟩, same ⟨d, decimal⟩, rfl⟩
  · have same : ∀ n : Fin 6, (HexDigit.small n).char = Nat.digitChar (10 + n) := by decide
    have within : d - 10 < 6 := by omega
    have whole : 10 + (d - 10) = d := by omega
    refine ⟨.small ⟨d - 10, within⟩, ?_, whole⟩
    rw [same, whole]

/-- A character is written as an item that means it. -/
theorem item_writeChar (c : Char) : ∃ item : Item, spelled item.chars = writeChar c ∧
    ∀ items, meant? (item :: items) = (meant? items).map (c :: ·) := by
  unfold writeChar
  split
  · exact ⟨.short .quote, rfl, fun _ => rfl⟩
  · exact ⟨.short .backslash, rfl, fun _ => rfl⟩
  · exact ⟨.short .backspace, rfl, fun _ => rfl⟩
  · exact ⟨.short .formFeed, rfl, fun _ => rfl⟩
  · exact ⟨.short .lineFeed, rfl, fun _ => rfl⟩
  · exact ⟨.short .carriageReturn, rfl, fun _ => rfl⟩
  · exact ⟨.short .tab, rfl, fun _ => rfl⟩
  · rename_i quote backslash _ _ _ _ _
    split
    · rename_i control
      obtain ⟨high, highChar, highValue⟩ := hexDigit_digitChar (d := c.toNat / 16) (by omega)
      obtain ⟨low, lowChar, lowValue⟩ := hexDigit_digitChar (d := c.toNat % 16) (by omega)
      have number : Item.number (.decimal 0) (.decimal 0) high low = c.toNat := by
        have zero : (HexDigit.decimal 0).value = 0 := rfl
        rw [Item.number, zero, highValue, lowValue]
        omega
      have single : isTrailing c.toNat = false ∧ isLeading c.toNat = false := by
        simp only [isTrailing, isLeading, Bool.and_eq_false_iff, decide_eq_false_iff_not]
        omega
      refine ⟨.code (.decimal 0) (.decimal 0) high low, ?_, fun items => ?_⟩
      · rw [← List.append_nil (spelled _), spelled_code, highChar, lowChar]
        rfl
      · rw [meant?.eq_def]
        simp only [number, single, Bool.false_eq_true, ↓reduceIte, Char.ofNat_toNat]
    · rename_i visible
      have plain : Plain c := ⟨quote, backslash, Nat.not_lt.mp visible⟩
      exact ⟨.plain c plain, spelled_plain plain, fun _ => rfl⟩

private theorem items_written (cs : List Char) :
    ∃ items, spelled (itemChars items) = cs.flatMap writeChar ∧ meant? items = some cs := by
  induction cs with
  | nil => exact ⟨[], rfl, rfl⟩
  | cons c cs ih =>
    obtain ⟨items, text, means⟩ := ih
    obtain ⟨item, char, more⟩ := item_writeChar c
    refine ⟨item :: items, ?_, by rw [more, means, Option.map_some]⟩
    have split := spelled_items item items []
    rw [List.append_nil, List.append_nil] at split
    rw [split, char, text, List.flatMap_cons]

/-- A string is written as items that mean it. -/
theorem string_text (s : String) : ∃ items,
    spelled (quoted items) = writeString s ∧ (meant? items).map String.ofList = some s := by
  obtain ⟨items, text, means⟩ := items_written s.toList
  refine ⟨items, ?_, by rw [means, Option.map_some, String.ofList_toList]⟩
  have whole := spelled_quoted items []
  rw [List.append_nil] at whole
  rw [whole, text, writeString]
  rfl

theorem writes_string (s : String) : Writes Tree.text? (writeString s) s := by
  obtain ⟨items, text, means⟩ := string_text s
  exact ⟨.string items, text, means⟩

/-! Numbers. -/

theorem writes_nat {n most : Nat} (below : n ≤ most) : Writes (Tree.nat? most) (writeNat n) n := by
  obtain ⟨d, ds, digits⟩ := List.exists_cons_of_ne_nil (Nat.toDigits_ne_nil (n := n) (b := 10))
  have decimal : ∀ c ∈ d :: ds, c.isDigit = true := digits ▸ toDigits_decimal n
  have tight : d = '0' → ds = [] := by
    rintro rfl
    rcases Nat.eq_zero_or_pos n with rfl | positive
    · rw [Nat.toDigits_zero] at digits
      exact (List.cons.inj digits).2.symm
    · obtain ⟨d', ds', same, nonzero⟩ := toDigits_head positive
      exact absurd (List.cons.inj (same.symm.trans digits)).1 nonzero
  have value : (⟨false, ⟨d, ds, decimal⟩, tight, none, none⟩ : Written).nat? = some n := by
    have whole := Nat.ofDigitChars_ten_toDigits (n := n)
    rw [digits] at whole
    exact congrArg some whole
  refine ⟨.number ⟨false, ⟨d, ds, decimal⟩, tight, none, none⟩, ?_, ?_⟩
  · rw [Tree.chars, spelled_ascii (Written.small _), writeNat, digits]
    simp [Written.chars, Written.unsignedChars, Digits.chars, Written.fractionChars,
      Written.powerChars]
  · exact Tree.nat?_number.mpr ⟨value, below⟩

/-! Lists. -/

/-- The text of a value. -/
def Tree.text (t : Tree) : Bytes := spelled t.chars

private theorem elements_text (t : Tree) (ts : List Tree) : ∃ es : Elements,
    es.values = t :: ts ∧ spelled es.chars = separated ((t :: ts).map Tree.text) := by
  induction ts generalizing t with
  | nil =>
    refine ⟨.last [] t [], rfl, ?_⟩
    simp only [Elements.chars, blanks, List.map_nil, List.nil_append, List.append_nil,
      List.map_cons, separated, Tree.text]
  | cons next ts ih =>
    obtain ⟨es, values, text⟩ := ih next
    refine ⟨.more [] t [] es, by rw [Elements.values, values], ?_⟩
    simp only [Elements.chars, blanks, List.map_nil, List.nil_append, List.append_nil,
      spelled_append, spelled_cons (c := ',') (by decide), text]
    rfl

private theorem list_text (ts : List Tree) :
    ∃ t : Tree, t.text = writeList (ts.map Tree.text) ∧ t.elements? = some ts := by
  cases ts with
  | nil => exact ⟨.emptyList [], rfl, rfl⟩
  | cons t ts =>
    obtain ⟨es, values, text⟩ := elements_text t ts
    refine ⟨.list es, ?_, congrArg some values⟩
    have brackets := spelled_brackets es.chars []
    rw [List.append_nil] at brackets
    rw [Tree.text, Tree.chars, brackets, text, writeList]
    rfl

/-- The values of a list are written one by one. -/
theorem writes_list {write : α → Bytes} {as : List α}
    (each : ∀ a ∈ as, Writes meaning? (write a) a) :
    Writes (Tree.list? meaning?) (writeList (as.map write)) as := by
  have trees : ∃ ts : List Tree, ts.map Tree.text = as.map write ∧ ts.mapM meaning? = some as := by
    induction as with
    | nil => exact ⟨[], rfl, rfl⟩
    | cons a as ih =>
      obtain ⟨ts, texts, mean⟩ := ih fun b member => each b (List.mem_cons_of_mem a member)
      obtain ⟨t, text, means⟩ := each a List.mem_cons_self
      refine ⟨t :: ts, by rw [List.map_cons, texts, Tree.text, text, List.map_cons], ?_⟩
      rw [mapM_cons_option, means, mean]
      rfl
  obtain ⟨ts, texts, mean⟩ := trees
  obtain ⟨t, text, elements⟩ := list_text ts
  refine ⟨t, by rw [← texts, ← text, Tree.text], ?_⟩
  rw [Tree.list?, elements, Option.bind_some, mean]

theorem writes_pair {meaning2? : Tree → Option β} {text text2 : Bytes} {a : α} {b : β}
    (one : Writes meaning? text a) (two : Writes meaning2? text2 b) :
    Writes (Tree.pair? meaning? meaning2?) (writeList [text, text2]) (a, b) := by
  obtain ⟨t, rfl, means⟩ := one
  obtain ⟨t2, rfl, means2⟩ := two
  obtain ⟨list, whole, elements⟩ := list_text [t, t2]
  exact ⟨list, whole, by rw [Tree.pair?, elements]; simp only [means, means2, Option.bind_some]⟩

/-! Objects. -/

/-- A name with a value, as a member of an object. -/
def memberText (p : String × Tree) : Bytes := writeMember p.1 p.2.text

private theorem member_text (p : String × Tree) : ∃ name,
    memberText p = spelled (quoted name) ++ byte ':' :: spelled p.2.chars ∧
      nameText? name = some p.1 := by
  obtain ⟨name, text, means⟩ := string_text p.1
  exact ⟨name, by rw [text]; rfl, means⟩

private theorem members_text (p : String × Tree) (ps : List (String × Tree)) : ∃ ms : Members,
    spelled ms.chars = separated ((p :: ps).map memberText) ∧
      ms.entries.map (fun e => (nameText? e.1, e.2)) =
        (p :: ps).map fun q => (some q.1, q.2) := by
  induction ps generalizing p with
  | nil =>
    obtain ⟨name, text, means⟩ := member_text p
    refine ⟨.last [] name [] [] p.2 [], ?_, ?_⟩
    · simp [Members.chars, blanks, separated, text, spelled_cons (c := ':') (by decide)]
    · simp only [Members.entries, List.map_cons, List.map_nil, means]
  | cons next ps ih =>
    obtain ⟨name, text, means⟩ := member_text p
    obtain ⟨ms, texts, mean⟩ := ih next
    refine ⟨.more [] name [] [] p.2 [] ms, ?_, ?_⟩
    · simp [Members.chars, blanks, separated, text, texts, spelled_cons (c := ':') (by decide),
        spelled_cons (c := ',') (by decide)]
    · rw [Members.entries, List.map_cons, mean, means]
      rfl

/-- An object is the text of a value with its names and values. -/
theorem object_text (ps : List (String × Tree)) : ∃ t : Tree, ∃ entries,
    t.entries? = some entries ∧ t.text = writeObject (ps.map fun p => (p.1, p.2.text)) ∧
      entries.map (fun e => (nameText? e.1, e.2)) = ps.map fun p => (some p.1, p.2) := by
  cases ps with
  | nil => exact ⟨.emptyObject [], [], rfl, rfl, rfl⟩
  | cons p ps =>
    obtain ⟨ms, texts, mean⟩ := members_text p ps
    refine ⟨.object ms, ms.entries, rfl, ?_, mean⟩
    have braces := spelled_braces ms.chars []
    rw [List.append_nil] at braces
    rw [Tree.text, Tree.chars, braces, texts, writeObject, List.map_map]
    rfl

end GatewayPing.Json
