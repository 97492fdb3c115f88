import GatewayPing.Proofs.Json.Numerals
import GatewayPing.Proofs.Json.Records

/-! Values that nobody asks for are passed over. Whatever tree stands in the place of a value, with
whatever brackets open around it, its bytes are passed over and nothing else is
(`skipWithin_tree`). -/
namespace GatewayPing.Json

variable {opened : List Bracket} {inside : Bracket} {s rest tail : Bytes}

/-! The bytes of a tree. -/

/-- The first byte of a value. -/
def Tree.first : Tree → UInt8
  | .null => byte 'n'
  | .boolean true => byte 't'
  | .boolean false => byte 'f'
  | .number n => n.first
  | .string _ => byte '"'
  | .emptyList _ => byte '['
  | .list _ => byte '['
  | .emptyObject _ => byte '\x7b'
  | .object _ => byte '\x7b'

theorem Tree.head (t : Tree) : ∃ tail, spelled t.chars = t.first :: tail := by
  cases t with
  | number n => exact n.head
  | boolean b => cases b <;> exact ⟨_, rfl⟩
  | _ => exact ⟨_, rfl⟩

private theorem Starts.solid {b : UInt8} (starts : Starts b) : isBlank b = false := by
  rcases (Bool.or_eq_true _ _).mp starts with minus | digit
  · rw [eq_of_beq minus]
    rfl
  · exact digit_solid digit

/-- A value begins with no blank, and not as a list ends. -/
theorem Tree.opens (t : Tree) : isBlank t.first = false ∧ t.first ≠ byte ']' := by
  cases t with
  | number n => exact ⟨n.starts.solid, n.starts.ne (by decide)⟩
  | boolean b => cases b <;> decide
  | _ =>
    simp only [first]
    decide

theorem spelled_quoted (items : List Item) (rest : Bytes) :
    spelled (quoted items) ++ rest =
      byte '"' :: (spelled (itemChars items) ++ byte '"' :: rest) := by
  rw [quoted, spelled_append, List.append_assoc]
  rfl

theorem spelled_brackets (cs : List Char) (rest : Bytes) :
    spelled ('[' :: cs ++ [']']) ++ rest = byte '[' :: (spelled cs ++ byte ']' :: rest) := by
  rw [spelled_append, List.append_assoc]
  rfl

theorem spelled_braces (cs : List Char) (rest : Bytes) :
    spelled ('\x7b' :: cs ++ ['\x7d']) ++ rest =
      byte '\x7b' :: (spelled cs ++ byte '\x7d' :: rest) := by
  rw [spelled_append, List.append_assoc]
  rfl

theorem Elements.spelled_last (before after : List Space) (value : Tree) (rest : Bytes) :
    spelled (Elements.last before value after).chars ++ rest =
      spelled (blanks before) ++ (spelled value.chars ++ (spelled (blanks after) ++ rest)) := by
  simp only [Elements.chars, spelled_append, List.append_assoc]

theorem Elements.spelled_more (before after : List Space) (value : Tree) (later : Elements)
    (rest : Bytes) :
    spelled (Elements.more before value after later).chars ++ rest =
      spelled (blanks before) ++ (spelled value.chars ++
        (spelled (blanks after) ++ byte ',' :: (spelled later.chars ++ rest))) := by
  simp only [Elements.chars, spelled_append, List.append_assoc, spelled_cons (c := ',') (by decide),
    List.cons_append]

/-- A name, the colon after it and the blanks around both. -/
def spelledName (before : List Space) (name : List Item) (colon : List Space) (s : Bytes) : Bytes :=
  spelled (blanks before) ++
    byte '"' :: (spelled (itemChars name) ++ byte '"' :: (spelled (blanks colon) ++ byte ':' :: s))

theorem Members.spelled_last (before colon inner after : List Space) (name : List Item)
    (value : Tree) (rest : Bytes) :
    spelled (Members.last before name colon inner value after).chars ++ rest =
      spelledName before name colon (spelled (blanks inner) ++
        (spelled value.chars ++ (spelled (blanks after) ++ rest))) := by
  simp only [Members.chars, spelledName, spelled_append, List.append_assoc, spelled_quoted,
    spelled_cons (c := ':') (by decide), List.cons_append]

theorem Members.spelled_more (before colon inner after : List Space) (name : List Item)
    (value : Tree) (later : Members) (rest : Bytes) :
    spelled (Members.more before name colon inner value after later).chars ++ rest =
      spelledName before name colon (spelled (blanks inner) ++ (spelled value.chars ++
        (spelled (blanks after) ++ byte ',' :: (spelled later.chars ++ rest)))) := by
  simp only [Members.chars, spelledName, spelled_append, List.append_assoc, spelled_quoted,
    spelled_cons (c := ':') (by decide), spelled_cons (c := ',') (by decide), List.cons_append]

theorem skipBlank_tree (t : Tree) (before : List Space) (rest : Bytes) :
    skipBlank (spelled (blanks before) ++ (spelled t.chars ++ rest)) = spelled t.chars ++ rest := by
  obtain ⟨tail, text⟩ := t.head
  rw [skipBlank_blanks, text, List.cons_append, skipBlank_cons t.opens.1]

theorem Elements.head (es : Elements) (rest : Bytes) :
    ∃ t : Tree, ∃ tail, skipBlank (spelled es.chars ++ rest) = t.first :: tail := by
  cases es with
  | last before value after =>
    obtain ⟨tail, text⟩ := value.head
    exact ⟨value, _, by rw [spelled_last, skipBlank_tree, text, List.cons_append]⟩
  | more before value after later =>
    obtain ⟨tail, text⟩ := value.head
    exact ⟨value, _, by rw [spelled_more, skipBlank_tree, text, List.cons_append]⟩

theorem skipBlank_name (before colon : List Space) (name : List Item) (s : Bytes) :
    skipBlank (spelledName before name colon s) =
      byte '"' :: (spelled (itemChars name) ++
        byte '"' :: (spelled (blanks colon) ++ byte ':' :: s)) := by
  rw [spelledName, skipBlank_blanks, skipBlank_cons rfl]

private theorem Members.head (ms : Members) (rest : Bytes) :
    ∃ tail, skipBlank (spelled ms.chars ++ rest) = byte '"' :: tail := by
  cases ms with
  | last => exact ⟨_, by rw [spelled_last, skipBlank_name]⟩
  | more => exact ⟨_, by rw [spelled_more, skipBlank_name]⟩

theorem stops_blanks (spaces : List Space) (stops : Stops rest) :
    Stops (spelled (blanks spaces) ++ rest) := by
  cases spaces with
  | nil => exact stops
  | cons blank spaces =>
    rintro b first
    cases blank <;> cases first <;> decide

theorem stops_bracket : Stops (byte ']' :: s) := by
  rintro b first
  cases first
  decide

/-! Steps. -/

private theorem skipWithin_eq (opened : List Bracket) (s : Bytes) :
    skipWithin opened s =
      match skipOpening s with
      | .error e => .error e
      | .ok (.scalar rest) => skipAfter opened rest
      | .ok (.bracket b rest) =>
        match skipBlank rest with
        | [] => .error ⟨b.unclosed, 0⟩
        | c :: tail =>
          if c == b.close then skipAfter opened tail else skipMember b opened (c :: tail) := by
  rw [skipWithin]
  split
  · rename_i opening
    rw [opening]
  · rename_i opening
    rw [opening]
  · rename_i opening
    rw [opening]
    split <;> rename_i blank <;> simp only [blank]

private theorem skipMember_object (opened : List Bracket) (s : Bytes) :
    skipMember .object opened s =
      match skipName s with
      | .error e => .error e
      | .ok rest => skipWithin (.object :: opened) rest := by
  rw [skipMember]
  split <;> rename_i name <;> rw [name]

private theorem skipAfter_comma (found : skipBlank s = byte ',' :: tail) :
    skipAfter (inside :: opened) s = skipMember inside opened tail := by
  rw [skipAfter]
  split
  all_goals rename_i same; cases found.symm.trans same
  exact if_pos (beq_self_eq_true _)

private theorem skipAfter_close (found : skipBlank s = inside.close :: tail) :
    skipAfter (inside :: opened) s = skipAfter opened tail := by
  rw [skipAfter]
  split
  all_goals rename_i same; cases found.symm.trans same
  rw [if_neg (by cases inside <;> decide), if_pos (beq_self_eq_true _)]

/-- Blanks before a value or a name do not count. -/
theorem skipMember_blank (inside : Bracket) (opened : List Bracket) (s : Bytes) :
    skipMember inside opened (skipBlank s) = skipMember inside opened s := by
  cases inside with
  | list =>
    have opening : skipOpening (skipBlank s) = skipOpening s := by
      unfold skipOpening
      rw [skipBlank_skipBlank]
    rw [skipMember, skipMember, skipWithin_eq, opening, ← skipWithin_eq]
  | object =>
    have name : skipName (skipBlank s) = skipName s := by
      unfold skipName
      rw [skipBlank_skipBlank]
    rw [skipMember_object, name, ← skipMember_object]

private theorem skipName_spelled (before colon : List Space) (name : List Item) (s : Bytes) :
    skipName (spelledName before name colon s) = .ok s := by
  have found : takeColon (spelled (blanks colon) ++ byte ':' :: s) = .ok s := by
    rw [takeColon, skipBlank_blanks, skipBlank_cons rfl]
    exact if_pos (beq_self_eq_true _)
  rw [skipName, skipBlank_name]
  simp only [beq_self_eq_true, ↓reduceIte, skipString_items, found]

/-! Trees. The stack of open brackets is arbitrary throughout, so that the three statements below
carry each other through lists and objects. -/

private theorem skipOpening_blanks (before : List Space) (s : Bytes) :
    skipOpening (spelled (blanks before) ++ s) = skipOpening s := by
  unfold skipOpening
  rw [skipBlank_blanks]

/-- A value without brackets is passed over at once. -/
theorem skipWithin_scalar (before : List Space) (opening : skipOpening s = .ok (.scalar rest)) :
    skipWithin opened (spelled (blanks before) ++ s) = skipAfter opened rest := by
  rw [skipWithin_eq, skipOpening_blanks, opening]

/-- Brackets without anything in them are passed over at once. -/
theorem skipWithin_empty (inside : Bracket) (before between : List Space)
    (opening : skipOpening s =
      .ok (.bracket inside (spelled (blanks between) ++ inside.close :: rest))) :
    skipWithin opened (spelled (blanks before) ++ s) = skipAfter opened rest := by
  have solid : isBlank inside.close = false := by cases inside <;> rfl
  rw [skipWithin_eq, skipOpening_blanks, opening]
  simp only [skipBlank_blanks, skipBlank_cons solid, beq_self_eq_true, ↓reduceIte]

/-- What stands in brackets is passed over one by one. -/
theorem skipWithin_bracket {c : UInt8} (inside : Bracket) (before : List Space)
    (opening : skipOpening s = .ok (.bracket inside rest)) (found : skipBlank rest = c :: tail)
    (other : c ≠ inside.close) :
    skipWithin opened (spelled (blanks before) ++ s) = skipMember inside opened rest := by
  rw [skipWithin_eq, skipOpening_blanks, opening, ← skipMember_blank inside opened rest]
  simp only [found, beq_eq_false_iff_ne.mpr other, Bool.false_eq_true, ↓reduceIte]

private theorem skipOpening_number (n : Written) (stops : Stops rest) :
    skipOpening (spelled n.chars ++ rest) = .ok (.scalar rest) := by
  obtain ⟨tail, text⟩ := n.head
  have number : takeNumeral .invalidNumber (spelled n.chars ++ rest) = .ok (n.numeral, rest) :=
    takeNumeral_chars n stops
  have noNull : n.first ≠ byte 'n' := n.starts.ne (by decide)
  have noTrue : n.first ≠ byte 't' := n.starts.ne (by decide)
  have noFalse : n.first ≠ byte 'f' := n.starts.ne (by decide)
  have starts : (n.first == byte '-' || isDigit n.first) = true := n.starts
  rw [text, List.cons_append] at number ⊢
  rw [skipOpening, skipBlank_cons n.starts.solid]
  simp only [beq_eq_false_iff_ne.mpr noNull, beq_eq_false_iff_ne.mpr noTrue,
    beq_eq_false_iff_ne.mpr noFalse, Bool.false_eq_true, starts, ↓reduceIte, number]
  rfl

private theorem skipOpening_string (items : List Item) (rest : Bytes) :
    skipOpening (spelled (quoted items) ++ rest) = .ok (.scalar rest) := by
  have opening (s : Bytes) : skipOpening (byte '"' :: s) = (skipString s).map .scalar := rfl
  rw [spelled_quoted, opening, skipString_items]
  rfl

mutual

/-- A value is passed over, whatever it is. -/
theorem skipWithin_tree (t : Tree) (opened : List Bracket) (before : List Space) (rest : Bytes)
    (stops : Stops rest) :
    skipWithin opened (spelled (blanks before) ++ (spelled t.chars ++ rest)) =
      skipAfter opened rest := by
  match t with
  | .null => exact skipWithin_scalar before rfl
  | .boolean true => exact skipWithin_scalar before rfl
  | .boolean false => exact skipWithin_scalar before rfl
  | .number n => exact skipWithin_scalar before (skipOpening_number n stops)
  | .string items => exact skipWithin_scalar before (skipOpening_string items rest)
  | .emptyList between =>
    rw [Tree.chars, spelled_brackets]
    exact skipWithin_empty .list before between rfl
  | .list es =>
    obtain ⟨t, tail, found⟩ := es.head (byte ']' :: rest)
    rw [Tree.chars, spelled_brackets, skipWithin_bracket .list before rfl found t.opens.2]
    exact skipMember_elements es opened rest
  | .emptyObject between =>
    rw [Tree.chars, spelled_braces]
    exact skipWithin_empty .object before between rfl
  | .object ms =>
    obtain ⟨tail, found⟩ := ms.head (byte '\x7d' :: rest)
    rw [Tree.chars, spelled_braces, skipWithin_bracket .object before rfl found (by decide)]
    exact skipMember_members ms opened rest

private theorem skipMember_elements (es : Elements) (opened : List Bracket) (rest : Bytes) :
    skipMember .list opened (spelled es.chars ++ byte ']' :: rest) = skipAfter opened rest := by
  match es with
  | .last before value after =>
    have stops : Stops (spelled (blanks after) ++ byte ']' :: rest) :=
      stops_blanks after stops_bracket
    rw [skipMember, Elements.spelled_last, skipWithin_tree value _ before _ stops]
    refine skipAfter_close ?_
    rw [skipBlank_blanks, skipBlank_cons rfl]
    rfl
  | .more before value after later =>
    have stops : Stops (spelled (blanks after) ++
      byte ',' :: (spelled later.chars ++ byte ']' :: rest)) := stops_blanks after stops_comma
    rw [skipMember, Elements.spelled_more, skipWithin_tree value _ before _ stops,
      skipAfter_comma (by rw [skipBlank_blanks, skipBlank_cons rfl]),
      skipMember_elements later opened rest]

private theorem skipMember_members (ms : Members) (opened : List Bracket) (rest : Bytes) :
    skipMember .object opened (spelled ms.chars ++ byte '\x7d' :: rest) =
      skipAfter opened rest := by
  match ms with
  | .last before name colon inner value after =>
    have stops : Stops (spelled (blanks after) ++ byte '\x7d' :: rest) :=
      stops_blanks after stops_brace
    rw [skipMember_object, Members.spelled_last, skipName_spelled]
    simp only [skipWithin_tree value _ inner _ stops]
    refine skipAfter_close ?_
    rw [skipBlank_blanks, skipBlank_cons rfl]
    rfl
  | .more before name colon inner value after later =>
    have stops : Stops (spelled (blanks after) ++
      byte ',' :: (spelled later.chars ++ byte '\x7d' :: rest)) := stops_blanks after stops_comma
    rw [skipMember_object, Members.spelled_more, skipName_spelled]
    simp only [skipWithin_tree value _ inner _ stops]
    rw [skipAfter_comma (by rw [skipBlank_blanks, skipBlank_cons rfl]),
      skipMember_members later opened rest]

end

/-- A value that nobody asks for is passed over, with the blanks before it. -/
theorem skipValue_tree (t : Tree) (before : List Space) (stops : Stops rest) :
    skipValue (spelled (blanks before) ++ (spelled t.chars ++ rest)) = .ok rest := by
  rw [skipValue, skipWithin_tree t [] before rest stops, skipAfter]

end GatewayPing.Json
