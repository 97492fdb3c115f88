import GatewayPing.Proofs.Json.Typed

/-! An object is read member by member. What it makes of a record is told by the names and values of
its members alone (`changed?`): a member of an unknown name is passed over, whatever its value is; a
member of a known name changes the record; and the object is refused if a known name stands in it
twice, if the value of a known name means nothing there, or if a name is no text
(`readMembers_members`). -/
namespace GatewayPing.Json

variable {σ : Type} {s rest tail : Bytes}

/-- The text of a name. -/
def nameText? (name : List Item) : Option String := (meant? name).map String.ofList

/-- What the members of an object make of a record. Known names are listed, and `change?` tells how
the value of a known name changes the record; `seen` are the known names that stood before. -/
def changed? (names : List String) (change? : String → Tree → Option (σ → σ)) :
    List String → σ → List (List Item × Tree) → Option σ
  | _, value, [] => some value
  | seen, value, (name, t) :: entries =>
    (nameText? name).bind fun name =>
      if name ∈ names then
        if name ∈ seen then none
        else (change? name t).bind fun change =>
          changed? names change? (name :: seen) (change value) entries
      else changed? names change? seen value entries

/-! Names. -/

private theorem nextMember_opened (found : skipBlank s = byte '"' :: tail) :
    nextMember true s = takeName tail := by
  have brace : (byte '"' == byte '\x7d') = false := rfl
  simp only [nextMember, found, brace, Bool.false_eq_true, ↓reduceIte, beq_self_eq_true]

private theorem nextMember_comma (after : List Space) (found : skipBlank s = byte '"' :: tail) :
    nextMember false (spelled (blanks after) ++ byte ',' :: s) = takeName tail := by
  have brace : (byte ',' == byte '\x7d') = false := rfl
  rw [nextMember, skipBlank_blanks, skipBlank_cons rfl]
  simp only [found, brace, Bool.false_eq_true, ↓reduceIte, beq_self_eq_true]

private theorem nextMember_end (first : Bool) (after : List Space) (s : Bytes) :
    nextMember first (spelled (blanks after) ++ byte '\x7d' :: s) = .ok (.closed s) := by
  rw [nextMember, skipBlank_blanks, skipBlank_cons rfl]
  exact if_pos (beq_self_eq_true _)

private theorem takeColon_spelled (colon : List Space) (s : Bytes) :
    takeColon (spelled (blanks colon) ++ byte ':' :: s) = .ok s := by
  rw [takeColon, skipBlank_blanks, skipBlank_cons rfl]
  exact if_pos (beq_self_eq_true _)

/-! Members. -/

variable {fields : List (Field σ)} {first : Bool} {seen : List String} {value : σ}
  {change? : String → Tree → Option (σ → σ)}

private theorem readMembers_fault (next : ∃ fault, nextMember first s = .error fault) :
    ∃ fault, readMembers fields first seen value s = .error fault := by
  obtain ⟨fault, refused⟩ := next
  rw [readMembers]
  split
  all_goals rename_i same; cases refused.symm.trans same
  exact ⟨_, rfl⟩

section Named
variable {name : List Char} {colon : List Space} {inner : Bytes}
  (next : nextMember first s = .ok (.member name (spelled (blanks colon) ++ byte ':' :: inner)))
include next

/-- A member of an unknown name is passed over. -/
theorem readMembers_unknown (unknown : fields.find? (·.name.toList == name) = none)
    (passed : skipValue inner = .ok rest) :
    readMembers fields first seen value s = readMembers fields false seen value rest := by
  have after := takeColon_spelled colon inner
  rw [readMembers]
  split
  all_goals rename_i same; cases next.symm.trans same
  simp only [unknown]
  split
  all_goals rename_i same; cases after.symm.trans same
  split
  all_goals rename_i same; cases passed.symm.trans same
  rfl

variable {field : Field σ} (known : fields.find? (·.name.toList == name) = some field)
include known

/-- A second member of a known name is refused. -/
theorem readMembers_repeated (again : field.name ∈ seen) :
    ∃ fault, readMembers fields first seen value s = .error fault := by
  rw [readMembers]
  split
  all_goals rename_i same; cases next.symm.trans same
  simp only [known]
  exact ⟨_, if_pos (by simpa using again)⟩

/-- The first member of a known name is read by its field. -/
theorem readMembers_known (new : field.name ∉ seen) :
    readMembers fields first seen value s =
      match field.update.run inner with
      | .error e => .error e
      | .ok (change, rest) =>
        readMembers fields false (field.name :: seen) (change value) rest := by
  have after := takeColon_spelled colon inner
  rw [readMembers]
  split
  all_goals rename_i same; cases next.symm.trans same
  simp only [known]
  rw [if_neg (by simpa using new)]
  split
  all_goals rename_i same; cases after.symm.trans same
  split <;> rename_i read <;> rw [read]

end Named

private theorem find?_known {name : List Char} {field : Field σ}
    (found : fields.find? (·.name.toList == name) = some field) :
    field ∈ fields ∧ field.name = String.ofList name := by
  have same := List.find?_some found
  rw [beq_iff_eq] at same
  exact ⟨List.mem_of_find?_eq_some found, by rw [← same, String.ofList_toList]⟩

private theorem find?_unknown {name : List Char}
    (missing : fields.find? (·.name.toList == name) = none) :
    String.ofList name ∉ fields.map (·.name) := by
  intro member
  obtain ⟨field, known, same⟩ := List.mem_map.mp member
  refine absurd ?_ (List.find?_eq_none.mp missing field known)
  rw [beq_iff_eq, same, String.toList_ofList]

/-- One member is read, and the others after it. `next` are the bytes after the value. -/
theorem readMembers_entry {next : Bytes} (reads : ∀ f ∈ fields, f.update.Reads (change? f.name))
    (colon inner : List Space) (name : List Item) (t : Tree) (entries : List (List Item × Tree))
    (found : nextMember first s = takeName (spelled (itemChars name) ++
      byte '"' :: (spelled (blanks colon) ++
        byte ':' :: (spelled (blanks inner) ++ (spelled t.chars ++ next)))))
    (stops : Stops next)
    (others : ∀ seen value, Gives (readMembers fields false seen value next) rest
      (changed? (fields.map (·.name)) change? seen value entries)) :
    Gives (readMembers fields first seen value s) rest
      (changed? (fields.map (·.name)) change? seen value ((name, t) :: entries)) := by
  have text := takeText name (spelled (blanks colon) ++
    byte ':' :: (spelled (blanks inner) ++ (spelled t.chars ++ next)))
  rw [changed?, nameText?]
  rcases text.cases with ⟨chars, meant, read⟩ | ⟨meant, fault, refused⟩
  · simp only [takeName, read] at found
    simp only [meant, Option.map_some, Option.bind_some]
    cases member : fields.find? (·.name.toList == chars) with
    | none =>
      rw [if_neg (find?_unknown member),
        readMembers_unknown found member (skipValue_tree t inner stops)]
      exact others seen value
    | some field =>
      obtain ⟨known, same⟩ := find?_known member
      rw [← same, if_pos (List.mem_map_of_mem known)]
      by_cases again : field.name ∈ seen
      · rw [if_pos again]
        exact readMembers_repeated found member again
      · rw [if_neg again, readMembers_known found member again]
        rcases (reads field known t inner next stops).cases with
          ⟨change, gives, done⟩ | ⟨nothing, fault, refused⟩
        · rw [gives, done]
          exact others _ (change value)
        · rw [nothing, refused]
          exact .refused rfl
  · simp only [takeName, refused] at found
    rw [meant]
    exact readMembers_fault ⟨fault, found⟩

/-- The members of an object are read as what their names and values make of a record. The first
member and those after a comma are told apart by `found` only: the name is what is found next. -/
theorem readMembers_members (reads : ∀ f ∈ fields, f.update.Reads (change? f.name)) (ms : Members)
    (first : Bool) (seen : List String) (value : σ) (s rest : Bytes)
    (found : ∀ tail, skipBlank (spelled ms.chars ++ byte '\x7d' :: rest) = byte '"' :: tail →
      nextMember first s = takeName tail) :
    Gives (readMembers fields first seen value s) rest
      (changed? (fields.map (·.name)) change? seen value ms.entries) := by
  match ms with
  | .last before name colon inner t after =>
    have next := found _ (by rw [Members.spelled_last, skipBlank_name])
    refine readMembers_entry reads colon inner name t [] next (stops_blanks after stops_brace) ?_
    intro seen value
    exact readMembers_close (nextMember_end false after rest)
  | .more before name colon inner t after later =>
    have next := found _ (by rw [Members.spelled_more, skipBlank_name])
    refine readMembers_entry reads colon inner name t later.entries next
      (stops_blanks after stops_comma) ?_
    intro seen value
    exact readMembers_members reads later false seen value _ rest fun tail name =>
      nextMember_comma after name

/-- The names and values of a value, if it is an object. -/
def Tree.entries? : Tree → Option (List (List Item × Tree))
  | .emptyObject _ => some []
  | .object ms => some ms.entries
  | _ => none

/-- An object is read as a record, starting from its default. -/
theorem record_reads_object (name : String) (default : σ)
    (reads : ∀ f ∈ fields, f.update.Reads (change? f.name)) {t : Tree}
    {entries : List (List Item × Tree)} (object : t.entries? = some entries)
    (before : List Space) (rest : Bytes) :
    Gives ((Reader.record name fields default).run
        (spelled (blanks before) ++ (spelled t.chars ++ rest))) rest
      (changed? (fields.map (·.name)) change? [] default entries) := by
  obtain ⟨tail, text, found⟩ := skipBlank_first t before rest
  have bracket : (byte '\x7b' == byte '[') = false := rfl
  cases t with
  | emptyObject inside =>
    cases object
    rw [Tree.chars, spelled_braces] at text
    obtain ⟨-, rfl⟩ := List.cons.inj text
    simp only [Reader.record, found, Tree.first, bracket, Bool.false_eq_true, ↓reduceIte,
      beq_self_eq_true]
    exact readMembers_close (nextMember_end true inside rest)
  | object ms =>
    cases object
    rw [Tree.chars, spelled_braces] at text
    obtain ⟨-, rfl⟩ := List.cons.inj text
    simp only [Reader.record, found, Tree.first, bracket, Bool.false_eq_true, ↓reduceIte,
      beq_self_eq_true]
    exact readMembers_members reads ms true [] default _ rest fun tail name =>
      nextMember_opened name
  | _ => cases object

/-- A text that holds one value, with blanks around it. -/
def document (before : List Space) (t : Tree) (after : List Space) : Bytes :=
  spelled (blanks before ++ t.chars ++ blanks after)

theorem document_eq (before : List Space) (t : Tree) (after : List Space) :
    document before t after =
      spelled (blanks before) ++ (spelled t.chars ++ spelled (blanks after)) := by
  rw [document, spelled_append, spelled_append, List.append_assoc]

/-- A text with an object is read as what the members make of the default. -/
theorem record_read_object (name : String) (default : σ)
    (reads : ∀ f ∈ fields, f.update.Reads (change? f.name)) {t : Tree}
    {entries : List (List Item × Tree)} (object : t.entries? = some entries)
    (before after : List Space) :
    (∃ a, changed? (fields.map (·.name)) change? [] default entries = some a ∧
      (Reader.record name fields default).read (document before t after) = .ok a) ∨
    changed? (fields.map (·.name)) change? [] default entries = none ∧
      ∃ e, (Reader.record name fields default).read (document before t after) = .error e := by
  rw [document_eq]
  exact Reader.read_ended (record_reads_object name default reads object before _)
    (skipBlank_eq_nil.mpr ⟨after, rfl⟩)

/-- A record is written in brackets of one kind or the other. Anything else is refused. -/
theorem record_refuses (name : String) (fields : List (Field σ)) (default : σ)
    (bare : ∀ b ∈ (skipBlank s).head?, b ≠ byte '[' ∧ b ≠ byte '\x7b') :
    ∃ e, (Reader.record name fields default).read s = .error e := by
  have refused : ∃ fault, (Reader.record name fields default).run s = .error fault := by
    cases found : skipBlank s with
    | nil =>
      refine ⟨⟨.endOfValue, 0⟩, ?_⟩
      simp only [Reader.record, found]
    | cons b inner =>
      obtain ⟨list, object⟩ := bare b (by rw [found]; rfl)
      refine ⟨mismatch s!"struct {name}" (b :: inner), ?_⟩
      simp only [Reader.record, found, beq_iff_eq, list, object, ↓reduceIte]
  obtain ⟨fault, refused⟩ := refused
  exact ⟨fault.locate s, by simp only [Reader.read, refused]⟩

end GatewayPing.Json
