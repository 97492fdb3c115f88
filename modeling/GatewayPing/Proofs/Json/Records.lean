import GatewayPing.Json.Read
import GatewayPing.Proofs.Json.Words

/-! Values are read as they were written. A reader takes a text for a value (`Reader.Takes`) if it
reads that value off the front, whatever follows. The readers of integers and strings take what is
written for them, and the reader of a record takes an object that is written with some of its
members, each at most once, in any order (`record_takes`). -/
namespace GatewayPing

/-- Among entries with different keys, each is the one of its key. -/
theorem find?_of_nodup {α β : Type} [BEq β] [LawfulBEq β] (key : α → β) {entries : List α} {a : α}
    (distinct : (entries.map key).Nodup) (member : a ∈ entries) :
    entries.find? (fun b => key b == key a) = some a := by
  induction entries with
  | nil => cases member
  | cons b entries ih =>
    obtain ⟨apart, distinct⟩ := List.nodup_cons.mp distinct
    rcases List.mem_cons.mp member with rfl | later
    · simp
    · have other : key b ≠ key a := fun same => apart (same ▸ List.mem_map_of_mem later)
      rw [List.find?_cons_of_neg (by simpa using other), ih distinct later]

theorem eq_of_nodup {α β : Type} [BEq β] [LawfulBEq β] (key : α → β) {entries : List α} {a b : α}
    (distinct : (entries.map key).Nodup) (first : a ∈ entries) (second : b ∈ entries)
    (same : key a = key b) : a = b := by
  have found := find?_of_nodup key distinct first
  rw [same, find?_of_nodup key distinct second] at found
  exact (Option.some.inj found).symm

namespace Json

variable {α β σ : Type}

/-- A reader takes a text for a value, whatever follows the text. -/
def Reader.Takes (r : Reader α) (text : Bytes) (a : α) : Prop :=
  ∀ rest, Stops rest → r.run (text ++ rest) = .ok (a, rest)

theorem Reader.Takes.map {r : Reader α} {text : Bytes} {a : α} (takes : r.Takes text a)
    (f : α → β) : (r.map f).Takes text (f a) := by
  intro rest stops
  simp only [Reader.map, takes rest stops]

variable {b : UInt8} {s rest : Bytes}

theorem skipBlank_cons (solid : isBlank b = false) : skipBlank (b :: s) = b :: s :=
  List.dropWhile_cons_of_neg (ne_true_of_eq_false solid)

theorem digit_solid (digit : isDigit b = true) : isBlank b = false := by
  simp only [isDigit, Bool.and_eq_true, decide_eq_true_eq, UInt8.le_iff_toNat_le,
    UInt8.reduceToNat] at digit
  simp only [isBlank, Bool.or_eq_false_iff, beq_eq_false_iff_ne, ne_eq, ← UInt8.toNat_inj,
    UInt8.reduceToNat]
  omega

private theorem writeInt_head (n : Int) :
    ∃ b tail, writeInt n = b :: tail ∧ (b == byte '-' || isDigit b) = true ∧ isBlank b = false := by
  by_cases negative : n < 0
  · exact ⟨byte '-', writeNat n.natAbs, if_pos negative, rfl, rfl⟩
  · obtain ⟨b, tail, head, digit⟩ := writeNat_head n.natAbs
    exact ⟨b, tail, (if_neg negative).trans head, by simp [digit], digit_solid digit⟩

/-- An integer is read as it was written, between its bounds. -/
theorem integer_takes {low high n : Int} (expected : String) (above : low ≤ n) (below : n ≤ high)
    (signed : -0x8000000000000000 ≤ n) (unsigned : n ≤ 0xFFFFFFFFFFFFFFFF) :
    (Reader.integer low high expected).Takes (writeInt n) n := by
  intro rest stops
  obtain ⟨b, tail, head, starts, solid⟩ := writeInt_head n
  have numeral : takeNumeral .endOfValue (writeInt n ++ rest) = .ok (.ofInt n, rest) :=
    takeNumeral_written n stops
  have number := Numeral.number_ofInt signed unsigned rest.length
  rw [head, List.cons_append] at numeral ⊢
  simp only [Reader.integer, skipBlank_cons solid, starts, numeral, number, above, below,
    decide_true, Bool.and_self, ↓reduceIte]

private theorem writeString_append (text : String) (rest : Bytes) :
    writeString text ++ rest = byte '"' :: (text.toList.flatMap writeChar ++ byte '"' :: rest) := by
  simp [writeString]

/-- A string is read as it was written. -/
theorem string_takes (text : String) : Reader.string.Takes (writeString text) text := by
  intro rest _
  have quote : skipBlank (byte '"' :: (text.toList.flatMap writeChar ++ byte '"' :: rest)) =
      byte '"' :: (text.toList.flatMap writeChar ++ byte '"' :: rest) := skipBlank_cons rfl
  simp only [Reader.string, writeString_append, quote, beq_self_eq_true, ↓reduceIte,
    takeChars_written, List.reverse_nil, List.nil_append, String.ofList_toList]

/-! Members. -/

private theorem separated_cons (part : Bytes) (parts : List Bytes) :
    separated (part :: parts) = part ++ parts.flatMap fun p => byte ',' :: p := by
  induction parts generalizing part with
  | nil => simp [separated]
  | cons next parts ih => rw [separated, ih, List.flatMap_cons, List.cons_append]; simp

/-- A member of an object: its field, the text of its value, and what the value changes. -/
structure Member (σ : Type) where
  field : Field σ
  text : Bytes
  change : σ → σ

namespace Member

/-- A member as it is written. -/
def written (p : Member σ) : Bytes := writeMember p.field.name p.text

/-- What is read of a member is what was written. -/
def Sound (p : Member σ) : Prop := p.field.update.Takes p.text p.change

end Member

private theorem takeName_written (name : String) (rest : Bytes) :
    takeName (name.toList.flatMap writeChar ++ byte '"' :: rest) =
      .ok (.member name.toList rest) := by
  simp only [takeName, takeChars_written, List.reverse_nil, List.nil_append]

private theorem nextMember_first (name : String) (rest : Bytes) :
    nextMember true (writeString name ++ rest) = .ok (.member name.toList rest) := by
  have brace : (byte '"' == byte '\x7d') = false := rfl
  rw [writeString_append, nextMember, skipBlank_cons rfl]
  simp only [brace, Bool.false_eq_true, ↓reduceIte, beq_self_eq_true, takeName_written]

private theorem nextMember_later (name : String) (rest : Bytes) :
    nextMember false (byte ',' :: (writeString name ++ rest)) = .ok (.member name.toList rest) := by
  have brace : (byte ',' == byte '\x7d') = false := rfl
  rw [writeString_append, nextMember, skipBlank_cons rfl]
  simp only [brace, Bool.false_eq_true, ↓reduceIte, beq_self_eq_true]
  rw [skipBlank_cons rfl]
  simp only [beq_self_eq_true, ↓reduceIte, takeName_written]

private theorem nextMember_close (first : Bool) (rest : Bytes) :
    nextMember first (byte '\x7d' :: rest) = .ok (.closed rest) := by
  rw [nextMember, skipBlank_cons rfl]
  simp only [beq_self_eq_true, ↓reduceIte]

variable {fields : List (Field σ)} {first : Bool} {seen : List String} {value : σ}

theorem readMembers_close (closes : nextMember first s = .ok (.closed rest)) :
    readMembers fields first seen value s = .ok (value, rest) := by
  rw [readMembers]
  split
  all_goals rename_i found; cases closes.symm.trans found
  rfl

private theorem find?_field {field : Field σ} (distinct : (fields.map (·.name)).Nodup)
    (known : field ∈ fields) : fields.find? (·.name.toList == field.name.toList) = some field := by
  refine find?_of_nodup (fun f : Field σ => f.name.toList) ?_ known
  have spelled : ((fields.map (·.name)).map String.toList).Nodup :=
    List.Pairwise.map _ (fun _ _ apart same => apart (String.toList_inj.mp same)) distinct
  rwa [List.map_map] at spelled

/-- A member of a known field that was not read before changes the record. -/
theorem readMembers_member {p : Member σ} (distinct : (fields.map (·.name)).Nodup)
    (known : p.field ∈ fields) (new : p.field.name ∉ seen) (sound : p.Sound) (stops : Stops rest)
    (found : nextMember first s =
      .ok (.member p.field.name.toList (byte ':' :: (p.text ++ rest)))) :
    readMembers fields first seen value s =
      readMembers fields false (p.field.name :: seen) (p.change value) rest := by
  have colon : takeColon (byte ':' :: (p.text ++ rest)) = .ok (p.text ++ rest) := by
    rw [takeColon, skipBlank_cons rfl]
    exact if_pos (beq_self_eq_true _)
  have read := sound rest stops
  rw [readMembers]
  split
  all_goals rename_i same; cases found.symm.trans same
  simp only [find?_field distinct known]
  rw [if_neg (by simpa using new)]
  split
  all_goals rename_i same; cases colon.symm.trans same
  split
  all_goals rename_i same; cases read.symm.trans same
  rfl

/-- Bytes that begin with one that no numeral has. -/
theorem stops_comma : Stops (byte ',' :: s) := by
  intro b first
  cases first
  decide

theorem stops_brace : Stops (byte '\x7d' :: s) := by
  intro b first
  cases first
  decide

private theorem stops_members (members : List (Member σ)) (rest : Bytes) :
    Stops (members.flatMap (fun p => byte ',' :: p.written) ++ byte '\x7d' :: rest) := by
  cases members with
  | nil => exact stops_brace
  | cons p members => exact stops_comma

private theorem written_append (p : Member σ) (rest : Bytes) :
    p.written ++ rest = writeString p.field.name ++ (byte ':' :: (p.text ++ rest)) := by
  simp [Member.written, writeMember]

/-- The members of an object are read in the order in which they were written. -/
theorem readMembers_written (distinct : (fields.map (·.name)).Nodup) (members : List (Member σ))
    (known : ∀ p ∈ members, p.field ∈ fields) (sound : ∀ p ∈ members, p.Sound)
    (new : ∀ p ∈ members, p.field.name ∉ seen) (once : (members.map (·.field.name)).Nodup)
    (rest : Bytes) :
    readMembers fields false seen value
        (members.flatMap (fun p => byte ',' :: p.written) ++ byte '\x7d' :: rest) =
      .ok (members.foldl (fun value p => p.change value) value, rest) := by
  induction members generalizing seen value with
  | nil => exact readMembers_close (nextMember_close false rest)
  | cons p members ih =>
    obtain ⟨apart, once⟩ := List.nodup_cons.mp once
    have found := nextMember_later p.field.name (byte ':' :: (p.text ++
      (members.flatMap (fun p => byte ',' :: p.written) ++ byte '\x7d' :: rest)))
    rw [← written_append] at found
    rw [List.flatMap_cons, List.cons_append, List.cons_append, List.append_assoc,
      readMembers_member distinct (known p (by simp)) (new p (by simp)) (sound p (by simp))
        (stops_members members rest) found]
    refine ih (fun q member => known q (by simp [member]))
      (fun q member => sound q (by simp [member])) ?_ once
    intro q member
    rw [List.mem_cons, not_or]
    refine ⟨?_, new q (by simp [member])⟩
    intro same
    exact apart (List.mem_map.mpr ⟨q, member, same⟩)

/-- All members of an object are read: the first one, before which there is no comma, and then the
others. -/
theorem readMembers_separated (distinct : (fields.map (·.name)).Nodup) (members : List (Member σ))
    (known : ∀ p ∈ members, p.field ∈ fields) (sound : ∀ p ∈ members, p.Sound)
    (once : (members.map (·.field.name)).Nodup) (rest : Bytes) :
    readMembers fields true [] value
        (separated (members.map Member.written) ++ byte '\x7d' :: rest) =
      .ok (members.foldl (fun value p => p.change value) value, rest) := by
  cases members with
  | nil => exact readMembers_close (nextMember_close true rest)
  | cons p members =>
    obtain ⟨apart, once⟩ := List.nodup_cons.mp once
    have found := nextMember_first p.field.name (byte ':' :: (p.text ++
      (members.flatMap (fun p => byte ',' :: p.written) ++ byte '\x7d' :: rest)))
    rw [← written_append] at found
    rw [List.map_cons, separated_cons, List.flatMap_map, List.append_assoc,
      readMembers_member distinct (known p (by simp)) (by simp) (sound p (by simp))
        (stops_members members rest) found]
    refine readMembers_written distinct members (fun q member => known q (by simp [member]))
      (fun q member => sound q (by simp [member])) ?_ once rest
    intro q member
    rw [List.mem_singleton]
    intro same
    exact apart (List.mem_map.mpr ⟨q, member, same⟩)

/-- An object of some of the fields of a record, each at most once, is read as what its members
change. -/
theorem record_takes (name : String) (default : σ) (distinct : (fields.map (·.name)).Nodup)
    (members : List (Member σ)) (known : ∀ p ∈ members, p.field ∈ fields)
    (sound : ∀ p ∈ members, p.Sound) (once : (members.map (·.field.name)).Nodup) :
    (Reader.record name fields default).Takes
      (writeObject (members.map fun p => (p.field.name, p.text)))
      (members.foldl (fun value p => p.change value) default) := by
  intro rest _
  have bracket : (byte '\x7b' == byte '[') = false := rfl
  have object : writeObject (members.map fun p => (p.field.name, p.text)) ++ rest =
      byte '\x7b' :: (separated (members.map Member.written) ++ byte '\x7d' :: rest) := by
    rw [writeObject, List.map_map, List.cons_append, List.cons_append, List.append_assoc]
    rfl
  rw [object]
  simp only [Reader.record, skipBlank_cons (b := byte '\x7b') rfl, bracket, Bool.false_eq_true,
    ↓reduceIte, beq_self_eq_true, readMembers_separated distinct members known sound once rest]

/-- A text that holds a value and nothing else is read as that value. -/
theorem Reader.Takes.read {r : Reader α} {text : Bytes} {a : α} (takes : r.Takes text a) :
    r.read text = .ok a := by
  have run := takes [] (by simp [Stops])
  rw [List.append_nil] at run
  simp only [Reader.read, run]
  rfl

end Json
end GatewayPing
