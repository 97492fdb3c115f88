import GatewayPing.Proofs.Json.Objects
import GatewayPing.Proofs.Message.Lossless

/-! Messages as objects. An object is read as a message field by field: each field holds the value
of the one member under its name, or its default where there is none. Neither the order of the
members nor the way in which the object is written matters, and members under other names are passed
over, whatever they hold. An object is refused only if a member of a field occurs twice or holds no
value of the field, or if the name of a member is no text. Main statement:
`messages_read_by_name`. -/
namespace GatewayPing

open Json

variable {σ : Type}

/-! Values. -/

namespace Kind

/-- A member holds a value: the number that is written is the integer, or the string means the
text. -/
def Holds : (k : Kind) → Tree → k.Value → Prop
  | .int64, t, v => ∃ n : Written, t = .number n ∧ n.int? = some v.toInt
  | .int32, t, v => ∃ n : Written, t = .number n ∧ n.int? = some v.toInt
  | .string, t, v => t.text? = some v

/-- The value that a member holds, if it holds one: an integer that there is room for, or a text. -/
def meaning? : (k : Kind) → Tree → Option k.Value
  | .int64, t => (t.int? (-0x8000000000000000) 0x7FFFFFFFFFFFFFFF).map Int64.ofInt
  | .int32, t => (t.int? (-0x80000000) 0x7FFFFFFF).map Int32.ofInt
  | .string, t => t.text?

private theorem reader_reads (k : Kind) : k.reader.Reads k.meaning? := by
  cases k with
  | int64 => exact (integer_reads "i64" (by decide) (by decide)).map Int64.ofInt
  | int32 => exact (integer_reads "i32" (by decide) (by decide)).map Int32.ofInt
  | string => exact string_reads

private theorem meaning?_int64 {t : Tree} {v : Int64} :
    Kind.int64.meaning? t = some v ↔ Kind.int64.Holds t v := by
  rw [meaning?, Option.map_eq_some_iff]
  constructor
  · rintro ⟨value, held, rfl⟩
    obtain ⟨n, rfl, same, above, below⟩ := Tree.int?_eq_some.mp held
    exact ⟨n, rfl, by rw [same, Int64.toInt_ofInt_of_le above (by omega)]⟩
  · rintro ⟨n, rfl, same⟩
    have high := Int64.toInt_lt v
    exact ⟨v.toInt, Tree.int?_number.mpr ⟨same, Int64.le_toInt v, by omega⟩, Int64.ofInt_toInt v⟩

private theorem meaning?_int32 {t : Tree} {v : Int32} :
    Kind.int32.meaning? t = some v ↔ Kind.int32.Holds t v := by
  rw [meaning?, Option.map_eq_some_iff]
  constructor
  · rintro ⟨value, held, rfl⟩
    obtain ⟨n, rfl, same, above, below⟩ := Tree.int?_eq_some.mp held
    exact ⟨n, rfl, by rw [same, Int32.toInt_ofInt_of_le above (by omega)]⟩
  · rintro ⟨n, rfl, same⟩
    have high := Int32.toInt_lt v
    exact ⟨v.toInt, Tree.int?_number.mpr ⟨same, Int32.le_toInt v, by omega⟩, Int32.ofInt_toInt v⟩

/-- Nothing is cut off: what a member is read as is what it holds. -/
theorem meaning?_iff {k : Kind} {t : Tree} {v : k.Value} : k.meaning? t = some v ↔ k.Holds t v := by
  cases k with
  | int64 => exact meaning?_int64
  | int32 => exact meaning?_int32
  | string => exact Iff.rfl

private theorem not_holds_null {k : Kind} {v : k.Value} : ¬k.Holds .null v := by
  rw [← meaning?_iff]
  cases k <;> exact (Option.some_ne_none v).symm

/-- The members under one name tell a value: the only one holds it, or there is none and it is the
default. -/
def Told : (k : Kind) → List Tree → k.Value → Prop
  | k, [], v => v = k.default
  | k, [t], v => k.Holds t v
  | _, _, _ => False

/-- What the members under one name make of a value. It stays if there is no such member, and there
may be no second one. -/
def told? (k : Kind) (old : k.Value) : List Tree → Option k.Value
  | [] => some old
  | [t] => k.meaning? t
  | _ => none

variable {k : Kind} {old v w : k.Value} {t : Tree} {ts us : List Tree}

private theorem told?_misfit (misfit : k.meaning? t = none) : k.told? old (t :: ts) = none := by
  cases ts with
  | nil => exact misfit
  | cons u ts => rfl

/-- A member with a value is the only one that tells. -/
theorem told?_cons (held : k.meaning? t = some v) :
    k.told? old (t :: ts) = some w ↔ ts = [] ∧ k.told? v ts = some w := by
  cases ts with
  | nil => simp [told?, held]
  | cons u ts => simp [told?]

private theorem told?_iff : k.told? k.default ts = some v ↔ k.Told ts v := by
  match ts with
  | [] => simp [told?, Told, eq_comm]
  | [t] => exact meaning?_iff
  | t :: u :: ts => simp [told?, Told]

private theorem exists_told : (∃ v, k.Told ts v) ↔ ts.length ≤ 1 ∧ ∀ t ∈ ts, ∃ v, k.Holds t v := by
  match ts with
  | [] => simp [Told]
  | [t] => simp [Told]
  | t :: u :: ts => simp [Told]

private theorem Told.unique (one : k.Told ts v) (other : k.Told ts w) : v = w :=
  Option.some.inj ((told?_iff.mpr one).symm.trans (told?_iff.mpr other))

/-- The order of the members does not matter: where there are two of them, nothing is told. -/
theorem Told.perm (told : k.Told ts v) (permuted : ts.Perm us) : k.Told us v := by
  match ts, us, permuted.length_eq with
  | [], [], _ => exact told
  | [t], [u], _ => exact List.singleton_perm_singleton.mp permuted ▸ told

end Kind

/-! Members. -/

/-- The names of all members are texts. -/
def Named (entries : List (List Item × Tree)) : Prop := ∀ e ∈ entries, (nameText? e.1).isSome

instance (entries : List (List Item × Tree)) : Decidable (Named entries) :=
  inferInstanceAs (Decidable (∀ e ∈ entries, (nameText? e.1).isSome))

private theorem named_cons {name : List Item} {text : String} (called : nameText? name = some text)
    (t : Tree)
    (entries : List (List Item × Tree)) : Named ((name, t) :: entries) ↔ Named entries := by
  simp [Named, called]

namespace FieldSpec

variable {f : FieldSpec σ} {name : List Item} {text : String} {t : Tree}
  {entries : List (List Item × Tree)} {seen : List String} {m m' : σ}

/-- The value of a member, if it is under the name of a field. -/
def value? (f : FieldSpec σ) (entry : List Item × Tree) : Option Tree :=
  if nameText? entry.1 = some f.member then some entry.2 else none

/-- The values of the members under the name of a field, in their order. -/
def found (f : FieldSpec σ) (entries : List (List Item × Tree)) : List Tree :=
  entries.filterMap f.value?

/-- The value that members give to a field, if they give it one. -/
def valueIn (f : FieldSpec σ) (entries : List (List Item × Tree)) : f.kind.Value :=
  (f.kind.told? f.kind.default (f.found entries)).getD f.kind.default

private theorem called_ne (called : nameText? name = some text) (other : text ≠ f.member) :
    nameText? name ≠ some f.member :=
  fun same => other (Option.some.inj (called.symm.trans same))

private theorem found_same (called : nameText? name = some f.member) :
    f.found ((name, t) :: entries) = t :: f.found entries :=
  List.filterMap_cons_some (if_pos called)

private theorem found_other (other : nameText? name ≠ some f.member) :
    f.found ((name, t) :: entries) = f.found entries :=
  List.filterMap_cons_none (if_neg other)

private theorem found_append (entries later : List (List Item × Tree)) :
    f.found (entries ++ later) = f.found entries ++ f.found later :=
  List.filterMap_append

/-- What members make of a field of a message, where some names were seen before: no name that was
seen stands again, and the value is what the members under the name tell. -/
def Follows (f : FieldSpec σ) (seen : List String) (m m' : σ)
    (entries : List (List Item × Tree)) : Prop :=
  (f.member ∈ seen → f.found entries = []) ∧
    f.kind.told? (f.get m) (f.found entries) = some (f.get m')

private theorem not_follows_again (called : nameText? name = some f.member)
    (again : f.member ∈ seen) : ¬f.Follows seen m m' ((name, t) :: entries) := by
  rintro ⟨none, -⟩
  rw [found_same called] at none
  exact List.cons_ne_nil _ _ (none again)

private theorem not_follows_misfit (called : nameText? name = some f.member)
    (misfit : f.kind.meaning? t = none) : ¬f.Follows seen m m' ((name, t) :: entries) := by
  rintro ⟨-, told⟩
  rw [found_same called, Kind.told?_misfit misfit] at told
  cases told

/-- The first member under the name of a field. -/
theorem follows_same {v : f.kind.Value} (called : nameText? name = some f.member)
    (new : f.member ∉ seen) (held : f.kind.meaning? t = some v) {next : σ} (put : f.get next = v) :
    f.Follows seen m m' ((name, t) :: entries) ↔ f.Follows (f.member :: seen) next m' entries := by
  simp only [Follows, found_same called, Kind.told?_cons held, put, new, false_imp_iff, true_and,
    List.mem_cons_self, true_imp_iff]

/-- A member under another name. -/
theorem follows_other {next : σ} (other : nameText? name ≠ some f.member)
    (kept : f.get next = f.get m) :
    f.Follows seen m m' ((name, t) :: entries) ↔ f.Follows seen next m' entries := by
  rw [Follows, Follows, found_other other, kept]

private theorem follows_seen (other : text ≠ f.member) :
    f.Follows (text :: seen) m m' entries ↔ f.Follows seen m m' entries := by
  simp only [Follows, List.mem_cons, other.symm, false_or]

end FieldSpec

namespace Schema

variable {schema : Schema σ} {entries later : List (List Item × Tree)} {seen : List String}
  {m m' : σ} {name : List Item} {t : Tree}

/-- The names of the fields. -/
def members (schema : Schema σ) : List String := schema.fields.map (·.member)

/-- How a member under the name of a field changes a message. -/
def change? (schema : Schema σ) (name : String) (t : Tree) : Option (σ → σ) :=
  (schema.fields.find? (·.member == name)).bind fun f => (f.kind.meaning? t).map f.set

private theorem change?_member (lawful : schema.Lawful) {f : FieldSpec σ}
    (known : f ∈ schema.fields)
    (t : Tree) : schema.change? f.member t = (f.kind.meaning? t).map f.set := by
  rw [change?, find?_of_nodup (·.member) lawful.members known, Option.bind_some]

/-- The fields of a message as the fields of a record. -/
def recordFields (schema : Schema σ) : List (Json.Field σ) :=
  schema.fields.map fun f => .of f.member f.kind.reader f.set

private theorem recordFields_names (schema : Schema σ) :
    schema.recordFields.map (·.name) = schema.members := by
  rw [recordFields, List.map_map]
  rfl

private theorem recordFields_read (lawful : schema.Lawful) :
    ∀ f ∈ schema.recordFields, f.update.Reads (schema.change? f.name) := by
  intro field listed
  obtain ⟨f, known, rfl⟩ := List.mem_map.mp listed
  have same : schema.change? f.member = fun t => (f.kind.meaning? t).map f.set :=
    funext (change?_member lawful known)
  exact same ▸ f.kind.reader_reads.map f.set

/-- The first member under the name of a field puts its value into the field, and leaves the other
fields alone. -/
theorem follows_put (lawful : schema.Lawful) {f g : FieldSpec σ} (known : f ∈ schema.fields)
    (other : g ∈ schema.fields) (called : nameText? name = some f.member) (new : f.member ∉ seen)
    {v : f.kind.Value} (held : f.kind.meaning? t = some v) :
    g.Follows seen m m' ((name, t) :: entries) ↔
      g.Follows (f.member :: seen) (f.set v m) m' entries := by
  by_cases same : g.member = f.member
  · obtain rfl := eq_of_nodup (·.member) lawful.members other known same
    exact FieldSpec.follows_same called new held (lawful.get_set g known v m)
  · have apart : g.number ≠ f.number :=
      fun number => same (eq_of_nodup (·.number) lawful.numbers other known number ▸ rfl)
    have elsewhere := FieldSpec.called_ne called (Ne.symm same)
    rw [FieldSpec.follows_seen (Ne.symm same),
      FieldSpec.follows_other elsewhere (lawful.apart g other f known apart v m)]

private theorem ne_member {f : FieldSpec σ} (known : f ∈ schema.fields) {text : String}
    (unknown : text ∉ schema.members) : text ≠ f.member :=
  fun same => unknown (same ▸ List.mem_map_of_mem known)

/-- What the members of an object make of a message is told field by field. The induction is on the
members that are left; those that came before are known by their names only. -/
theorem changed?_iff (lawful : schema.Lawful) :
    changed? schema.members schema.change? seen m entries = some m' ↔
      Named entries ∧ ∀ f ∈ schema.fields, f.Follows seen m m' entries := by
  induction entries generalizing seen m with
  | nil =>
    have named : Named [] := fun _ none => absurd none List.not_mem_nil
    constructor
    · intro same
      cases same
      exact ⟨named, fun f _ => ⟨fun _ => rfl, rfl⟩⟩
    · rintro ⟨-, follows⟩
      exact congrArg some (lawful.ext m m' fun f known => Option.some.inj (follows f known).2)
  | cons entry entries ih =>
    obtain ⟨name, t⟩ := entry
    cases called : nameText? name with
    | none => simp [changed?, Named, called]
    | some text =>
      rw [changed?, called, Option.bind_some, named_cons called]
      by_cases listed : text ∈ schema.members
      · obtain ⟨f, known, rfl⟩ := List.mem_map.mp listed
        rw [if_pos listed]
        by_cases again : f.member ∈ seen
        · rw [if_pos again]
          refine iff_of_false (Option.some_ne_none m').symm ?_
          rintro ⟨-, follows⟩
          exact FieldSpec.not_follows_again called again (follows f known)
        · rw [if_neg again, change?_member lawful known]
          cases held : f.kind.meaning? t with
          | none =>
            refine iff_of_false (Option.some_ne_none m').symm ?_
            rintro ⟨-, follows⟩
            exact FieldSpec.not_follows_misfit called held (follows f known)
          | some v =>
            rw [Option.map_some, Option.bind_some, ih]
            exact and_congr_right fun _ => forall₂_congr fun g other =>
              (follows_put lawful known other called again held).symm
      · rw [if_neg listed, ih]
        exact and_congr_right fun _ => forall₂_congr fun f known =>
          (FieldSpec.follows_other (FieldSpec.called_ne called (ne_member known listed)) rfl).symm

/-- The members of an object tell a message: all names are texts, and the members under the name of
each field tell its value. -/
structure Tells (schema : Schema σ) (entries : List (List Item × Tree)) (m : σ) : Prop where
  named : Named entries
  fields : ∀ f ∈ schema.fields, f.kind.Told (f.found entries) (f.get m)

/-- The members of an object have names that are texts, and a member under the name of a field is
the only one there and holds a value of the field. -/
structure Sound (schema : Schema σ) (entries : List (List Item × Tree)) : Prop where
  named : Named entries
  once : ∀ f ∈ schema.fields, (f.found entries).length ≤ 1
  typed : ∀ f ∈ schema.fields, ∀ t ∈ f.found entries, ∃ v, f.kind.Holds t v

private theorem tells_iff (lawful : schema.Lawful) :
    changed? schema.members schema.change? [] schema.blank entries = some m ↔
      schema.Tells entries m := by
  have fresh : ∀ f ∈ schema.fields, f.Follows [] schema.blank m entries ↔
      f.kind.Told (f.found entries) (f.get m) := by
    intro f known
    rw [FieldSpec.Follows, lawful.blank f known, Kind.told?_iff]
    exact and_iff_right fun seen => absurd seen List.not_mem_nil
  rw [changed?_iff lawful, forall₂_congr fresh]
  exact ⟨fun ⟨named, fields⟩ => ⟨named, fields⟩, fun ⟨named, fields⟩ => ⟨named, fields⟩⟩

/-- Members that are sound tell a message. It is put together field by field. -/
theorem Sound.tells (lawful : schema.Lawful) (sound : schema.Sound entries) :
    ∃ m, schema.Tells entries m := by
  refine ⟨fill (·.valueIn entries) schema.fields schema.blank, sound.named, fun f known => ?_⟩
  obtain ⟨v, told⟩ := Kind.exists_told.mpr ⟨sound.once f known, sound.typed f known⟩
  rw [fill_get _ lawful (fun _ => id) lawful.numbers known, FieldSpec.valueIn,
    Kind.told?_iff.mpr told, Option.getD_some]
  exact told

private theorem Tells.sound (tells : schema.Tells entries m) : schema.Sound entries where
  named := tells.named
  once f known := (Kind.exists_told.mp ⟨_, tells.fields f known⟩).1
  typed f known := (Kind.exists_told.mp ⟨_, tells.fields f known⟩).2

private theorem Tells.unique (lawful : schema.Lawful) (one : schema.Tells entries m)
    (other : schema.Tells entries m') : m = m' :=
  lawful.ext m m' fun f known => (one.fields f known).unique (other.fields f known)

/-! Texts. -/

variable {before after : List Space}

/-- An object is read as the message that its members tell, if they tell one. -/
theorem decode_object (lawful : schema.Lawful) (object : t.entries? = some entries)
    (before after : List Space) :
    (∃ m, schema.Tells entries m ∧ schema.decode .text (document before t after) = .ok m) ∨
      ¬schema.Sound entries ∧
        ∃ e, schema.decode .text (document before t after) = .error e := by
  have read := record_read_object schema.name schema.blank (recordFields_read lawful) object
    before after
  rw [recordFields_names] at read
  rcases read with ⟨m, changed, read⟩ | ⟨unchanged, e, refused⟩
  · exact .inl ⟨m, (tells_iff lawful).mp changed, congrArg (Except.mapError DecodeError.json) read⟩
  · refine .inr ⟨fun sound => ?_, .json e, congrArg (Except.mapError DecodeError.json) refused⟩
    obtain ⟨m, tells⟩ := sound.tells lawful
    cases unchanged.symm.trans ((tells_iff lawful).mpr tells)

private theorem decode_tells (lawful : schema.Lawful) (object : t.entries? = some entries) :
    schema.decode .text (document before t after) = .ok m ↔ schema.Tells entries m := by
  rcases decode_object lawful object before after with ⟨m', tells, read⟩ | ⟨unsound, e, refused⟩
  · rw [read]
    constructor
    · intro same
      cases same
      exact tells
    · exact fun other => congrArg Except.ok (tells.unique lawful other)
  · rw [refused]
    exact iff_of_false nofun fun tells => unsound tells.sound

private theorem exists_decode_iff (lawful : schema.Lawful) (object : t.entries? = some entries) :
    (∃ m, schema.decode .text (document before t after) = .ok m) ↔ schema.Sound entries := by
  constructor
  · rintro ⟨m, read⟩
    exact ((decode_tells lawful object).mp read).sound
  · intro sound
    obtain ⟨m, tells⟩ := sound.tells lawful
    exact ⟨m, (decode_tells lawful object).mpr tells⟩

private theorem decode_unsound (lawful : schema.Lawful) (object : t.entries? = some entries)
    (unsound : ¬schema.Sound entries) :
    ∃ e, schema.decode .text (document before t after) = .error e := by
  rcases decode_object lawful object before after with ⟨m, tells, -⟩ | ⟨-, refused⟩
  · exact absurd tells.sound unsound
  · exact refused

/-- An object that goes on after its last brace is refused. -/
theorem decode_trailing (lawful : schema.Lawful) (object : t.entries? = some entries)
    (before : List Space) {rest : Bytes} (more : ∀ spaces, rest ≠ spelled (blanks spaces)) :
    ∃ e, schema.decode .text (spelled (blanks before ++ t.chars) ++ rest) = .error e := by
  have gives := record_reads_object schema.name schema.blank (recordFields_read lawful) object
    before rest
  have left : skipBlank rest ≠ [] := fun nothing =>
    (skipBlank_eq_nil.mp nothing).elim more
  obtain ⟨e, refused⟩ := Reader.read_trailing gives left
  rw [spelled_append, List.append_assoc]
  exact ⟨.json e, congrArg (Except.mapError DecodeError.json) refused⟩

/-- A text that holds nothing but the literal for an absent value is refused. -/
theorem decode_null (schema : Schema σ) (before after : List Space) :
    ∃ e, schema.decode .text (document before .null after) = .error e := by
  obtain ⟨tail, -, found⟩ := skipBlank_first .null before (spelled (blanks after))
  have bare : ∀ b ∈ (skipBlank (document before .null after)).head?,
      b ≠ byte '[' ∧ b ≠ byte '\x7b' := by
    rw [document_eq, found]
    intro b first
    cases first
    exact ⟨by decide, by decide⟩
  obtain ⟨e, refused⟩ := record_refuses schema.name schema.recordFields schema.blank bare
  exact ⟨.json e, congrArg (Except.mapError DecodeError.json) refused⟩

/-! Order and other names. -/

private theorem Tells.perm {others : List (List Item × Tree)} (tells : schema.Tells entries m)
    (permuted : entries.Perm others) : schema.Tells others m where
  named e member := tells.named e (permuted.mem_iff.mpr member)
  fields f known := (tells.fields f known).perm (permuted.filterMap f.value?)

/-- Objects with the same members under the names of fields tell the same messages. -/
theorem tells_congr {others : List (List Item × Tree)} (named : Named entries ↔ Named others)
    (same : ∀ f ∈ schema.fields, f.found entries = f.found others) :
    schema.Tells entries m ↔ schema.Tells others m := by
  constructor
  · exact fun tells => ⟨named.mp tells.named, fun f known => same f known ▸ tells.fields f known⟩
  · exact fun tells => ⟨named.mpr tells.named, fun f known =>
      (same f known).symm ▸ tells.fields f known⟩

/-- A member is ignored wherever it stands in an object. -/
def Ignores (schema : Schema σ) (name : String) : Prop :=
  ∀ (t u : Tree) (entries later : List (List Item × Tree)) (item : List Item) (value : Tree)
    (before after before' after' : List Space) (m : σ),
    t.entries? = some (entries ++ later) → u.entries? = some (entries ++ (item, value) :: later) →
    nameText? item = some name →
      (schema.decode .text (document before t after) = .ok m ↔
        schema.decode .text (document before' u after') = .ok m)

private theorem ignores_unknown (lawful : schema.Lawful) {name : String}
    (unknown : name ∉ schema.members) : schema.Ignores name := by
  intro t u entries later item value before after before' after' m object longer called
  have passed : ∀ f ∈ schema.fields,
      f.found (entries ++ (item, value) :: later) = f.found (entries ++ later) := by
    intro f known
    rw [FieldSpec.found_append, FieldSpec.found_append,
      FieldSpec.found_other (FieldSpec.called_ne called (ne_member known unknown))]
  have named : Named (entries ++ (item, value) :: later) ↔ Named (entries ++ later) := by
    simp [Named, called, or_imp, forall_and]
  rw [decode_tells lawful object, decode_tells lawful longer]
  exact tells_congr named.symm fun f known => (passed f known).symm

/-- How an object is read as a message. -/
structure ReadByName (schema : Schema σ) : Prop where
  /-- An object is read if and only if its names are texts and each member under the name of a field
  is the only one there and holds a value of the field. -/
  accepted : ∀ (t : Tree) (entries : List (List Item × Tree)) (before after : List Space),
    t.entries? = some entries →
      ((∃ m, schema.decode .text (document before t after) = .ok m) ↔ schema.Sound entries)
  /-- Every field then holds the value of its member, or its default. -/
  told : ∀ (t : Tree) (entries : List (List Item × Tree)) (before after : List Space) (m : σ),
    t.entries? = some entries →
      (schema.decode .text (document before t after) = .ok m ↔ schema.Tells entries m)
  /-- The order of the members does not matter, and neither do the blanks. -/
  order : ∀ (t u : Tree) (entries others : List (List Item × Tree))
    (before after before' after' : List Space) (m : σ), t.entries? = some entries →
    u.entries? = some others → entries.Perm others →
    schema.decode .text (document before t after) = .ok m →
      schema.decode .text (document before' u after') = .ok m
  /-- Members under names of no field are ignored, whatever they hold. -/
  unknown : ∀ name, name ∉ schema.members → schema.Ignores name
  /-- The fields have no names with underscores. -/
  underscore : ∀ name : String, '_' ∈ name.toList → schema.Ignores name
  /-- A field cannot be given as absent. -/
  absent : ∀ (t : Tree) (entries : List (List Item × Tree)) (before after : List Space),
    t.entries? = some entries → ∀ f ∈ schema.fields, .null ∈ f.found entries →
      ∃ e, schema.decode .text (document before t after) = .error e
  /-- A field cannot be given twice. -/
  repeated : ∀ (t : Tree) (entries : List (List Item × Tree)) (before after : List Space),
    t.entries? = some entries → ∀ f ∈ schema.fields, 1 < (f.found entries).length →
      ∃ e, schema.decode .text (document before t after) = .error e
  /-- A message cannot be given as absent. -/
  null : ∀ before after, ∃ e, schema.decode .text (document before .null after) = .error e
  /-- Nothing but blanks may follow an object. -/
  trailing : ∀ (t : Tree) (entries : List (List Item × Tree)) (before : List Space) (rest : Bytes),
    t.entries? = some entries → (∀ spaces, rest ≠ spelled (blanks spaces)) →
      ∃ e, schema.decode .text (spelled (blanks before ++ t.chars) ++ rest) = .error e

private theorem readByName (lawful : schema.Lawful)
    (solid : ∀ name ∈ schema.members, '_' ∉ name.toList) : schema.ReadByName := by
  constructor
  case accepted => exact fun t entries before after object => exists_decode_iff lawful object
  case told => exact fun t entries before after m object => decode_tells lawful object
  case order =>
    intro t u entries others before after before' after' m object other permuted read
    exact (decode_tells lawful other).mpr (((decode_tells lawful object).mp read).perm permuted)
  case unknown => exact fun name apart => ignores_unknown lawful apart
  case underscore =>
    exact fun name inside => ignores_unknown lawful fun member => solid name member inside
  case absent =>
    intro t entries before after object f known null
    refine decode_unsound lawful object fun sound => ?_
    obtain ⟨v, held⟩ := sound.typed f known .null null
    exact Kind.not_holds_null held
  case repeated =>
    intro t entries before after object f known twice
    exact decode_unsound lawful object fun sound => absurd (sound.once f known) (by omega)
  case null => exact decode_null schema
  case trailing => exact fun t entries before rest object => decode_trailing lawful object before

end Schema

/-- Each of the four messages is read by the names of its fields. -/
theorem messages_read_by_name :
    Ping.schema.ReadByName ∧ Pong.schema.ReadByName ∧ StreamPing.schema.ReadByName ∧
      StreamPong.schema.ReadByName :=
  ⟨Schema.readByName Ping.schema_lawful (by decide), Schema.readByName Pong.schema_lawful (by decide),
    Schema.readByName StreamPing.schema_lawful (by decide),
    Schema.readByName StreamPong.schema_lawful (by decide)⟩

/-- Behind a member that is ignored, `"\u0074imestamp" :-7` is found. -/
theorem messages_read_by_name_escaped :
    StreamPing.schema.decode .text (document [.lineFeed] (.object
      (.more [] [.plain 'x' (by decide)] [.tab] []
        (.list (.more [] .null [] (.last [] (oneDigit true '0' rfl) []))) []
        (.last [.space] [.code (.decimal 0) (.decimal 0) (.decimal 7) (.decimal 4),
            .plain 'i' (by decide), .plain 'm' (by decide), .plain 'e' (by decide),
            .plain 's' (by decide), .plain 't' (by decide), .plain 'a' (by decide),
            .plain 'm' (by decide), .plain 'p' (by decide)]
          [.space] [] (oneDigit true '7' rfl) []))) [.space]) =
      .ok ⟨-7, 0, 0⟩ := by
  refine (messages_read_by_name.2.2.1.told _ _ _ _ _ rfl).mpr ⟨by decide, ?_⟩
  simp only [StreamPing.schema, List.forall_mem_cons, List.not_mem_nil, false_imp_iff,
    implies_true, and_true]
  exact ⟨Kind.told?_iff.mp (by decide), Kind.told?_iff.mp (by decide), Kind.told?_iff.mp (by decide)⟩

/-- Names have to be texts even where they are ignored. This object is refused, although no member
in it is under the name of a field. -/
theorem lone_surrogate_refused :
    let half : List Item := [.code (.small 3) (.decimal 8) (.decimal 0) (.decimal 0)]
    let t : Tree := .object (.last [] half [] [] (oneDigit false '0' rfl) [])
    document [] t [] = Text.Utf8.encode "\x7b\"\\ud800\":0\x7d" ∧
      (∃ entries, t.entries? = some entries ∧ ∀ f ∈ Ping.schema.fields, f.found entries = []) ∧
      ∃ e, Ping.schema.decode .text (document [] t []) = .error e := by
  intro half t
  have unnamed : nameText? half = none := by decide
  refine ⟨by decide, ⟨_, rfl, fun f _ => ?_⟩, ?_⟩
  · exact FieldSpec.found_other (by rw [unnamed]; exact (Option.some_ne_none _).symm)
  · refine Schema.decode_unsound Ping.schema_lawful (t := t) rfl fun sound => ?_
    have named := sound.named (half, oneDigit false '0' rfl) List.mem_cons_self
    rw [unnamed] at named
    cases named

end GatewayPing
