import GatewayPing.Proofs.Message.Lossless
import GatewayPing.Proofs.Protobuf.Grammar

/-! Messages as rows of fields. Bytes are read as a message if and only if they are a row of fields in
which each field of a known number has its own wire type, and texts are UTF-8. Each field of the
message then holds what was said last under its number, or its default; fields of other numbers are
passed over, whatever they hold and however deeply they are nested. So two messages written one after
the other are read as the second laid over the first. Main statement: `messages_read_by_number`. -/
namespace GatewayPing

open Protobuf (Content Entry Key Row Scalar)

variable {σ : Type}

/-! Values. -/

namespace Kind

/-- What a field holds means a value: an integer is the low bits of the number, the topmost of which
is the sign, and a text is given by its bytes. -/
def Means : (k : Kind) → Content → k.Value → Prop
  | .int64, .varint n, v => v.toInt = (n : Int).bmod 0x10000000000000000
  | .int32, .varint n, v => v.toInt = (n : Int).bmod 0x100000000
  | .string, .delimited bytes, v => bytes = Text.Utf8.encode v
  | _, _, _ => False

/-- What a field may hold: something of its wire type and, where that is to be a text, UTF-8. -/
def Admits : Kind → Content → Prop
  | .string, .delimited bytes => ∃ text, bytes = Text.Utf8.encode text
  | k, content => content.wire = k.wire

/-- The value that a field holds, if it may hold that. -/
def ofContent? : (k : Kind) → Content → Option k.Value
  | .int64, .varint n => some (UInt64.ofNat n).toInt64
  | .int32, .varint n => some (UInt32.ofNat n).toInt32
  | .string, .delimited bytes => (Text.Utf8.decode bytes).toOption
  | _, _ => none

variable {k : Kind} {content : Content} {v w : k.Value} {bytes rest s : Bytes}

private theorem toInt_ofNat_toInt64 (n : Nat) :
    (UInt64.ofNat n).toInt64.toInt = (n : Int).bmod 0x10000000000000000 :=
  BitVec.toInt_ofNat n

private theorem toInt_ofNat_toInt32 (n : Nat) :
    (UInt32.ofNat n).toInt32.toInt = (n : Int).bmod 0x100000000 :=
  BitVec.toInt_ofNat n

private theorem decode_toOption {text : String} :
    (Text.Utf8.decode bytes).toOption = some text ↔ bytes = Text.Utf8.encode text := by
  rw [← Text.Utf8.decode_eq_ok_iff]
  cases Text.Utf8.decode bytes <;> simp [Except.toOption]

private theorem ofContent?_iff : k.ofContent? content = some v ↔ k.Means content v := by
  cases k with
  | int64 =>
    cases content with
    | varint n =>
      rw [ofContent?, Means, Option.some.injEq, ← Int64.toInt_inj, toInt_ofNat_toInt64]
      exact eq_comm
    | _ => simp [ofContent?, Means]
  | int32 =>
    cases content with
    | varint n =>
      rw [ofContent?, Means, Option.some.injEq, ← Int32.toInt_inj, toInt_ofNat_toInt32]
      exact eq_comm
    | _ => simp [ofContent?, Means]
  | string =>
    cases content with
    | delimited bytes => exact decode_toOption
    | _ => simp [ofContent?, Means]

/-- What a field may hold are the values that it can mean. -/
theorem admits_iff : k.Admits content ↔ ∃ v, k.Means content v := by
  simp only [← ofContent?_iff]
  cases k with
  | string =>
    cases content with
    | delimited bytes => simp only [Admits, ofContent?, decode_toOption]
    | _ => simp [Admits, ofContent?, Content.wire, wire]
  | _ => cases content <;> simp [Admits, ofContent?, Content.wire, wire]

/-- A value is taken as what its bytes mean. -/
theorem take_scalar (held : Scalar content bytes) (known : k.ofContent? content = some v)
    (rest : Bytes) : k.take content.wire (bytes ++ rest) = .ok (v, rest) := by
  cases content with
  | varint n =>
    cases k with
    | string => cases known
    | _ =>
      cases known
      simp only [take, Content.wire, wire, ↓reduceIte, takeValue, takeInteger, held.takeVarint]
  | delimited taken =>
    cases k with
    | string =>
      have text := Text.Utf8.decode_eq_ok_iff.mpr (decode_toOption.mp known)
      simp only [take, Content.wire, wire, ↓reduceIte, takeValue, takeString, held.takeDelimited,
        text]
    | _ => cases known
  | _ => cases k <;> cases known

/-- Nothing else is taken. -/
theorem take_misfit (misfit : k.ofContent? content = none) (held : Scalar content bytes)
    (rest : Bytes) : ∃ cause, k.take content.wire (bytes ++ rest) = .error cause := by
  by_cases own : content.wire = k.wire
  · cases content with
    | varint n =>
      cases k with
      | string => cases own
      | _ => cases misfit
    | delimited taken =>
      cases k with
      | string =>
        simp only [take, Content.wire, wire, ↓reduceIte, takeValue, takeString, held.takeDelimited]
        cases read : Text.Utf8.decode taken with
        | error fault => exact ⟨_, rfl⟩
        | ok text =>
          cases (decode_toOption.mpr (Text.Utf8.decode_eq_ok_iff.mp read)).symm.trans misfit
      | _ => cases own
    | _ => cases k <;> cases own
  · exact ⟨_, if_neg own⟩

/-- What was taken were the bytes of a value. -/
theorem scalar_of_take {found : Protobuf.WireType} (taken : k.take found s = .ok (v, rest)) :
    ∃ content bytes, content.wire = found ∧ s = bytes ++ rest ∧ Scalar content bytes ∧
      k.ofContent? content = some v := by
  unfold take at taken
  split at taken
  · rename_i own
    cases k with
    | string =>
      simp only [takeValue, takeString] at taken
      cases read : Protobuf.takeDelimited s with
      | error e => simp [read] at taken
      | ok result =>
        obtain ⟨bytes, after⟩ := result
        obtain ⟨length, rfl, announced⟩ := Protobuf.takeDelimited_iff.mp read
        simp only [read] at taken
        cases text : Text.Utf8.decode bytes with
        | error fault => simp [text] at taken
        | ok value =>
          simp only [text] at taken
          cases taken
          exact ⟨.delimited bytes, _, own.symm, rfl, .delimited announced,
            decode_toOption.mpr (Text.Utf8.decode_eq_ok_iff.mp text)⟩
    | _ =>
      simp only [takeValue, takeInteger] at taken
      cases read : Protobuf.takeVarint s with
      | error e => simp [read] at taken
      | ok result =>
        obtain ⟨n, after⟩ := result
        obtain ⟨bytes, rfl, written⟩ := Protobuf.takeVarint_iff.mp read
        simp only [read] at taken
        cases taken
        exact ⟨.varint n, bytes, own.symm, rfl, .varint written, rfl⟩
  · cases taken

/-- What was said last decides: it means the value, or nothing was said and it is the default. -/
def Latest (k : Kind) (contents : List Content) (v : k.Value) : Prop :=
  match contents.getLast? with
  | none => v = k.default
  | some content => k.Means content v

/-- What becomes of a value when more is said. All of it has to be possible; the last counts. -/
def Follows (k : Kind) (old : k.Value) (contents : List Content) (v : k.Value) : Prop :=
  (∀ content ∈ contents, k.Admits content) ∧
    match contents.getLast? with
    | none => v = old
    | some content => k.Means content v

variable {old : k.Value} {contents : List Content}

/-- Once a value is said, the old one does not matter. -/
theorem follows_cons (means : k.Means content v) :
    k.Follows old (content :: contents) w ↔ k.Follows v contents w := by
  have admitted : k.Admits content := admits_iff.mpr ⟨v, means⟩
  cases contents with
  | nil =>
    have one : k.Means content w ↔ w = v := by
      rw [← ofContent?_iff, ofContent?_iff.mpr means, Option.some.injEq]
      exact eq_comm
    simp [Follows, admitted, one]
  | cons next contents =>
    simp only [Follows, List.forall_mem_cons, admitted, true_and, List.getLast?_cons,
      Option.getD_some]

private theorem Means.unique (first : k.Means content v) (second : k.Means content w) : v = w :=
  Option.some.inj ((ofContent?_iff.mpr first).symm.trans (ofContent?_iff.mpr second))

private theorem not_follows_misfit (misfit : k.ofContent? content = none) :
    ¬k.Follows old (content :: contents) w := by
  rintro ⟨admitted, -⟩
  obtain ⟨v, means⟩ := admits_iff.mp (admitted content List.mem_cons_self)
  cases misfit.symm.trans (ofContent?_iff.mpr means)

/-- What is written of a value: nothing if it is the default, and otherwise something that means
it. -/
def Written (k : Kind) (contents : List Content) (v : k.Value) : Prop :=
  v = k.default ∧ contents = [] ∨
    v ≠ k.default ∧ ∃ content, contents = [content] ∧ k.Means content v

private theorem Written.admits (written : k.Written contents v) :
    ∀ content ∈ contents, k.Admits content := by
  rcases written with ⟨-, rfl⟩ | ⟨-, content, rfl, means⟩
  · nofun
  · exact List.forall_mem_singleton.mpr (admits_iff.mpr ⟨v, means⟩)

private theorem Written.latest (written : k.Written contents v) (latest : k.Latest contents w) :
    w = v := by
  rcases written with ⟨rfl, rfl⟩ | ⟨-, content, rfl, means⟩
  · exact latest
  · exact Means.unique latest means

/-- What is written last is the value, unless it is the default. -/
theorem Latest.overlaid {later : List Content} (first : k.Written contents old)
    (second : k.Written later v) (latest : k.Latest (contents ++ later) w) :
    (v = k.default → w = old) ∧ (v ≠ k.default → w = v) := by
  rcases second with ⟨rfl, rfl⟩ | ⟨other, content, rfl, means⟩
  · rw [List.append_nil] at latest
    exact ⟨fun _ => first.latest latest, fun other => absurd rfl other⟩
  · rw [Latest, List.getLast?_concat] at latest
    exact ⟨fun same => absurd same other, fun _ => Means.unique latest means⟩

end Kind

/-! Fields. -/

/-- What was said under the number of a field, in its order. -/
def FieldSpec.contents (f : FieldSpec σ) (entries : List Entry) : List Content :=
  (entries.filter (·.number == f.number)).map (·.content)

namespace FieldSpec

variable {f : FieldSpec σ} {entry : Entry} {entries : List Entry}

private theorem contents_append (f : FieldSpec σ) (entries later : List Entry) :
    f.contents (entries ++ later) = f.contents entries ++ f.contents later := by
  simp [contents]

private theorem contents_nil (none : ∀ entry ∈ entries, entry.number ≠ f.number) :
    f.contents entries = [] := by
  rw [contents, List.map_eq_nil_iff, List.filter_eq_nil_iff]
  simpa using none

private theorem contents_same (same : entry.number = f.number) :
    f.contents (entry :: entries) = entry.content :: f.contents entries := by
  simp [contents, same]

private theorem contents_other (other : entry.number ≠ f.number) :
    f.contents (entry :: entries) = f.contents entries := by
  simp [contents, other]

end FieldSpec

namespace Schema

variable {schema : Schema σ} {entry : Entry} {entries others : List Entry} {m m' : σ}
  {s bytes rest value : Bytes} {f : FieldSpec σ}

/-- Every field of a known number holds what it may hold. -/
def Typed (schema : Schema σ) (entries : List Entry) : Prop :=
  ∀ f ∈ schema.fields, ∀ content ∈ f.contents entries, f.kind.Admits content

/-- A row of fields says a message: each field of the message holds what was said last under its
number, or its default. -/
structure Says (schema : Schema σ) (entries : List Entry) (m : σ) : Prop where
  typed : schema.Typed entries
  latest : ∀ f ∈ schema.fields, f.kind.Latest (f.contents entries) (f.get m)

/-- How a field of a row changes a message, unless it holds what it may not hold. -/
def put? (schema : Schema σ) (entry : Entry) : Option (σ → σ) :=
  match schema.fields.find? (·.number == entry.number) with
  | some f => (f.kind.ofContent? entry.content).map f.set
  | none => some id

/-- What the fields of a row make of a message. -/
def putAll? (schema : Schema σ) (m : σ) : List Entry → Option σ
  | [] => some m
  | entry :: entries => (schema.put? entry).bind fun put => schema.putAll? (put m) entries

private theorem put?_known (lawful : schema.Lawful) (known : f ∈ schema.fields)
    (same : entry.number = f.number) :
    schema.put? entry = (f.kind.ofContent? entry.content).map f.set := by
  rw [put?, same, find?_number lawful known]

private theorem find?_unknown {number : Nat} (unknown : ∀ f ∈ schema.fields, number ≠ f.number) :
    schema.fields.find? (·.number == number) = none := by
  rw [List.find?_eq_none]
  intro f known
  simpa using (unknown f known).symm

private theorem put?_unknown (unknown : ∀ f ∈ schema.fields, entry.number ≠ f.number) :
    schema.put? entry = some id := by
  rw [put?, find?_unknown unknown]

/-- The number of a field is known or it is not. -/
theorem known_or_unknown (schema : Schema σ) (number : Nat) :
    (∃ f ∈ schema.fields, number = f.number) ∨ ∀ f ∈ schema.fields, number ≠ f.number := by
  by_cases known : ∃ f ∈ schema.fields, number = f.number
  · exact .inl known
  · exact .inr fun f member same => known ⟨f, member, same⟩

/-- What is said under the number of one field goes into that field and into no other. -/
theorem follows_entry (lawful : schema.Lawful) (known : f ∈ schema.fields)
    (same : entry.number = f.number) {v : f.kind.Value} (means : f.kind.Means entry.content v)
    {g : FieldSpec σ} (other : g ∈ schema.fields) {w : g.kind.Value} :
    g.kind.Follows (g.get m) (g.contents (entry :: entries)) w ↔
      g.kind.Follows (g.get (f.set v m)) (g.contents entries) w := by
  by_cases number : g.number = f.number
  · obtain rfl := eq_of_nodup (·.number) lawful.numbers other known number
    rw [FieldSpec.contents_same same, Kind.follows_cons means, lawful.get_set g other]
  · rw [FieldSpec.contents_other (same ▸ Ne.symm number), lawful.apart g other f known number]

/-- What the fields of a row make of a message is told field by field. -/
theorem putAll?_iff (lawful : schema.Lawful) :
    schema.putAll? m entries = some m' ↔
      ∀ f ∈ schema.fields, f.kind.Follows (f.get m) (f.contents entries) (f.get m') := by
  induction entries generalizing m with
  | nil =>
    have same : (∀ f ∈ schema.fields, f.get m' = f.get m) ↔ m = m' := by
      constructor
      · exact fun same => lawful.ext m m' fun f known => (same f known).symm
      · rintro rfl f -
        rfl
    simp [putAll?, Kind.Follows, FieldSpec.contents, same]
  | cons entry entries ih =>
    rw [putAll?]
    rcases schema.known_or_unknown entry.number with ⟨f, known, same⟩ | unknown
    · rw [put?_known lawful known same]
      cases read : f.kind.ofContent? entry.content with
      | none =>
        refine iff_of_false (Option.some_ne_none m').symm fun follows => ?_
        have told := follows f known
        rw [FieldSpec.contents_same same] at told
        exact Kind.not_follows_misfit read told
      | some v =>
        rw [Option.map_some, Option.bind_some, ih]
        exact forall₂_congr fun g other =>
          (follows_entry lawful known same (Kind.ofContent?_iff.mp read) other).symm
    · rw [put?_unknown unknown, Option.bind_some, ih]
      exact forall₂_congr fun g other => by
        rw [FieldSpec.contents_other (unknown g other)]
        rfl

private theorem says_iff (lawful : schema.Lawful) :
    schema.putAll? schema.blank entries = some m ↔ schema.Says entries m := by
  rw [putAll?_iff lawful]
  constructor
  · intro follows
    refine ⟨fun f known => (follows f known).1, fun f known => ?_⟩
    have told := (follows f known).2
    rwa [lawful.blank f known] at told
  · rintro ⟨typed, latest⟩ f known
    refine ⟨typed f known, ?_⟩
    rw [lawful.blank f known]
    exact latest f known

/-- A row whose fields hold what they may hold says a message. -/
theorem putAll?_of_typed (lawful : schema.Lawful) (typed : schema.Typed entries) (m : σ) :
    ∃ m', schema.putAll? m entries = some m' := by
  induction entries generalizing m with
  | nil => exact ⟨m, rfl⟩
  | cons entry entries ih =>
    have later : schema.Typed entries := by
      intro f known content member
      refine typed f known content ?_
      rw [← List.singleton_append, FieldSpec.contents_append]
      exact List.mem_append_right _ member
    rw [putAll?]
    rcases schema.known_or_unknown entry.number with ⟨f, known, same⟩ | unknown
    · have admitted := typed f known entry.content
        (FieldSpec.contents_same same ▸ List.mem_cons_self)
      obtain ⟨v, means⟩ := Kind.admits_iff.mp admitted
      rw [put?_known lawful known same, Kind.ofContent?_iff.mpr means]
      exact ih later _
    · rw [put?_unknown unknown]
      exact ih later _

theorem Says.unique (lawful : schema.Lawful) (first : schema.Says entries m)
    (second : schema.Says entries m') : m = m' :=
  Option.some.inj (((says_iff lawful).mpr first).symm.trans ((says_iff lawful).mpr second))

/-- Rows in which the same is said under the numbers of fields say the same messages. -/
theorem says_congr (same : ∀ f ∈ schema.fields, f.contents entries = f.contents others) :
    schema.Says entries m ↔ schema.Says others m := by
  constructor
  · exact fun ⟨typed, latest⟩ => ⟨fun f known => same f known ▸ typed f known,
      fun f known => same f known ▸ latest f known⟩
  · exact fun ⟨typed, latest⟩ => ⟨fun f known => (same f known).symm ▸ typed f known,
      fun f known => (same f known).symm ▸ latest f known⟩

/-! Reading. -/

/-- A field is read, and what follows it is left. -/
theorem takeField_put {content : Content} {number : Nat} (held : Scalar content value) {put : σ → σ}
    (possible : schema.put? ⟨number, content⟩ = some put) (m : σ) (rest : Bytes) :
    schema.takeField m ⟨number, content.wire⟩ (value ++ rest) = .ok (put m, rest) := by
  unfold put? at possible
  unfold takeField
  cases found : schema.fields.find? (·.number == number) with
  | none =>
    simp only [found] at possible
    cases possible
    simp only [Protobuf.skipField_scalar held]
    rfl
  | some f =>
    simp only [found] at possible
    obtain ⟨v, read, rfl⟩ := Option.map_eq_some_iff.mp possible
    simp only [Kind.take_scalar held read]

/-- A field that holds what it may not hold is refused. -/
theorem takeField_misfit {content : Content} {number : Nat} (held : Scalar content value)
    (impossible : schema.put? ⟨number, content⟩ = none) (m : σ) (rest : Bytes) :
    ∃ e, schema.takeField m ⟨number, content.wire⟩ (value ++ rest) = .error e := by
  unfold put? at impossible
  unfold takeField
  cases found : schema.fields.find? (·.number == number) with
  | none =>
    simp only [found] at impossible
    cases impossible
  | some f =>
    simp only [found] at impossible
    obtain ⟨cause, refused⟩ := Kind.take_misfit (Option.map_eq_none_iff.mp impossible) held rest
    simp only [refused]
    exact ⟨_, rfl⟩

/-- A known number with another wire type is refused. -/
theorem takeField_mismatch (lawful : schema.Lawful) (known : f ∈ schema.fields)
    {found : Protobuf.WireType} (different : found ≠ f.kind.wire) (m : σ) (s : Bytes) :
    schema.takeField m ⟨f.number, found⟩ s =
      .error ⟨some ⟨schema.name, f.name⟩, .wrongWireType found f.kind.wire⟩ := by
  simp only [takeField, find?_number lawful known, Kind.take, if_neg different]

/-- No field of a message is a group. -/
theorem wire_ne_group (k : Kind) : Protobuf.WireType.startGroup ≠ k.wire := by
  cases k <;> nofun

/-- A row of fields is read field by field. The induction is on the row; where a field is refused,
nothing after it matters. -/
theorem readFields_row (lawful : schema.Lawful) (row : Row 0 bytes entries) (m : σ) :
    (∃ m', schema.putAll? m entries = some m' ∧
        ∀ tail, schema.readFields m (bytes ++ tail) = schema.readFields m' tail) ∨
      schema.putAll? m entries = none ∧
        ∀ tail, ∃ e, schema.readFields m (bytes ++ tail) = .error e := by
  generalize depth : 0 = top at row
  induction row generalizing m with
  | nil => exact .inl ⟨m, rfl, fun _ => rfl⟩
  | @scalar depth number content key value rest entries shallow spelled held later ih =>
    simp only [List.append_assoc, putAll?, readFields_keyed (spelled.take _)]
    cases possible : schema.put? ⟨number, content⟩ with
    | none =>
      refine .inr ⟨rfl, fun tail => ?_⟩
      obtain ⟨e, refused⟩ := takeField_misfit held possible m (rest ++ tail)
      rw [refused]
      exact ⟨e, rfl⟩
    | some put =>
      simp only [takeField_put held possible, Option.bind_some]
      exact ih (put m) depth
  | @group depth number opening inner closing rest inside entries shallow opens row closes later
      ihInside ih =>
    subst depth
    simp only [List.append_assoc, putAll?, readFields_keyed (opens.take _)]
    rcases schema.known_or_unknown number with ⟨f, known, rfl⟩ | unknown
    · have refused := takeField_mismatch lawful known (wire_ne_group f.kind) m
      have misfit : f.kind.ofContent? .group = none := by cases f.kind <;> rfl
      refine .inr ⟨by rw [put?_known lawful known rfl, misfit]; rfl, fun tail => ?_⟩
      rw [refused]
      exact ⟨_, rfl⟩
    · have skipped (tail : Bytes) := Protobuf.skipField_group_iff.mpr
        ⟨inner, closing, inside, (rfl : inner ++ (closing ++ (rest ++ tail)) = _), row, closes⟩
      have passed : schema.put? ⟨number, .group⟩ = some id := put?_unknown unknown
      simp only [takeField, find?_unknown unknown, skipped, passed, Option.bind_some]
      exact ih m rfl

/-- What was read as the fields of a message was a row of fields. -/
theorem row_of_readFields (read : schema.readFields m s = .ok m') :
    ∃ entries, Row 0 s entries := by
  induction m, s using readFields.induct schema with
  | case1 m s nothing =>
    obtain rfl := List.isEmpty_iff.mp nothing
    exact ⟨[], .nil 0⟩
  | case2 m s more cause refused =>
    rw [readFields, if_neg more] at read
    split at read
    all_goals rename_i same; cases refused.symm.trans same
    cases read
  | case3 m s more key inner keyed e refused =>
    rw [readFields_keyed keyed, refused] at read
    cases read
  | case4 m s more key inner keyed next rest taken ih =>
    obtain ⟨bytes, rfl, spelled⟩ := Protobuf.takeKey_iff.mp keyed
    rw [readFields_keyed keyed, taken] at read
    obtain ⟨entries, later⟩ := ih read
    obtain ⟨number, wire⟩ := key
    have shallow : 0 < Protobuf.maxDepth := by decide
    unfold takeField at taken
    cases found : schema.fields.find? (·.number == number) with
    | some f =>
      simp only [found] at taken
      cases value : f.kind.take wire inner with
      | error cause => simp [value] at taken
      | ok result =>
        obtain ⟨v, after⟩ := result
        simp only [value] at taken
        cases taken
        obtain ⟨content, bytes', rfl, rfl, held, -⟩ := Kind.scalar_of_take value
        exact ⟨_, .scalar shallow spelled held later⟩
    | none =>
      simp only [found] at taken
      cases skipped : Protobuf.skipField ⟨number, wire⟩ inner with
      | error cause => simp [skipped] at taken
      | ok after =>
        simp only [skipped] at taken
        cases taken
        by_cases group : wire = .startGroup
        · subst group
          obtain ⟨fields, closing, inside, rfl, row, closes⟩ :=
            Protobuf.skipField_group_iff.mp skipped
          exact ⟨_, .group shallow spelled row closes later⟩
        · have scalar := (Protobuf.skipField_plain group).symm.trans skipped
          obtain ⟨content, bytes', rfl, rfl, held⟩ := Protobuf.skipScalar_iff.mp scalar
          exact ⟨_, .scalar shallow spelled held later⟩

private theorem decode_binary : schema.decode .binary s = .ok m ↔ schema.ofBinary s = .ok m := by
  rw [decode]
  cases schema.ofBinary s <;> constructor <;> rintro ⟨⟩ <;> rfl

/-- A row of fields is read as the message that it says, if it says one. -/
theorem decode_row (lawful : schema.Lawful) (row : Row 0 bytes entries) :
    (∃ m, schema.Says entries m ∧ schema.decode .binary bytes = .ok m) ∨
      ¬schema.Typed entries ∧ ∃ e, schema.decode .binary bytes = .error e := by
  rcases readFields_row lawful row schema.blank with ⟨m, said, read⟩ | ⟨unsaid, refused⟩
  · have whole := read []
    rw [List.append_nil, readFields_nil] at whole
    exact .inl ⟨m, (says_iff lawful).mp said, decode_binary.mpr whole⟩
  · refine .inr ⟨fun typed => ?_, ?_⟩
    · obtain ⟨m, said⟩ := putAll?_of_typed lawful typed schema.blank
      cases unsaid.symm.trans said
    · obtain ⟨e, whole⟩ := refused []
      rw [List.append_nil] at whole
      exact ⟨.binary e, congrArg (Except.mapError DecodeError.binary) whole⟩

private theorem decode_said (lawful : schema.Lawful) (row : Row 0 bytes entries) :
    schema.decode .binary bytes = .ok m ↔ schema.Says entries m := by
  rcases decode_row lawful row with ⟨m', said, read⟩ | ⟨untyped, e, refused⟩
  · rw [read]
    constructor
    · intro same
      cases same
      exact said
    · exact fun other => congrArg Except.ok (said.unique lawful other)
  · rw [refused]
    exact iff_of_false nofun fun said => untyped said.typed

/-- After a row of fields, a known number with another wire type is refused. -/
theorem decode_mismatch (lawful : schema.Lawful) (row : Row 0 bytes entries)
    (known : f ∈ schema.fields) {found : Protobuf.WireType} (different : found ≠ f.kind.wire)
    {key : Bytes} (spelled : Key.Spelled ⟨f.number, found⟩ key) (rest : Bytes) :
    (schema.Typed entries → schema.decode .binary (bytes ++ (key ++ rest)) =
        .error (.binary ⟨some ⟨schema.name, f.name⟩, .wrongWireType found f.kind.wire⟩)) ∧
      ∃ e, schema.decode .binary (bytes ++ (key ++ rest)) = .error e := by
  rcases readFields_row lawful row schema.blank with ⟨m, said, read⟩ | ⟨unsaid, refused⟩
  · have whole := (read (key ++ rest)).trans (readFields_keyed (spelled.take rest))
    rw [takeField_mismatch lawful known different] at whole
    have wrong := congrArg (Except.mapError DecodeError.binary) whole
    exact ⟨fun _ => wrong, _, wrong⟩
  · obtain ⟨e, whole⟩ := refused (key ++ rest)
    refine ⟨fun typed => ?_, .binary e, congrArg (Except.mapError DecodeError.binary) whole⟩
    obtain ⟨m, said⟩ := putAll?_of_typed lawful typed schema.blank
    cases unsaid.symm.trans said


/-! Messages that were written. -/

variable {fields : List (FieldSpec σ)} {a b : σ}

/-- A field that was written is a row of one field. -/
theorem written_row (lawful : schema.Lawful) (known : f ∈ schema.fields) {v : f.kind.Value}
    (fits : f.kind.Fits v) :
    ∃ content, f.kind.Means content v ∧ ∀ {rest entries}, Row 0 rest entries →
      Row 0 ((Key.mk f.number f.kind.wire).write ++ f.kind.binary v ++ rest)
        (⟨f.number, content⟩ :: entries) := by
  obtain ⟨positive, small⟩ := lawful.range f known
  have spelled : Key.Spelled ⟨f.number, f.kind.wire⟩ (Key.mk f.number f.kind.wire).write :=
    Key.write_spelled positive small
  obtain ⟨content, bytes, own, same, held, read⟩ :=
    Kind.scalar_of_take (Kind.take_binary fits [])
  rw [List.append_nil, List.append_nil] at same
  rw [← own] at spelled
  refine ⟨content, Kind.ofContent?_iff.mp read, fun row => ?_⟩
  rw [same, ← own, List.append_assoc]
  exact .scalar (by decide) spelled held row

/-- Fields of a message that were written are a row: each field occurs in it once, unless it holds
its default. -/
theorem flatMap_row (lawful : schema.Lawful) (fits : schema.Fits m)
    (inside : ∀ f ∈ fields, f ∈ schema.fields) (distinct : (fields.map (·.number)).Nodup) :
    ∃ entries, Row 0 (fields.flatMap (fieldBinary · m)) entries ∧
      (∀ entry ∈ entries, ∃ f ∈ fields, entry.number = f.number) ∧
      ∀ f ∈ fields, f.kind.Written (f.contents entries) (f.get m) := by
  induction fields with
  | nil => exact ⟨[], .nil 0, nofun, nofun⟩
  | cons f fields ih =>
    obtain ⟨apart, distinct⟩ := List.nodup_cons.mp distinct
    obtain ⟨entries, row, owned, written⟩ :=
      ih (fun g member => inside g (List.mem_cons_of_mem _ member)) distinct
    have known := inside f List.mem_cons_self
    have others : ∀ g ∈ fields, g.number ≠ f.number :=
      fun g member same => apart (List.mem_map.mpr ⟨g, member, same⟩)
    have none : f.contents entries = [] := by
      refine FieldSpec.contents_nil fun entry member same => ?_
      obtain ⟨g, other, number⟩ := owned entry member
      exact others g other (number.symm.trans same)
    rw [List.flatMap_cons]
    by_cases missing : f.kind.isDefault (f.get m) = true
    · rw [fieldBinary, if_pos missing, List.nil_append]
      refine ⟨entries, row, fun entry member => ?_, ?_⟩
      · obtain ⟨g, other, number⟩ := owned entry member
        exact ⟨g, List.mem_cons_of_mem _ other, number⟩
      · rw [List.forall_mem_cons]
        exact ⟨.inl ⟨Kind.isDefault_iff.mp missing, none⟩, written⟩
    · obtain ⟨content, means, longer⟩ := written_row lawful known (fits f known)
      rw [fieldBinary, if_neg missing]
      refine ⟨⟨f.number, content⟩ :: entries, longer row, ?_, ?_⟩
      · rw [List.forall_mem_cons]
        refine ⟨⟨f, List.mem_cons_self, rfl⟩, fun entry member => ?_⟩
        obtain ⟨g, other, number⟩ := owned entry member
        exact ⟨g, List.mem_cons_of_mem _ other, number⟩
      · rw [List.forall_mem_cons]
        refine ⟨.inr ⟨fun same => missing (Kind.isDefault_iff.mpr same), content, ?_, means⟩,
          fun g member => ?_⟩
        · rw [FieldSpec.contents_same rfl, none]
        · rw [FieldSpec.contents_other (Ne.symm (others g member))]
          exact written g member

private theorem toBinary_row (lawful : schema.Lawful) (fits : schema.Fits m) :
    ∃ entries, Row 0 (schema.encode .binary m) entries ∧
      ∀ f ∈ schema.fields, f.kind.Written (f.contents entries) (f.get m) := by
  obtain ⟨entries, row, -, written⟩ := flatMap_row lawful fits (fun _ => id) lawful.numbers
  exact ⟨entries, row, written⟩

/-- A message that holds the fields of `b`, and of `a` those that hold their default in `b`. -/
def Overlaid (schema : Schema σ) (a b m : σ) : Prop :=
  ∀ f ∈ schema.fields, (f.get b = f.kind.default → f.get m = f.get a) ∧
    (f.get b ≠ f.kind.default → f.get m = f.get b)

/-- Of two messages that were written one after the other, the second is laid over the first. -/
theorem decode_append (lawful : schema.Lawful) (first : schema.Fits a) (second : schema.Fits b) :
    ∃ m, schema.decode .binary (schema.encode .binary a ++ schema.encode .binary b) = .ok m ∧
      schema.Overlaid a b m := by
  obtain ⟨entries, row, written⟩ := toBinary_row lawful first
  obtain ⟨later, row', written'⟩ := toBinary_row lawful second
  have typed : schema.Typed (entries ++ later) := by
    intro f known content member
    rw [FieldSpec.contents_append] at member
    rcases List.mem_append.mp member with old | new
    · exact (written f known).admits content old
    · exact (written' f known).admits content new
  rcases decode_row lawful (row.append row') with ⟨m, said, read⟩ | ⟨untyped, -⟩
  · refine ⟨m, read, fun f known => ?_⟩
    have latest := said.latest f known
    rw [FieldSpec.contents_append] at latest
    exact Kind.Latest.overlaid (written f known) (written' f known) latest
  · exact absurd typed untyped

/-- How bytes are read as a message. -/
structure ReadByNumber (schema : Schema σ) : Prop where
  /-- A row of fields, in any order, is read if and only if each field of a known number holds what
  it may hold, as often as it occurs. -/
  accepted : ∀ (bytes : Bytes) (entries : List Entry), Row 0 bytes entries →
    ((∃ m, schema.decode .binary bytes = .ok m) ↔ schema.Typed entries)
  /-- Every field of the message then holds what was said last under its number, or its default. -/
  told : ∀ (bytes : Bytes) (entries : List Entry) (m : σ), Row 0 bytes entries →
    (schema.decode .binary bytes = .ok m ↔ schema.Says entries m)
  /-- Nothing but a row of fields is read. -/
  exactly : ∀ (bytes : Bytes) (m : σ), schema.decode .binary bytes = .ok m →
    ∃ entries, Row 0 bytes entries
  /-- Fields of other numbers have no effect: what is said under the numbers of the fields decides. -/
  unknown : ∀ (bytes bytes' : Bytes) (entries others : List Entry) (m : σ), Row 0 bytes entries →
    Row 0 bytes' others → (∀ f ∈ schema.fields, f.contents entries = f.contents others) →
      (schema.decode .binary bytes = .ok m ↔ schema.decode .binary bytes' = .ok m)
  /-- Two messages that were written one after the other are read as one. -/
  overlaid : ∀ a b : σ, schema.Fits a → schema.Fits b →
    ∃ m, schema.decode .binary (schema.encode .binary a ++ schema.encode .binary b) = .ok m ∧
      schema.Overlaid a b m
  /-- A known number with another wire type is refused, whatever follows. If it is the first fault, it
  is the one that is reported. -/
  mismatched : ∀ (bytes key rest : Bytes) (entries : List Entry) (found : Protobuf.WireType),
    ∀ f ∈ schema.fields, Row 0 bytes entries → Key.Spelled ⟨f.number, found⟩ key →
      found ≠ f.kind.wire →
        (schema.Typed entries → schema.decode .binary (bytes ++ (key ++ rest)) =
          .error (.binary ⟨some ⟨schema.name, f.name⟩, .wrongWireType found f.kind.wire⟩)) ∧
        ∃ e, schema.decode .binary (bytes ++ (key ++ rest)) = .error e

private theorem readByNumber (lawful : schema.Lawful) : schema.ReadByNumber := by
  constructor
  case accepted =>
    intro bytes entries row
    rcases decode_row lawful row with ⟨m, said, read⟩ | ⟨untyped, e, refused⟩
    · exact iff_of_true ⟨m, read⟩ said.typed
    · refine iff_of_false ?_ untyped
      rintro ⟨m, read⟩
      cases refused.symm.trans read
  case told => exact fun bytes entries m row => decode_said lawful row
  case exactly => exact fun bytes m read => row_of_readFields (decode_binary.mp read)
  case unknown =>
    intro bytes bytes' entries others m row row' same
    rw [decode_said lawful row, decode_said lawful row']
    exact says_congr same
  case overlaid => exact fun a b first second => decode_append lawful first second
  case mismatched =>
    intro bytes key rest entries found f known row spelled different
    exact decode_mismatch lawful row known different spelled rest

end Schema

/-- Each of the four messages is read by the numbers of its fields. -/
theorem messages_read_by_number :
    Ping.schema.ReadByNumber ∧ Pong.schema.ReadByNumber ∧ StreamPing.schema.ReadByNumber ∧
      StreamPong.schema.ReadByNumber :=
  ⟨Schema.readByNumber Ping.schema_lawful, Schema.readByNumber Pong.schema_lawful,
    Schema.readByNumber StreamPing.schema_lawful, Schema.readByNumber StreamPong.schema_lawful⟩

/-- A count is given twice, the second time beyond 32 bits; a timestamp is written with a zero above
its bits; and between them stands a group in a group. -/
theorem messages_read_by_number_nested :
    let bytes : Bytes := [0x10, 0x07, 0x4B, 0x0D, 1, 2, 3, 4, 0x53, 0x54, 0x4C, 0x08, 0x85, 0x00,
      0x10, 0xFF, 0xFF, 0xFF, 0xFF, 0x1F]
    let entries : List Entry :=
      [⟨2, .varint 7⟩, ⟨9, .group⟩, ⟨1, .varint 5⟩, ⟨2, .varint 0x1FFFFFFFF⟩]
    Row 0 bytes entries ∧ StreamPing.schema.decode .binary bytes = .ok ⟨5, -1, 0⟩ := by
  intro bytes entries
  have byte {b : UInt8} (plain : b < 0x80) : Protobuf.Varint [b] b.toNat :=
    ⟨.last plain, Nat.le_of_lt (by simp [Protobuf.maxVarintLength]),
      Nat.le_trans (Nat.le_of_lt b.toNat_lt) (by decide)⟩
  have key {number : Nat} {wire : Protobuf.WireType} {b : UInt8} (plain : b < 0x80)
      (positive : 0 < number) (spells : b.toNat = number * 8 + wire.toNat) :
      Key.Spelled ⟨number, wire⟩ [b] :=
    ⟨positive, by have := b.toNat_lt; simp only [Protobuf.maxFieldNumber]; omega,
      spells ▸ byte plain⟩
  -- From the last field to the first.
  have count : Row 0 [0x10, 0xFF, 0xFF, 0xFF, 0xFF, 0x1F] [⟨2, .varint 0x1FFFFFFFF⟩] :=
    @Row.scalar 0 2 (.varint _) [0x10] _ [] [] (by decide) (key (by decide) (by decide) rfl)
      (.varint ⟨.more (by decide) (.more (by decide) (.more (by decide) (.more (by decide)
        (.last (by decide))))), by decide, by decide⟩) (.nil 0)
  have timestamp := @Row.scalar 0 1 (.varint 5) [0x08] [0x85, 0x00] _ _ (by decide)
    (key (by decide) (by decide) rfl)
    (.varint ⟨.more (by decide) (.last (by decide)), by decide, by decide⟩) count
  have empty := @Row.group 1 10 [0x53] [] [0x54] [] _ _ (by decide)
    (key (by decide) (by decide) rfl) (.nil 2) (key (by decide) (by decide) rfl) (.nil 1)
  have inner := @Row.scalar 1 1 (.fixed32 [1, 2, 3, 4]) [0x0D] _ _ _ (by decide)
    (key (by decide) (by decide) rfl) (.fixed32 rfl) empty
  have group := @Row.group 0 9 [0x4B] _ [0x4C] _ _ _ (by decide)
    (key (by decide) (by decide) rfl) inner (key (by decide) (by decide) rfl) timestamp
  have row : Row 0 bytes entries := @Row.scalar 0 2 (.varint 7) [0x10] [0x07] _ _ (by decide)
    (key (by decide) (by decide) rfl) (.varint (byte (by decide))) group
  exact ⟨row, (messages_read_by_number.2.2.1.told bytes entries _ row).mpr
    ((Schema.says_iff StreamPing.schema_lawful).mp (by decide))⟩

end GatewayPing
