import GatewayPing.Message
import GatewayPing.Proofs.Json.Records
import GatewayPing.Proofs.Protobuf.Wire

/-! Both encodings are lossless: a message is read as it was written, as JSON and in binary form.
That is so for every schema whose fields can be told apart and are all that there is to a message
(`Schema.Lawful`), and the schemas of the four messages are of this kind. Main statement:
`messages_lossless`. -/
namespace GatewayPing

/-! Values. -/

namespace Kind

/-- A value that can be written behind its length: the length is a number of 64 bits. The length of
a string in memory always is. -/
def Fits : (k : Kind) → k.Value → Prop
  | .int64, _ => True
  | .int32, _ => True
  | .string, v => (Text.Utf8.encode v).length ≤ Protobuf.maxVarint

variable {k : Kind} {v : k.Value}

private theorem fits_default (k : Kind) : k.Fits k.default := by
  cases k with
  | int64 => trivial
  | int32 => trivial
  | string => exact Nat.zero_le _

/-- What was written in fewer bytes than its length can tell can be written. -/
theorem fits_of_binary (short : (k.binary v).length ≤ Protobuf.maxVarint) : k.Fits v := by
  cases k with
  | int64 => trivial
  | int32 => trivial
  | string =>
    simp only [binary, Protobuf.delimited, List.length_append] at short
    exact Nat.le_trans (Nat.le_add_left _ _) short

theorem isDefault_iff : k.isDefault v = true ↔ v = k.default := by
  cases k <;> exact beq_iff_eq

/-- A value is read as it was written in JSON. -/
theorem reader_takes (k : Kind) (v : k.Value) : k.reader.Takes (k.json v) v := by
  cases k with
  | int64 =>
    have low := Int64.le_toInt v
    have high := Int64.toInt_lt v
    have above : -0x8000000000000000 ≤ v.toInt := low
    have below : v.toInt ≤ 0x7FFFFFFFFFFFFFFF := by omega
    have takes := (Json.integer_takes "i64" above below low (by omega)).map Int64.ofInt
    rwa [Int64.ofInt_toInt] at takes
  | int32 =>
    have low := Int32.le_toInt v
    have high := Int32.toInt_lt v
    have above : -0x80000000 ≤ v.toInt := low
    have below : v.toInt ≤ 0x7FFFFFFF := by omega
    have takes := (Json.integer_takes "i32" above below (by omega) (by omega)).map Int32.ofInt
    rwa [Int32.ofInt_toInt] at takes
  | string => exact Json.string_takes v

/-- The low half of an integer that was extended to 64 bits with its sign is the integer. -/
theorem ofNat_toInt64_toUInt64 (n : Int32) :
    (UInt32.ofNat n.toInt64.toUInt64.toNat).toInt32 = n := by
  rw [UInt32.ofNat_uInt64ToNat]
  apply Int32.toBitVec_inj.mp
  show BitVec.setWidth 32 (BitVec.signExtend 64 n.toBitVec) = n.toBitVec
  refine BitVec.eq_of_getElem_eq fun i low => ?_
  have inside : i < 64 := by omega
  simp [BitVec.getElem_signExtend, low, inside]

/-- A value is read as it was written in binary form. -/
theorem take_binary (fits : k.Fits v) (rest : Bytes) :
    k.take k.wire (k.binary v ++ rest) = .ok (v, rest) := by
  rw [take, if_pos rfl]
  cases k with
  | int64 =>
    have taken := Protobuf.takeVarint_varint
      (Nat.le_of_lt_succ (UInt64.toNat_lt v.toUInt64)) rest
    simp only [takeValue, takeInteger, binary, taken, UInt64.ofNat_toNat, Int64.toInt64_toUInt64]
  | int32 =>
    have taken := Protobuf.takeVarint_varint
      (Nat.le_of_lt_succ (UInt64.toNat_lt v.toInt64.toUInt64)) rest
    simp only [takeValue, takeInteger, binary, taken, ofNat_toInt64_toUInt64]
  | string =>
    have taken := Protobuf.takeDelimited_delimited fits rest
    simp only [takeValue, takeString, binary, taken, Text.Utf8.decode_encode]

end Kind

namespace Schema

variable {σ : Type} {schema : Schema σ}

/-- The fields of a schema can be told apart, and they are all that there is to a message. -/
structure Lawful (schema : Schema σ) : Prop where
  numbers : (schema.fields.map (·.number)).Nodup
  members : (schema.fields.map (·.member)).Nodup
  /-- Every number can be written in a key. -/
  range : ∀ f ∈ schema.fields, 0 < f.number ∧ f.number ≤ Protobuf.maxFieldNumber
  blank : ∀ f ∈ schema.fields, f.get schema.blank = f.kind.default
  get_set : ∀ f ∈ schema.fields, ∀ v m, f.get (f.set v m) = v
  apart : ∀ f ∈ schema.fields, ∀ g ∈ schema.fields, f.number ≠ g.number →
    ∀ v m, f.get (g.set v m) = f.get m
  ext : ∀ m m', (∀ f ∈ schema.fields, f.get m = f.get m') → m = m'

/-- A message all of whose values can be written. -/
def Fits (schema : Schema σ) (m : σ) : Prop := ∀ f ∈ schema.fields, f.kind.Fits (f.get m)

/-- Takes the values of some fields over from a message. -/
def copy (m : σ) (fields : List (FieldSpec σ)) (into : σ) : σ :=
  fields.foldl (fun into f => f.set (f.get m) into) into

variable {m into : σ} {fields : List (FieldSpec σ)} {f : FieldSpec σ}

theorem find?_number (lawful : schema.Lawful) (known : f ∈ schema.fields) :
    schema.fields.find? (·.number == f.number) = some f :=
  find?_of_nodup (·.number) lawful.numbers known

/-- To put in a value that is there already changes nothing. -/
theorem set_same (lawful : schema.Lawful) (known : f ∈ schema.fields) {v : f.kind.Value}
    (there : f.get into = v) : f.set v into = into := by
  refine lawful.ext _ _ fun g member => ?_
  by_cases same : g.number = f.number
  · obtain rfl := eq_of_nodup (·.number) lawful.numbers member known same
    exact (lawful.get_set g member v into).trans there.symm
  · exact lawful.apart g member f known same v into

/-- Puts a value into each of some fields. -/
def fill (value : (f : FieldSpec σ) → f.kind.Value) (fields : List (FieldSpec σ)) (into : σ) : σ :=
  fields.foldl (fun into f => f.set (value f) into) into

private theorem fill_other {value : (f : FieldSpec σ) → f.kind.Value} (lawful : schema.Lawful)
    (known : f ∈ schema.fields) (inside : ∀ g ∈ fields, g ∈ schema.fields)
    (other : ∀ g ∈ fields, f.number ≠ g.number) : f.get (fill value fields into) = f.get into := by
  induction fields generalizing into with
  | nil => rfl
  | cons g fields ih =>
    have later : f.get (fill value fields (g.set (value g) into)) =
        f.get (g.set (value g) into) :=
      ih (fun h member => inside h (by simp [member]))
        (fun h member => other h (by simp [member]))
    exact later.trans (lawful.apart f known g (inside g (by simp)) (other g (by simp)) _ _)

/-- Each of the fields holds the value that was put into it. -/
theorem fill_get (value : (f : FieldSpec σ) → f.kind.Value) (lawful : schema.Lawful)
    (inside : ∀ g ∈ fields, g ∈ schema.fields) (distinct : (fields.map (·.number)).Nodup)
    (member : f ∈ fields) : f.get (fill value fields into) = value f := by
  induction fields generalizing into with
  | nil => cases member
  | cons g fields ih =>
    obtain ⟨apart, distinct⟩ := List.nodup_cons.mp distinct
    have later : ∀ h ∈ fields, h ∈ schema.fields := fun h member => inside h (by simp [member])
    rcases List.mem_cons.mp member with rfl | member
    · -- The fields after it leave the value alone.
      have other : ∀ h ∈ fields, f.number ≠ h.number :=
        fun h member same => apart (List.mem_map.mpr ⟨h, member, same.symm⟩)
      exact (fill_other lawful (inside f (by simp)) later other).trans
        (lawful.get_set f (inside f (by simp)) _ _)
    · exact ih later distinct member

/-- A message is all of its values. -/
theorem copy_fields (lawful : schema.Lawful) (m into : σ) : copy m schema.fields into = m := by
  refine lawful.ext _ _ fun f member => ?_
  exact fill_get (fun f => f.get m) lawful (fun _ => id) lawful.numbers member

/-! JSON. -/

/-- A field of a message as a member of an object. -/
def member (m : σ) (f : FieldSpec σ) : Json.Member σ :=
  ⟨.of f.member f.kind.reader f.set, f.kind.json (f.get m), f.set (f.get m)⟩

/-- A message is read as it was written in JSON. -/
theorem ofJson_toJson (lawful : schema.Lawful) (m : σ) :
    schema.ofJson (schema.toJson m) = .ok m := by
  have distinct : ((schema.fields.map fun f => Json.Field.of f.member f.kind.reader f.set).map
      (·.name)).Nodup := by
    rw [List.map_map]
    exact lawful.members
  have once : ((schema.fields.map (member m)).map (·.field.name)).Nodup := by
    rw [List.map_map]
    exact lawful.members
  have known : ∀ p ∈ schema.fields.map (member m),
      p.field ∈ schema.fields.map fun f => Json.Field.of f.member f.kind.reader f.set := by
    intro p listed
    obtain ⟨f, inside, rfl⟩ := List.mem_map.mp listed
    exact List.mem_map.mpr ⟨f, inside, rfl⟩
  have sound : ∀ p ∈ schema.fields.map (member m), p.Sound := by
    intro p listed
    obtain ⟨f, -, rfl⟩ := List.mem_map.mp listed
    exact (f.kind.reader_takes (f.get m)).map f.set
  have read := (Json.record_takes schema.name schema.blank distinct _ known sound once).read
  rw [List.foldl_map, List.map_map] at read
  exact read.trans (congrArg Except.ok (copy_fields lawful m schema.blank))

/-! The binary form. -/

variable {s rest : Bytes} {key : Protobuf.Key} {next : σ}

theorem readFields_nil (m : σ) : schema.readFields m [] = .ok m := by
  rw [readFields]
  rfl

/-- Where a key stands, what comes of its field decides. -/
theorem readFields_keyed (keyed : Protobuf.takeKey s = .ok (key, rest)) :
    schema.readFields into s =
      match schema.takeField into key rest with
      | .error e => .error e
      | .ok (next, after) => schema.readFields next after := by
  have filled : s.isEmpty = false := by
    cases s with
    | nil => cases keyed
    | cons b s => rfl
  rw [readFields, if_neg (ne_true_of_eq_false filled)]
  split
  all_goals rename_i same; cases keyed.symm.trans same
  split
  all_goals rename_i taken; rw [taken]

/-- A field that is taken is read. -/
theorem readFields_field (keyed : Protobuf.takeKey s = .ok (key, rest)) {after : Bytes}
    (taken : schema.takeField into key rest = .ok (next, after)) :
    schema.readFields into s = schema.readFields next after := by
  rw [readFields_keyed keyed, taken]

/-- A field that was written is read. -/
theorem readFields_written (lawful : schema.Lawful) (known : f ∈ schema.fields) {v : f.kind.Value}
    (fits : f.kind.Fits v) (rest : Bytes) :
    schema.readFields into
        ((Protobuf.Key.mk f.number f.kind.wire).write ++ f.kind.binary v ++ rest) =
      schema.readFields (f.set v into) rest := by
  obtain ⟨positive, small⟩ := lawful.range f known
  rw [List.append_assoc]
  refine readFields_field (Protobuf.takeKey_write positive small) ?_
  simp only [takeField, find?_number lawful known, Kind.take_binary fits]

/-- Values of fields are read one after the other. Those that are left out are there already. -/
theorem readFields_flatMap (lawful : schema.Lawful) (fits : schema.Fits m)
    (inside : ∀ f ∈ fields, f ∈ schema.fields) (distinct : (fields.map (·.number)).Nodup)
    (fresh : ∀ f ∈ fields, f.get into = f.kind.default) (rest : Bytes) :
    schema.readFields into (fields.flatMap (fieldBinary · m) ++ rest) =
      schema.readFields (copy m fields into) rest := by
  induction fields generalizing into with
  | nil => rfl
  | cons f fields ih =>
    obtain ⟨apart, distinct⟩ := List.nodup_cons.mp distinct
    have known := inside f (by simp)
    have stillFresh : ∀ g ∈ fields, g.get (f.set (f.get m) into) = g.kind.default := by
      intro g member
      have other : g.number ≠ f.number :=
        fun same => apart (List.mem_map.mpr ⟨g, member, same⟩)
      rw [lawful.apart g (inside g (by simp [member])) f known other]
      exact fresh g (by simp [member])
    have later := ih (fun g member => inside g (by simp [member])) distinct stillFresh
    rw [List.flatMap_cons, List.append_assoc]
    refine Eq.trans ?_ later
    unfold fieldBinary
    split
    · rename_i default
      have held := Kind.isDefault_iff.mp default
      have there : f.set (f.get m) into = into :=
        set_same lawful known ((fresh f (by simp)).trans held.symm)
      rw [there]
      rfl
    · exact readFields_written lawful known (fits f known) _

/-- A message is read as it was written in binary form. -/
theorem ofBinary_toBinary (lawful : schema.Lawful) (fits : schema.Fits m) :
    schema.ofBinary (schema.toBinary m) = .ok m := by
  have read : schema.readFields schema.blank (schema.toBinary m ++ []) =
      schema.readFields (copy m schema.fields schema.blank) [] :=
    readFields_flatMap lawful fits (fun _ => id) lawful.numbers lawful.blank []
  rw [List.append_nil, copy_fields lawful, readFields_nil] at read
  exact read

/-- A message that was written in few enough bytes is one all of whose values can be written. -/
theorem fits_of_toBinary (short : (schema.toBinary m).length ≤ Protobuf.maxVarint) :
    schema.Fits m := by
  intro f known
  by_cases default : f.kind.isDefault (f.get m) = true
  · rw [Kind.isDefault_iff.mp default]
    exact f.kind.fits_default
  · have part : (fieldBinary f m).Sublist (schema.toBinary m) :=
      List.sublist_flatten_of_mem (List.mem_map_of_mem known)
    have written := Nat.le_trans part.length_le short
    rw [fieldBinary, if_neg default, List.length_append] at written
    exact Kind.fits_of_binary (Nat.le_trans (Nat.le_add_left _ _) written)

/-! Both encodings. -/

/-- A message is read as it was written. -/
theorem decode_encode (lawful : schema.Lawful) (fits : schema.Fits m) (mode : Mode) :
    schema.decode mode (schema.encode mode m) = .ok m := by
  cases mode with
  | text => exact congrArg (Except.mapError DecodeError.json) (ofJson_toJson lawful m)
  | binary => exact congrArg (Except.mapError DecodeError.binary) (ofBinary_toBinary lawful fits)

/-- A message is read as it was written if it was written in few enough bytes. -/
theorem decode_encode_of_short (lawful : schema.Lawful) {mode : Mode}
    (short : (schema.encode mode m).length ≤ Protobuf.maxVarint) :
    schema.decode mode (schema.encode mode m) = .ok m := by
  cases mode with
  | text => exact congrArg (Except.mapError DecodeError.json) (ofJson_toJson lawful m)
  | binary => exact decode_encode lawful (fits_of_toBinary short) .binary

/-- A message that is read as it was written, in each encoding, so that both encodings of it come to
the same. -/
structure Lossless (schema : Schema σ) (m : σ) : Prop where
  text : schema.decode .text (schema.encode .text m) = .ok m
  binary : schema.decode .binary (schema.encode .binary m) = .ok m
  agree : schema.decode .text (schema.encode .text m) =
    schema.decode .binary (schema.encode .binary m)

private theorem lossless (lawful : schema.Lawful) (fits : schema.Fits m) : schema.Lossless m where
  text := decode_encode lawful fits .text
  binary := decode_encode lawful fits .binary
  agree := (decode_encode lawful fits .text).trans (decode_encode lawful fits .binary).symm

end Schema

/-! The messages. -/

theorem Ping.schema_lawful : Ping.schema.Lawful where
  numbers := by decide
  members := by decide
  range := by simp [schema, Protobuf.maxFieldNumber]
  blank := by simp [schema, Kind.default]
  get_set := by simp [schema]
  apart := by simp [schema]
  ext := by
    rintro ⟨timestamp⟩ ⟨timestamp'⟩ same
    simpa [schema] using same

theorem Pong.schema_lawful : Pong.schema.Lawful where
  numbers := by decide
  members := by decide
  range := by simp [schema, Protobuf.maxFieldNumber]
  blank := by simp [schema, Kind.default]
  get_set := by simp [schema]
  apart := by simp [schema]
  ext := by
    rintro ⟨timestamp, serviceName⟩ ⟨timestamp', serviceName'⟩ same
    simpa [schema] using same

theorem StreamPing.schema_lawful : StreamPing.schema.Lawful where
  numbers := by decide
  members := by decide
  range := by simp [schema, Protobuf.maxFieldNumber]
  blank := by simp [schema, Kind.default]
  get_set := by simp [schema]
  apart := by simp [schema]
  ext := by
    rintro ⟨timestamp, count, interval⟩ ⟨timestamp', count', interval'⟩ same
    simpa [schema] using same

theorem StreamPong.schema_lawful : StreamPong.schema.Lawful where
  numbers := by decide
  members := by decide
  range := by simp [schema, Protobuf.maxFieldNumber]
  blank := by simp [schema, Kind.default]
  get_set := by simp [schema]
  apart := by simp [schema]
  ext := by
    rintro ⟨timestamp, serviceName⟩ ⟨timestamp', serviceName'⟩ same
    simpa [schema] using same

private theorem Ping.fits (m : Ping) : Ping.schema.Fits m := by
  simp [Schema.Fits, schema, Kind.Fits]

private theorem StreamPing.fits (m : StreamPing) : StreamPing.schema.Fits m := by
  simp [Schema.Fits, schema, Kind.Fits]

private theorem StreamPong.fits_iff {m : StreamPong} :
    StreamPong.schema.Fits m ↔ (Text.Utf8.encode m.serviceName).length ≤ Protobuf.maxVarint := by
  simp [Schema.Fits, schema, Kind.Fits]

/-- Each of the four messages is read as it was written, in both encodings: every message without a
text, and every message with a text whose length can be written. -/
theorem messages_lossless :
    (∀ m, Ping.schema.Lossless m) ∧ (∀ m, StreamPing.schema.Lossless m) ∧
      (∀ m, Pong.schema.Fits m → Pong.schema.Lossless m) ∧
      (∀ m, StreamPong.schema.Fits m → StreamPong.schema.Lossless m) :=
  ⟨fun m => Schema.lossless Ping.schema_lawful m.fits,
    fun m => Schema.lossless StreamPing.schema_lawful m.fits,
    fun _ => Schema.lossless Pong.schema_lawful, fun _ => Schema.lossless StreamPong.schema_lawful⟩

/-- A text that has to be escaped, and a negative timestamp. -/
theorem messages_lossless_escaped :
    StreamPong.schema.Fits ⟨-1, "\"\\\u0007\n😀"⟩ ∧
      StreamPong.schema.Lossless ⟨-1, "\"\\\u0007\n😀"⟩ :=
  have fits := StreamPong.fits_iff.mpr (by decide)
  ⟨fits, messages_lossless.2.2.2 _ fits⟩

end GatewayPing
