import GatewayPing.Json.Read
import GatewayPing.Json.Write
import GatewayPing.Protobuf.Skip
import GatewayPing.Mode

/-! Message schemas. A schema lists the fields of a message: for each its number and its two names,
the kind of its value, and how the value is got out of a message and put into one. Both wire
encodings follow from the schema, so that they cannot disagree on what a message consists of:

* as JSON, a message is an object with all of its fields, and reading fills in what is missing;
* in binary form, fields that hold their default are left out, and reading takes the last value
  of a field, passes over unknown fields and keeps the defaults of fields that do not occur. -/
namespace GatewayPing

/-- The kinds of values that messages are made of. -/
inductive Kind where
  | int64
  | int32
  | string
  deriving DecidableEq, Repr

namespace Kind

/-- The values of a kind. -/
abbrev Value : Kind → Type
  | .int64 => Int64
  | .int32 => Int32
  | .string => String

/-- The value of a field that does not occur. -/
def default : (k : Kind) → k.Value
  | .int64 => 0
  | .int32 => 0
  | .string => ""

/-- Whether a value is the default of its kind. -/
def isDefault : (k : Kind) → k.Value → Bool
  | .int64, v => v == 0
  | .int32, v => v == 0
  | .string, v => v == ""

/-- Reads a value from JSON. -/
def reader : (k : Kind) → Json.Reader k.Value
  | .int64 => (Json.Reader.integer (-0x8000000000000000) 0x7FFFFFFFFFFFFFFF "i64").map Int64.ofInt
  | .int32 => (Json.Reader.integer (-0x80000000) 0x7FFFFFFF "i32").map Int32.ofInt
  | .string => Json.Reader.string

/-- Writes a value as JSON. -/
def json : (k : Kind) → k.Value → Bytes
  | .int64, v => Json.writeInt v.toInt
  | .int32, v => Json.writeInt v.toInt
  | .string, v => Json.writeString v

/-- The wire type of a kind. -/
def wire : Kind → Protobuf.WireType
  | .int64 => .varint
  | .int32 => .varint
  | .string => .delimited

/-- Writes a value in binary form. Integers are extended to 64 bits with their sign. -/
def binary : (k : Kind) → k.Value → Bytes
  | .int64, v => Protobuf.varint v.toUInt64.toNat
  | .int32, v => Protobuf.varint v.toInt64.toUInt64.toNat
  | .string, v => Protobuf.delimited (Text.Utf8.encode v)

/-- Takes the integer of a field; `ofNat` says what becomes of the bits. -/
def takeInteger {α : Type} (ofNat : Nat → α) (s : Bytes) : Except Protobuf.Cause (α × Bytes) :=
  match Protobuf.takeVarint s with
  | .error e => .error e
  | .ok (n, rest) => .ok (ofNat n, rest)

/-- Takes the string of a field. -/
def takeString (s : Bytes) : Except Protobuf.Cause (String × Bytes) :=
  match Protobuf.takeDelimited s with
  | .error e => .error e
  | .ok (bytes, rest) =>
    match Text.Utf8.decode bytes with
    | .error _ => .error .notText
    | .ok text => .ok (text, rest)

/-- Takes a value in binary form. A 32-bit integer is the low half of what was sent. -/
def takeValue : (k : Kind) → Bytes → Except Protobuf.Cause (k.Value × Bytes)
  | .int64, s => takeInteger (fun n => (UInt64.ofNat n).toInt64) s
  | .int32, s => takeInteger (fun n => (UInt32.ofNat n).toInt32) s
  | .string, s => takeString s

/-- Takes a value whose key has the given wire type. -/
def take (k : Kind) (found : Protobuf.WireType) (s : Bytes) :
    Except Protobuf.Cause (k.Value × Bytes) :=
  if found = k.wire then k.takeValue s else .error (.wrongWireType found k.wire)

private theorem takeValue_lt {k : Kind} {s rest : Bytes} {v : k.Value}
    (taken : k.takeValue s = .ok (v, rest)) : rest.length < s.length := by
  have integer {t n r} (h : Protobuf.takeVarint t = .ok (n, r)) := Protobuf.takeVarint_lt h
  have text {t b r} (h : Protobuf.takeDelimited t = .ok (b, r)) := Protobuf.takeDelimited_lt h
  cases k <;> simp only [takeValue, takeInteger, takeString] at taken <;> grind

private theorem take_lt {k : Kind} {found : Protobuf.WireType} {s rest : Bytes} {v : k.Value}
    (taken : k.take found s = .ok (v, rest)) : rest.length < s.length := by
  unfold take at taken
  split at taken
  · exact takeValue_lt taken
  · cases taken

end Kind

/-- A field of messages of type `σ`. -/
structure FieldSpec (σ : Type) where
  kind : Kind
  number : Nat
  /-- The name in messages about the field. -/
  name : String
  /-- The name in JSON. -/
  member : String
  get : σ → kind.Value
  set : kind.Value → σ → σ

/-- The fields of messages of type `σ`, in their order, and a message that holds all defaults. -/
structure Schema (σ : Type) where
  name : String
  blank : σ
  fields : List (FieldSpec σ)

/-- Why bytes are no message. -/
inductive DecodeError where
  | json (e : Json.Error)
  | binary (e : Protobuf.Error)
  deriving Repr

/-- The wording of a refusal. -/
def DecodeError.message : DecodeError → String
  | .json e => e.message
  | .binary e => e.message

namespace Schema

variable {σ : Type}

/-- The reader of messages written as JSON. -/
def reader (schema : Schema σ) : Json.Reader σ :=
  .record schema.name (schema.fields.map fun f => .of f.member f.kind.reader f.set) schema.blank

/-- Reads a JSON text as a message. -/
def ofJson (schema : Schema σ) (text : Bytes) : Except Json.Error σ := schema.reader.read text

/-- A message as a JSON text. -/
def toJson (schema : Schema σ) (m : σ) : Bytes :=
  Json.writeObject (schema.fields.map fun f => (f.member, f.kind.json (f.get m)))

/-- A field of a message in binary form, unless it holds its default. -/
def fieldBinary (f : FieldSpec σ) (m : σ) : Bytes :=
  if f.kind.isDefault (f.get m) then []
  else (Protobuf.Key.mk f.number f.kind.wire).write ++ f.kind.binary (f.get m)

/-- A message in binary form. -/
def toBinary (schema : Schema σ) (m : σ) : Bytes :=
  schema.fields.flatMap fun f => fieldBinary f m

/-- Takes the value after a key into a message. -/
def takeField (schema : Schema σ) (m : σ) (key : Protobuf.Key) (s : Bytes) :
    Except Protobuf.Error (σ × Bytes) :=
  match schema.fields.find? (·.number == key.number) with
  | some f =>
    match f.kind.take key.wire s with
    | .error cause => .error ⟨some ⟨schema.name, f.name⟩, cause⟩
    | .ok (v, rest) => .ok (f.set v m, rest)
  | none =>
    match Protobuf.skipField key s with
    | .error cause => .error ⟨none, cause⟩
    | .ok rest => .ok (m, rest)

private theorem takeField_le {schema : Schema σ} {m result : σ} {key : Protobuf.Key}
    {s rest : Bytes}
    (taken : schema.takeField m key s = .ok (result, rest)) : rest.length ≤ s.length := by
  unfold takeField at taken
  split at taken
  · split at taken
    · cases taken
    · rename_i value
      cases taken
      exact Nat.le_of_lt (Kind.take_lt value)
  · split at taken
    · cases taken
    · rename_i skipped
      cases taken
      exact Protobuf.skipField_le skipped

/-- Reads the fields of a message in binary form into `m`. -/
def readFields (schema : Schema σ) (m : σ) (s : Bytes) : Except Protobuf.Error σ :=
  if s.isEmpty then .ok m
  else
    match _ : Protobuf.takeKey s with
    | .error cause => .error ⟨none, cause⟩
    | .ok (key, inner) =>
      match _ : schema.takeField m key inner with
      | .error e => .error e
      | .ok (m, rest) => schema.readFields m rest
termination_by s.length
decreasing_by
  exact Nat.lt_of_le_of_lt (takeField_le (by assumption)) (Protobuf.takeKey_lt (by assumption))

/-- Reads a message in binary form. -/
def ofBinary (schema : Schema σ) (s : Bytes) : Except Protobuf.Error σ :=
  schema.readFields schema.blank s

/-- A message on the wire. -/
def encode (schema : Schema σ) : Mode → σ → Bytes
  | .text, m => schema.toJson m
  | .binary, m => schema.toBinary m

/-- Reads a message from the wire. -/
def decode (schema : Schema σ) : Mode → Bytes → Except DecodeError σ
  | .text, s => (schema.ofJson s).mapError .json
  | .binary, s => (schema.ofBinary s).mapError .binary

end Schema
end GatewayPing
