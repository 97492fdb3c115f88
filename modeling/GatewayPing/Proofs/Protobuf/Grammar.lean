import GatewayPing.Protobuf.Skip
import GatewayPing.Proofs.Protobuf.Wire

/-! The grammar of binary messages. A message is a row of fields, each a key and a value, and a group
is a row between two keys (`Row`). What is taken off the front of a message is what the grammar has
there, no more and no less: varints (`takeVarint_iff`), keys (`takeKey_iff`), values that are no
groups (`skipScalar_iff`) and groups, whatever is nested in them (`skipField_group_iff`). -/
namespace GatewayPing.Protobuf

variable {n number depth allowed : Nat} {s bytes rest tail : Bytes} {b : UInt8}

/-! Varints. -/

/-- Bytes that hold a number, seven bits each, the lowest first; all but the last are marked. There
may be zeros above the highest bit. -/
inductive Septets : Bytes → Nat → Prop
  | last {b : UInt8} (plain : b < 0x80) : Septets [b] b.toNat
  | more {b : UInt8} {bytes : Bytes} {high : Nat} (marked : ¬ b < 0x80)
      (later : Septets bytes high) : Septets (b :: bytes) (b.toNat % 128 + 128 * high)

/-- Bytes that are a varint: there are not too many of them, and the number has 64 bits. -/
structure Varint (bytes : Bytes) (n : Nat) : Prop where
  septets : Septets bytes n
  short : bytes.length ≤ maxVarintLength
  fits : n ≤ maxVarint

private theorem takeVarintWithin_septets (septets : Septets bytes n)
    (short : bytes.length ≤ allowed + 1) (fits : n < 2 * Nat.pow 128 allowed) (rest : Bytes) :
    takeVarintWithin (allowed + 1) (bytes ++ rest) = .ok (n, rest) := by
  induction septets generalizing allowed with
  | @last b plain =>
    have bit : ¬(allowed = 0 ∧ 2 ≤ b) := by
      rintro ⟨rfl, large⟩
      have bound : b.toNat < 2 := fits
      rw [UInt8.le_iff_toNat_le] at large
      simp only [UInt8.reduceToNat] at large
      omega
    simp only [List.cons_append, List.nil_append, takeVarintWithin, plain, ↓reduceIte,
      Bool.and_eq_true, decide_eq_true_eq, bit]
  | @more b bytes high marked later ih =>
    cases allowed with
    | zero =>
      -- The last byte that is allowed ends the number.
      cases later <;> simp at short
    | succ allowed =>
      have power : Nat.pow 128 (allowed + 1) = Nat.pow 128 allowed * 128 := rfl
      have inner := @ih allowed (Nat.le_of_succ_le_succ short) (by omega)
      simp only [List.cons_append, takeVarintWithin, marked, ↓reduceIte, inner]

private theorem septets_of_takeVarintWithin
    (taken : takeVarintWithin (allowed + 1) s = .ok (n, rest)) :
    ∃ bytes, s = bytes ++ rest ∧ Septets bytes n ∧ bytes.length ≤ allowed + 1 ∧
      n < 2 * Nat.pow 128 allowed := by
  induction allowed generalizing s n with
  | zero =>
    cases s with
    | nil => cases taken
    | cons b s =>
      simp only [takeVarintWithin] at taken
      split at taken
      · rename_i plain
        split at taken
        · cases taken
        · rename_i small
          cases taken
          refine ⟨[b], rfl, .last plain, Nat.le_refl _, ?_⟩
          have bound : b < 2 := by simpa using small
          simpa [UInt8.lt_iff_toNat_lt] using bound
      · cases taken
  | succ allowed ih =>
    have power : Nat.pow 128 (allowed + 1) = Nat.pow 128 allowed * 128 := rfl
    have positive : 0 < Nat.pow 128 allowed := Nat.pow_pos (by decide)
    cases s with
    | nil => cases taken
    | cons b s =>
      rw [takeVarintWithin] at taken
      split at taken
      · rename_i plain
        have value : b.toNat < 128 := UInt8.lt_iff_toNat_lt.mp plain
        rw [if_neg (by simp)] at taken
        cases taken
        exact ⟨[b], rfl, .last plain, by simp, by omega⟩
      · rename_i marked
        cases found : takeVarintWithin (allowed + 1) s with
        | error e =>
          rw [found] at taken
          cases taken
        | ok result =>
          obtain ⟨high, after⟩ := result
          rw [found] at taken
          cases taken
          obtain ⟨bytes, rfl, septets, short, fits⟩ := ih found
          exact ⟨b :: bytes, rfl, .more marked septets, Nat.succ_le_succ short, by omega⟩

theorem takeVarint_iff :
    takeVarint s = .ok (n, rest) ↔ ∃ bytes, s = bytes ++ rest ∧ Varint bytes n := by
  constructor
  · intro taken
    obtain ⟨bytes, same, septets, short, fits⟩ := septets_of_takeVarintWithin taken
    exact ⟨bytes, same, septets, short, Nat.le_of_lt_succ fits⟩
  · rintro ⟨bytes, rfl, septets, short, fits⟩
    exact takeVarintWithin_septets septets short (Nat.lt_succ_of_le fits) rest

private theorem Varint.take (written : Varint bytes n) (rest : Bytes) :
    takeVarint (bytes ++ rest) = .ok (n, rest) :=
  takeVarint_iff.mpr ⟨bytes, rfl, written⟩

/-! Keys. -/

/-- Bytes that are a key. -/
structure Key.Spelled (key : Key) (bytes : Bytes) : Prop where
  positive : 0 < key.number
  small : key.number ≤ maxFieldNumber
  written : Varint bytes (key.number * 8 + key.wire.toNat)

private theorem WireType.ofNat?_eq_some {wire : WireType} :
    WireType.ofNat? n = some wire ↔ n = wire.toNat := by
  constructor
  · intro found
    unfold WireType.ofNat? at found
    split at found <;> cases found <;> rfl
  · rintro rfl
    exact wire.ofNat?_toNat

private theorem Key.ofNat_eq_ok {key : Key} :
    Key.ofNat n = .ok key ↔
      0 < key.number ∧ key.number ≤ maxFieldNumber ∧ n = key.number * 8 + key.wire.toNat := by
  have tail := key.wire.toNat_lt
  unfold Key.ofNat
  constructor
  · intro read
    split at read
    · cases read
    · rename_i small
      cases found : WireType.ofNat? (n % 8) with
      | none =>
        rw [found] at read
        cases read
      | some wire =>
        rw [found] at read
        simp only at read
        split at read
        · cases read
        · cases read
          have low := WireType.ofNat?_eq_some.mp found
          simp only [maxKey, maxFieldNumber] at *
          omega
  · rintro ⟨positive, small, rfl⟩
    have low : (key.number * 8 + key.wire.toNat) % 8 = key.wire.toNat := by omega
    have high : (key.number * 8 + key.wire.toNat) / 8 = key.number := by omega
    have bound : ¬ maxKey < key.number * 8 + key.wire.toNat := by
      simp only [maxKey, maxFieldNumber] at *
      omega
    rw [if_neg bound, low, key.wire.ofNat?_toNat, high]
    exact if_neg (Nat.ne_of_gt positive)

theorem takeKey_iff {key : Key} :
    takeKey s = .ok (key, rest) ↔ ∃ bytes, s = bytes ++ rest ∧ key.Spelled bytes := by
  constructor
  · intro taken
    unfold takeKey at taken
    cases found : takeVarint s with
    | error e =>
      rw [found] at taken
      cases taken
    | ok result =>
      obtain ⟨n, after⟩ := result
      rw [found] at taken
      cases read : Key.ofNat n with
      | error e =>
        simp only [read] at taken
        cases taken
      | ok key' =>
        simp only [read] at taken
        cases taken
        obtain ⟨positive, small, rfl⟩ := Key.ofNat_eq_ok.mp read
        obtain ⟨bytes, same, written⟩ := takeVarint_iff.mp found
        exact ⟨bytes, same, positive, small, written⟩
  · rintro ⟨bytes, rfl, positive, small, written⟩
    have read := Key.ofNat_eq_ok.mpr ⟨positive, small, rfl⟩
    simp only [takeKey, written.take, read]

theorem Key.Spelled.take {key : Key} (spelled : key.Spelled bytes) (rest : Bytes) :
    takeKey (bytes ++ rest) = .ok (key, rest) :=
  takeKey_iff.mpr ⟨bytes, rfl, spelled⟩

/-- A key is spelled as it is written. -/
theorem Key.write_spelled {key : Key} (positive : 0 < key.number)
    (small : key.number ≤ maxFieldNumber) : key.Spelled key.write := by
  have read : takeKey (key.write ++ []) = .ok (key, []) := takeKey_write positive small
  obtain ⟨bytes, same, spelled⟩ := takeKey_iff.mp read
  rw [List.append_nil, List.append_nil] at same
  exact same ▸ spelled

/-! Values. -/

/-- What a field holds. The fields inside of a group do not matter. -/
inductive Content where
  | varint (n : Nat)
  | fixed64 (bytes : Bytes)
  | delimited (bytes : Bytes)
  | group
  | fixed32 (bytes : Bytes)
  deriving DecidableEq, Repr

/-- The wire type of what a field holds. -/
def Content.wire : Content → WireType
  | .varint _ => .varint
  | .fixed64 _ => .fixed64
  | .delimited _ => .delimited
  | .group => .startGroup
  | .fixed32 _ => .fixed32

/-- Bytes that are a value, but no group. -/
inductive Scalar : Content → Bytes → Prop
  | varint {bytes : Bytes} {n : Nat} (written : Varint bytes n) : Scalar (.varint n) bytes
  | fixed64 {bytes : Bytes} (eight : bytes.length = 8) : Scalar (.fixed64 bytes) bytes
  | delimited {length bytes : Bytes} (announced : Varint length bytes.length) :
      Scalar (.delimited bytes) (length ++ bytes)
  | fixed32 {bytes : Bytes} (four : bytes.length = 4) : Scalar (.fixed32 bytes) bytes

private theorem takeBytes_iff {taken : Bytes} :
    takeBytes n s = .ok (taken, rest) ↔ s = taken ++ rest ∧ taken.length = n := by
  unfold takeBytes
  constructor
  · intro read
    split at read
    · cases read
    · rename_i enough
      cases read
      exact ⟨(List.take_append_drop n s).symm, by simp; omega⟩
  · rintro ⟨rfl, rfl⟩
    simp

theorem takeDelimited_iff {taken : Bytes} :
    takeDelimited s = .ok (taken, rest) ↔
      ∃ length, s = length ++ taken ++ rest ∧ Varint length taken.length := by
  unfold takeDelimited
  constructor
  · intro read
    split at read
    · cases read
    · rename_i found
      obtain ⟨length, rfl, written⟩ := takeVarint_iff.mp found
      obtain ⟨rfl, rfl⟩ := takeBytes_iff.mp read
      exact ⟨length, (List.append_assoc ..).symm, written⟩
  · rintro ⟨length, rfl, written⟩
    rw [List.append_assoc, written.take]
    exact takeBytes_iff.mpr ⟨rfl, rfl⟩

private theorem map_snd_eq_ok {α : Type} {read : Except Cause (α × Bytes)} :
    read.map (·.2) = .ok rest ↔ ∃ a, read = .ok (a, rest) := by
  cases read with
  | error e => simp [Except.map]
  | ok result =>
    obtain ⟨a, after⟩ := result
    simp [Except.map]

/-- What is passed over is a value of the wire type. -/
theorem skipScalar_iff {wire : WireType} :
    skipScalar wire s = .ok rest ↔
      ∃ content bytes, content.wire = wire ∧ s = bytes ++ rest ∧ Scalar content bytes := by
  constructor
  · intro skipped
    unfold skipScalar at skipped
    split at skipped
    · obtain ⟨n, taken⟩ := map_snd_eq_ok.mp skipped
      obtain ⟨bytes, same, written⟩ := takeVarint_iff.mp taken
      exact ⟨.varint n, bytes, rfl, same, .varint written⟩
    · obtain ⟨bytes, taken⟩ := map_snd_eq_ok.mp skipped
      obtain ⟨same, eight⟩ := takeBytes_iff.mp taken
      exact ⟨.fixed64 bytes, bytes, rfl, same, .fixed64 eight⟩
    · obtain ⟨bytes, taken⟩ := map_snd_eq_ok.mp skipped
      obtain ⟨same, four⟩ := takeBytes_iff.mp taken
      exact ⟨.fixed32 bytes, bytes, rfl, same, .fixed32 four⟩
    · obtain ⟨bytes, taken⟩ := map_snd_eq_ok.mp skipped
      obtain ⟨length, same, announced⟩ := takeDelimited_iff.mp taken
      exact ⟨.delimited bytes, length ++ bytes, rfl, same, .delimited announced⟩
    · cases skipped
    · cases skipped
  · rintro ⟨content, bytes, rfl, rfl, scalar⟩
    cases scalar with
    | varint written => exact map_snd_eq_ok.mpr ⟨_, written.take rest⟩
    | fixed64 eight => exact map_snd_eq_ok.mpr ⟨_, takeBytes_iff.mpr ⟨rfl, eight⟩⟩
    | delimited announced => exact map_snd_eq_ok.mpr ⟨_, takeDelimited_iff.mpr ⟨_, rfl, announced⟩⟩
    | fixed32 four => exact map_snd_eq_ok.mpr ⟨_, takeBytes_iff.mpr ⟨rfl, four⟩⟩

private theorem Scalar.skip {content : Content} (scalar : Scalar content bytes) (rest : Bytes) :
    skipScalar content.wire (bytes ++ rest) = .ok rest :=
  skipScalar_iff.mpr ⟨content, bytes, rfl, rfl, scalar⟩

private theorem Scalar.plain {content : Content} (scalar : Scalar content bytes) :
    content.wire ≠ .endGroup ∧ content.wire ≠ .startGroup := by
  cases scalar <;> exact ⟨nofun, nofun⟩

theorem Scalar.takeVarint (held : Scalar (.varint n) bytes) (rest : Bytes) :
    takeVarint (bytes ++ rest) = .ok (n, rest) := by
  cases held with
  | varint written => exact written.take rest

theorem Scalar.takeDelimited {taken : Bytes} (held : Scalar (.delimited taken) bytes)
    (rest : Bytes) : takeDelimited (bytes ++ rest) = .ok (taken, rest) := by
  cases held with
  | delimited announced => exact takeDelimited_iff.mpr ⟨_, rfl, announced⟩

/-! Fields. -/

/-- A field of a message: its number and what it holds. -/
structure Entry where
  number : Nat
  content : Content
  deriving DecidableEq, Repr

/-- A row of fields that stands inside of some groups, and its bytes. Every field stands inside of
fewer groups than are allowed, and a group ends with a key of its own number. -/
inductive Row : Nat → Bytes → List Entry → Prop
  | nil (depth : Nat) : Row depth [] []
  | scalar {depth number : Nat} {content : Content} {key value rest : Bytes}
      {entries : List Entry} (shallow : depth < maxDepth)
      (spelled : Key.Spelled ⟨number, content.wire⟩ key) (held : Scalar content value)
      (later : Row depth rest entries) :
      Row depth (key ++ (value ++ rest)) (⟨number, content⟩ :: entries)
  | group {depth number : Nat} {opening inner closing rest : Bytes} {nested entries : List Entry}
      (shallow : depth < maxDepth) (opens : Key.Spelled ⟨number, .startGroup⟩ opening)
      (inside : Row (depth + 1) inner nested) (closes : Key.Spelled ⟨number, .endGroup⟩ closing)
      (later : Row depth rest entries) :
      Row depth (opening ++ (inner ++ (closing ++ rest))) (⟨number, .group⟩ :: entries)

variable {entries others : List Entry} {outer : List Nat}

/-- Rows are put together. -/
theorem Row.append (row : Row depth s entries) (other : Row depth tail others) :
    Row depth (s ++ tail) (entries ++ others) := by
  induction row with
  | nil => exact other
  | scalar shallow spelled held later ih =>
    simp only [List.append_assoc, List.cons_append]
    exact .scalar shallow spelled held (ih other)
  | group shallow opens inside closes later ihInside ih =>
    simp only [List.append_assoc, List.cons_append]
    exact .group shallow opens inside closes (ih other)

/-! Groups. -/

/-- What is done inside of a group depends on the key that comes next. -/
theorem skipGroups_keyed {key : Key} (keyed : takeKey s = .ok (key, rest)) :
    skipGroups (number :: outer) s =
      if key.wire = .endGroup then
        if key.number = number then skipGroups outer rest else .error .unexpectedEndGroup
      else if maxDepth ≤ outer.length + 1 then .error .tooDeep
      else if key.wire = .startGroup then skipGroups (key.number :: number :: outer) rest
      else (skipScalar key.wire rest).bind (skipGroups (number :: outer)) := by
  rw [skipGroups]
  split
  all_goals rename_i same; cases keyed.symm.trans same
  cases skipScalar key.wire rest <;> rfl

private theorem skipGroups_closing (keyed : takeKey s = .ok (⟨number, .endGroup⟩, rest)) :
    skipGroups (number :: outer) s = skipGroups outer rest := by
  rw [skipGroups_keyed keyed, if_pos rfl, if_pos rfl]

private theorem skipGroups_opening (keyed : takeKey s = .ok (⟨n, .startGroup⟩, rest))
    (shallow : outer.length + 1 < maxDepth) :
    skipGroups (number :: outer) s = skipGroups (n :: number :: outer) rest := by
  rw [skipGroups_keyed keyed, if_neg nofun, if_neg (Nat.not_le.mpr shallow), if_pos rfl]

private theorem skipGroups_scalar {content : Content}
    (keyed : takeKey s = .ok (⟨n, content.wire⟩, bytes ++ rest))
    (shallow : outer.length + 1 < maxDepth) (held : Scalar content bytes) :
    skipGroups (number :: outer) s = skipGroups (number :: outer) rest := by
  have plain := held.plain
  rw [skipGroups_keyed keyed, if_neg plain.1, if_neg (Nat.not_le.mpr shallow), if_neg plain.2,
    held.skip]
  rfl

/-- The fields of a group are passed over, whatever they are. The induction is on the row; a group in
it is on the stack while its own row is passed over. -/
theorem Row.skip (row : Row depth bytes entries) (inside : depth = outer.length + 1)
    (rest : Bytes) : skipGroups (number :: outer) (bytes ++ rest) =
      skipGroups (number :: outer) rest := by
  induction row generalizing number outer rest with
  | nil => rfl
  | scalar shallow spelled held later ih =>
    subst inside
    simp only [List.append_assoc]
    rw [skipGroups_scalar (spelled.take _) shallow held, ih rfl]
  | group shallow opens row closes later ihInside ih =>
    subst inside
    simp only [List.append_assoc]
    rw [skipGroups_opening (opens.take _) shallow, ihInside rfl, skipGroups_closing (closes.take _),
      ih rfl]

/-- Bytes in front of others that end all open groups: for each, the innermost first, a row of fields
and the key that ends the group. -/
def Ends : List Nat → Bytes → Bytes → Prop
  | [], s, rest => s = rest
  | number :: outer, s, rest =>
    ∃ inner closing after entries, s = inner ++ (closing ++ after) ∧
      Row (outer.length + 1) inner entries ∧ Key.Spelled ⟨number, .endGroup⟩ closing ∧
      Ends outer after rest

/-- One field more in front of what ends a group. -/
theorem Ends.cons (field : Bytes) (entry : Entry)
    (longer : ∀ {inner entries}, Row (outer.length + 1) inner entries →
      Row (outer.length + 1) (field ++ inner) (entry :: entries))
    (ends : Ends (number :: outer) s rest) : Ends (number :: outer) (field ++ s) rest := by
  obtain ⟨inner, closing, after, entries, rfl, row, closes, later⟩ := ends
  exact ⟨field ++ inner, closing, after, _, by simp, longer row, closes, later⟩

/-- What was passed over are the rows of the open groups. -/
theorem ends_of_skipGroups {opened : List Nat} (skipped : skipGroups opened s = .ok rest) :
    Ends opened s rest := by
  fun_induction skipGroups opened s with
  | case1 => exact Except.ok.inj skipped
  | case2 => cases skipped
  | case3 s outer key tail taken closes ih =>
    obtain ⟨closing, rfl, spelled⟩ := takeKey_iff.mp taken
    obtain ⟨number, wire⟩ := key
    cases closes
    exact ⟨[], closing, tail, [], rfl, .nil _, spelled, ih skipped⟩
  | case4 => cases skipped
  | case5 => cases skipped
  | case6 s number outer key tail taken _ shallow opens ih =>
    obtain ⟨opening, rfl, spelled⟩ := takeKey_iff.mp taken
    obtain ⟨n, wire⟩ := key
    cases opens
    -- The group that was opened ends before those around it.
    obtain ⟨inner, closing, after, inside, rfl, row, closes, later⟩ := ih skipped
    have whole := Ends.cons (opening ++ (inner ++ closing)) ⟨n, .group⟩
      (fun row' => by
        simpa using Row.group (Nat.not_le.mp shallow) spelled row closes row') later
    simpa using whole
  | case7 => cases skipped
  | case8 s number outer key tail taken _ shallow _ after scalar ih =>
    obtain ⟨bytes, rfl, spelled⟩ := takeKey_iff.mp taken
    obtain ⟨n, wire⟩ := key
    obtain ⟨content, value, rfl, rfl, held⟩ := skipScalar_iff.mp scalar
    have whole := Ends.cons (bytes ++ value) ⟨n, content⟩
      (fun row => by
        simpa using Row.scalar (Nat.not_le.mp shallow) spelled held row) (ih skipped)
    simpa using whole

/-- What is passed over as a group is a row of fields and the key that ends the group. -/
theorem skipField_group_iff : skipField ⟨number, .startGroup⟩ s = .ok rest ↔
    ∃ inner closing entries, s = inner ++ (closing ++ rest) ∧ Row 1 inner entries ∧
      Key.Spelled ⟨number, .endGroup⟩ closing := by
  have nothing : skipGroups [] rest = .ok rest := by rw [skipGroups]
  constructor
  · intro skipped
    obtain ⟨inner, closing, after, entries, same, row, closes, rfl⟩ := ends_of_skipGroups skipped
    exact ⟨inner, closing, entries, same, row, closes⟩
  · rintro ⟨inner, closing, entries, rfl, row, closes⟩
    show skipGroups [number] _ = _
    rw [row.skip rfl, skipGroups_closing (closes.take rest), nothing]

/-- What is passed over as a value of another wire type is a value of that type. -/
theorem skipField_plain {key : Key} (plain : key.wire ≠ .startGroup) :
    skipField key s = skipScalar key.wire s := by
  obtain ⟨number, wire⟩ := key
  cases wire with
  | startGroup => exact absurd rfl plain
  | _ => rfl

theorem skipField_scalar {content : Content} (held : Scalar content bytes) (rest : Bytes) :
    skipField ⟨number, content.wire⟩ (bytes ++ rest) = .ok rest :=
  (skipField_plain held.plain.2).trans (held.skip rest)

end GatewayPing.Protobuf
