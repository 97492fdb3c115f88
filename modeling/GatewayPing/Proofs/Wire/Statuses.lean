import GatewayPing.Gateway
import GatewayPing.Proofs.Text.Percent

/-! Statuses survive the wire: the headers that tell of a status are read as that status, whatever
its message is (`Status.ofHeaders?_statusHeaders`). -/
namespace GatewayPing

open Text

/-- ASCII bytes that are put into a text, one by one, are the bytes of that text. -/
theorem Text.Utf8.encode_ofBytes {s : Bytes} (plain : ∀ b ∈ s, b < 0x80) :
    Utf8.encode (String.ofList (s.map fun b => Char.ofNat b.toNat)) = s := by
  rw [Utf8.encode, String.toList_ofList, List.flatMap_map]
  induction s with
  | nil => rfl
  | cons b s ih =>
    have small : b.toNat < 0x80 := plain b (by simp)
    have same : (Char.ofNat b.toNat).toNat = b.toNat := by
      rw [Char.ofNat, dif_pos (.inl (Nat.lt_trans small (by decide)))]
      rfl
    have one : String.utf8EncodeChar (Char.ofNat b.toNat) = [b] := by
      obtain ⟨-, form⟩ | ⟨two, -⟩ | ⟨three, -⟩ | ⟨four, -⟩ := Utf8.encode_forms (Char.ofNat b.toNat)
      · rw [form, same, UInt8.ofNat_toNat]
      all_goals omega
    rw [List.flatMap_cons, one, ih fun b member => plain b (by simp [member])]
    rfl

/-- Every code is read as it is written. -/
theorem Code.ofText_number (c : Code) : Code.ofText (toString c.number) = c := by
  cases c <;> decide

/-- Headers that tell of a status: its code in decimal, and its message in percent encoding. An empty
message may be left out. -/
structure Headers.Tell (hs : Headers) (s : Status) : Prop where
  code : hs.first? statusHeader = some (toString s.code.number)
  message : Percent.Encodes (Utf8.encode ((hs.first? messageHeader).getD "")) (Utf8.encode s.message)

/-- A status is read as it was told. -/
theorem Headers.Tell.status {hs : Headers} {s : Status} (told : hs.Tell s) :
    Status.ofHeaders? hs = some s := by
  simp only [Status.ofHeaders?, told.code, told.message.decode, Utf8.decode_encode,
    Code.ofText_number, Option.map_some]

namespace Status

/-- A status is told as a gateway writes it. -/
theorem statusHeaders_tell (s : Status) : (Gateway.statusHeaders s).Tell s := by
  have other : (statusHeader == messageHeader) = false := by decide
  refine ⟨rfl, ?_⟩
  by_cases empty : s.message.isEmpty
  · have silent : (Gateway.statusHeaders s).first? messageHeader = none := by
      simp only [Gateway.statusHeaders, empty, ↓reduceIte, Headers.first?, List.find?_cons, other,
        List.find?_nil, Option.map_none]
    rw [silent, String.isEmpty_iff.mp empty]
    exact .nil
  · have written : (Gateway.statusHeaders s).first? messageHeader = some (String.ofList
        ((Percent.encode (Utf8.encode s.message)).map fun b => Char.ofNat b.toNat)) := by
      simp only [Gateway.statusHeaders, empty, Bool.false_eq_true, ↓reduceIte, Headers.first?,
        List.find?_cons, other, beq_self_eq_true, Option.map_some]
    rw [written, Option.getD_some, Utf8.encode_ofBytes (Percent.encode_ascii _)]
    exact Percent.encode_encodes _

/-- A status is read as it was written. -/
theorem ofHeaders?_statusHeaders (s : Status) : ofHeaders? (Gateway.statusHeaders s) = some s :=
  s.statusHeaders_tell.status

theorem statusHeaders_lowered (s : Status) :
    (Gateway.statusHeaders s).lowered = Gateway.statusHeaders s := by
  have code : Headers.lower statusHeader = statusHeader := by decide
  have message : Headers.lower messageHeader = messageHeader := by decide
  unfold Gateway.statusHeaders
  split <;> simp only [Headers.lowered, List.map_cons, List.map_nil, code, message]

end Status
end GatewayPing
