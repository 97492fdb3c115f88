import GatewayPing.Protobuf.Wire

/-! Passing over the value of an unknown field. A group holds fields of its own up to the end mark
with its number; the numbers of the groups still open are kept on a stack. -/
namespace GatewayPing.Protobuf

/-- The number of groups inside of which no further field is read. -/
def maxDepth : Nat := 100

/-- Passes over a value that is no group. -/
def skipScalar (wire : WireType) (s : Bytes) : Except Cause Bytes :=
  match wire with
  | .varint => (takeVarint s).map (·.2)
  | .fixed64 => (takeBytes 8 s).map (·.2)
  | .fixed32 => (takeBytes 4 s).map (·.2)
  | .delimited => (takeDelimited s).map (·.2)
  | .startGroup | .endGroup => .error .unexpectedEndGroup

private theorem skipScalar_le {wire : WireType} {s rest : Bytes}
    (skipped : skipScalar wire s = .ok rest) : rest.length ≤ s.length := by
  unfold skipScalar at skipped
  split at skipped
  · rcases h : takeVarint s with e | ⟨n, r⟩ <;> rw [h] at skipped <;> cases skipped
    exact Nat.le_of_lt (takeVarint_lt h)
  · rcases h : takeBytes 8 s with e | ⟨n, r⟩ <;> rw [h] at skipped <;> cases skipped
    exact takeBytes_le h
  · rcases h : takeBytes 4 s with e | ⟨n, r⟩ <;> rw [h] at skipped <;> cases skipped
    exact takeBytes_le h
  · rcases h : takeDelimited s with e | ⟨n, r⟩ <;> rw [h] at skipped <;> cases skipped
    exact Nat.le_of_lt (takeDelimited_lt h)
  · cases skipped
  · cases skipped

/-- Passes over the fields of the open groups, innermost first, up to the end of the outermost. -/
def skipGroups (opened : List Nat) (s : Bytes) : Except Cause Bytes :=
  match opened with
  | [] => .ok s
  | number :: outer =>
    match _ : takeKey s with
    | .error e => .error e
    | .ok (key, rest) =>
      if key.wire = .endGroup then
        if key.number = number then skipGroups outer rest else .error .unexpectedEndGroup
      else if maxDepth ≤ outer.length + 1 then .error .tooDeep
      else if key.wire = .startGroup then skipGroups (key.number :: number :: outer) rest
      else
        match _ : skipScalar key.wire rest with
        | .error e => .error e
        | .ok rest => skipGroups (number :: outer) rest
termination_by s.length
decreasing_by
  · exact takeKey_lt (by assumption)
  · exact takeKey_lt (by assumption)
  · exact Nat.lt_of_le_of_lt (skipScalar_le (by assumption)) (takeKey_lt (by assumption))

private theorem skipGroups_le {opened : List Nat} {s rest : Bytes}
    (skipped : skipGroups opened s = .ok rest) : rest.length ≤ s.length := by
  fun_induction skipGroups opened s with
  | case1 => cases skipped; exact Nat.le_refl _
  | case2 => cases skipped
  | case3 s outer key tail taken _ ih =>
    exact Nat.le_of_lt (Nat.lt_of_le_of_lt (ih skipped) (takeKey_lt taken))
  | case4 => cases skipped
  | case5 => cases skipped
  | case6 s number outer key tail taken _ _ _ ih =>
    exact Nat.le_of_lt (Nat.lt_of_le_of_lt (ih skipped) (takeKey_lt taken))
  | case7 => cases skipped
  | case8 s number outer key tail taken _ _ _ inner scalar ih =>
    exact Nat.le_of_lt (Nat.lt_of_le_of_lt (Nat.le_trans (ih skipped) (skipScalar_le scalar))
      (takeKey_lt taken))

/-- Passes over the value after a key. -/
def skipField (key : Key) (s : Bytes) : Except Cause Bytes :=
  match key.wire with
  | .startGroup => skipGroups [key.number] s
  | wire => skipScalar wire s

theorem skipField_le {key : Key} {s rest : Bytes} (skipped : skipField key s = .ok rest) :
    rest.length ≤ s.length := by
  unfold skipField at skipped
  split at skipped
  · exact skipGroups_le skipped
  · exact skipScalar_le skipped

end GatewayPing.Protobuf
