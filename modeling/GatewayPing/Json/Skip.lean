import GatewayPing.Json.Scan

/-! Passing over a value that nobody asked for. Its brackets, numerals, literals and escapes must be
well formed; its strings need not spell text. The brackets still open are kept on a stack, so that
nesting has no limit. -/
namespace GatewayPing.Json

/-- The two kinds of brackets. -/
inductive Bracket where
  | list
  | object
  deriving DecidableEq, Repr

namespace Bracket

/-- The byte that closes a bracket. -/
def close : Bracket → UInt8
  | .list => byte ']'
  | .object => byte '\x7d'

/-- The fault of a text that ends before the bracket is closed. -/
def unclosed : Bracket → Reason
  | .list => .endOfList
  | .object => .endOfObject

/-- The fault of a value that neither a comma nor the closing bracket follows. -/
def unseparated : Bracket → Reason
  | .list => .expectedListEnd
  | .object => .expectedObjectEnd

end Bracket

/-- Passes over the letter after a backslash and the digits that belong to it. -/
def skipEscape : Bytes → Except Fault Bytes
  | [] => .error ⟨.endOfString, 0⟩
  | b :: s =>
    if (shortEscape? b).isSome then .ok s
    else if b == byte 'u' then (takeHex s).map (·.2)
    else .error ⟨.invalidEscape, s.length⟩

private theorem skipEscape_lt {s rest : Bytes} (skipped : skipEscape s = .ok rest) :
    rest.length < s.length := by
  unfold skipEscape at skipped
  have shorter {t r n} (h : takeHex t = .ok (n, r)) := takeHex_lt h
  split at skipped
  · cases skipped
  · rename_i b s
    split at skipped
    · cases skipped; exact Nat.lt_succ_self _
    · split at skipped
      · rcases h : takeHex s with e | ⟨n, r⟩ <;> rw [h] at skipped <;>
          simp only [Except.map, Except.ok.injEq, reduceCtorEq] at skipped
        have := shorter h
        grind
      · cases skipped

/-- Passes over a string up to its closing quote. -/
def skipString (s : Bytes) : Except Fault Bytes :=
  match s with
  | [] => .error ⟨.endOfString, 0⟩
  | b :: s =>
    if b == byte '"' then .ok s
    else if b == byte '\\' then
      match _ : skipEscape s with
      | .error e => .error e
      | .ok rest => skipString rest
    else if b < 32 then .error ⟨.controlCharacter, s.length + 1⟩
    else skipString s
termination_by s.length
decreasing_by
  · exact Nat.lt_succ_of_lt (skipEscape_lt (by assumption))
  · exact Nat.lt_succ_self _

private theorem skipString_lt {s rest : Bytes} (skipped : skipString s = .ok rest) :
    rest.length < s.length := by
  fun_induction skipString s with
  | case1 => cases skipped
  | case2 => cases skipped; exact Nat.lt_succ_self _
  | case3 => cases skipped
  | case4 b s _ _ tail escape ih =>
    exact Nat.lt_succ_of_lt (Nat.lt_trans (ih skipped) (skipEscape_lt escape))
  | case5 => cases skipped
  | case6 b s _ _ _ ih => exact Nat.lt_succ_of_lt (ih skipped)

/-- Takes the colon between a name and its value. -/
def takeColon (s : Bytes) : Except Fault Bytes :=
  match skipBlank s with
  | [] => .error ⟨.endOfObject, 0⟩
  | b :: rest => if b == byte ':' then .ok rest else .error ⟨.expectedColon, rest.length⟩

theorem takeColon_lt {s rest : Bytes} (taken : takeColon s = .ok rest) :
    rest.length < s.length := by
  have bound := skipBlank_le s
  unfold takeColon at taken
  grind

/-- Passes over the name of a member and its colon. -/
def skipName (s : Bytes) : Except Fault Bytes :=
  match skipBlank s with
  | [] => .error ⟨.endOfObject, 0⟩
  | b :: rest =>
    if b == byte '"' then
      match skipString rest with
      | .error e => .error e
      | .ok rest => takeColon rest
    else .error ⟨.keyNotString, rest.length⟩

private theorem skipName_lt {s rest : Bytes} (skipped : skipName s = .ok rest) :
    rest.length < s.length := by
  have bound := skipBlank_le s
  unfold skipName at skipped
  have string {t r} (h : skipString t = .ok r) := skipString_lt h
  have colon {t r} (h : takeColon t = .ok r) := takeColon_lt h
  grind

/-- What a scan of a value's first byte leads to. -/
inductive Opening where
  /-- The value was a literal, a numeral or a string and is over. -/
  | scalar (rest : Bytes)
  /-- The value is a list or an object and goes on. -/
  | bracket (b : Bracket) (rest : Bytes)

/-- The bytes after an opening. -/
def Opening.rest : Opening → Bytes
  | .scalar rest => rest
  | .bracket _ rest => rest

/-- Passes over a scalar value or an opening bracket. -/
def skipOpening (s : Bytes) : Except Fault Opening :=
  match skipBlank s with
  | [] => .error ⟨.endOfValue, 0⟩
  | b :: rest =>
    if b == byte 'n' then (takeLiteral ['u', 'l', 'l'] rest).map .scalar
    else if b == byte 't' then (takeLiteral ['r', 'u', 'e'] rest).map .scalar
    else if b == byte 'f' then (takeLiteral ['a', 'l', 's', 'e'] rest).map .scalar
    else if b == byte '-' || isDigit b then
      (takeNumeral .invalidNumber (b :: rest)).map fun (_, rest) => .scalar rest
    else if b == byte '"' then (skipString rest).map .scalar
    else if b == byte '[' then .ok (.bracket .list rest)
    else if b == byte '\x7b' then .ok (.bracket .object rest)
    else .error ⟨.expectedValue, rest.length⟩

private theorem skipOpening_lt {s : Bytes} {o : Opening} (skipped : skipOpening s = .ok o) :
    o.rest.length < s.length := by
  have bound := skipBlank_le s
  unfold skipOpening at skipped
  split at skipped
  · cases skipped
  · rename_i b rest whole
    rw [whole, List.length_cons] at bound
    have literal {cs t} (h : (takeLiteral cs rest).map Opening.scalar = .ok t) :
        t.rest.length ≤ rest.length := by
      rcases hl : takeLiteral cs rest with e | r <;> rw [hl] at h <;>
        simp only [Except.map, Except.ok.injEq, reduceCtorEq] at h
      subst h
      exact takeLiteral_le hl
    split at skipped
    · have := literal skipped; omega
    split at skipped
    · have := literal skipped; omega
    split at skipped
    · have := literal skipped; omega
    split at skipped
    · rcases h : takeNumeral .invalidNumber (b :: rest) with e | ⟨n, r⟩ <;> rw [h] at skipped <;>
        simp only [Except.map, Except.ok.injEq, reduceCtorEq] at skipped
      subst skipped
      have := takeNumeral_lt h
      simp only [List.length_cons, Opening.rest] at *
      omega
    split at skipped
    · rcases h : skipString rest with e | r <;> rw [h] at skipped <;>
        simp only [Except.map, Except.ok.injEq, reduceCtorEq] at skipped
      subst skipped
      have := skipString_lt h
      simp only [Opening.rest]
      omega
    split at skipped
    · cases skipped; exact bound
    split at skipped
    · cases skipped; exact bound
    · cases skipped

mutual

/-- Passes over a value inside the given open brackets, and over all that follows up to the end of
the outermost one. -/
def skipWithin (opened : List Bracket) (s : Bytes) : Except Fault Bytes :=
  match _ : skipOpening s with
  | .error e => .error e
  | .ok (.scalar rest) => skipAfter opened rest
  | .ok (.bracket b rest) =>
    match _ : skipBlank rest with
    | [] => .error ⟨b.unclosed, 0⟩
    | c :: tail => if c == b.close then skipAfter opened tail else skipMember b opened (c :: tail)
termination_by (s.length, 0)
decreasing_by
  · exact .left _ _ (skipOpening_lt (o := .scalar rest) (by assumption))
  · have inside := skipOpening_lt (o := .bracket b rest) (by assumption)
    have blank : tail.length < rest.length := skipBlank_lt (by assumption)
    exact .left _ _ (Nat.lt_trans blank inside)
  · have inside := skipOpening_lt (o := .bracket b rest) (by assumption)
    have blank : tail.length < rest.length := skipBlank_lt (by assumption)
    exact .left _ _ (Nat.lt_of_le_of_lt (Nat.succ_le_of_lt blank) inside)

/-- Passes over the next value of a list, or the next name and value of an object. -/
def skipMember (inside : Bracket) (opened : List Bracket) (s : Bytes) : Except Fault Bytes :=
  match inside with
  | .list => skipWithin (.list :: opened) s
  | .object =>
    match _ : skipName s with
    | .error e => .error e
    | .ok rest => skipWithin (.object :: opened) rest
termination_by (s.length, 1)
decreasing_by
  · exact .right _ (by decide)
  · exact .left _ _ (skipName_lt (by assumption))

/-- Goes on after a value inside the given open brackets. -/
def skipAfter (opened : List Bracket) (s : Bytes) : Except Fault Bytes :=
  match opened with
  | [] => .ok s
  | b :: opened =>
    match _ : skipBlank s with
    | [] => .error ⟨b.unclosed, 0⟩
    | c :: tail =>
      if c == byte ',' then skipMember b opened tail
      else if c == b.close then skipAfter opened tail
      else .error ⟨b.unseparated, tail.length⟩
termination_by (s.length, 2)
decreasing_by
  all_goals exact .left _ _ (skipBlank_lt (by assumption))

end

/-- Passes over one value. -/
def skipValue (s : Bytes) : Except Fault Bytes := skipWithin [] s

private theorem skip_shorter (n : Nat) :
    (∀ opened s rest, s.length ≤ n → skipWithin opened s = .ok rest → rest.length < s.length) ∧
    (∀ inside opened s rest, s.length ≤ n → skipMember inside opened s = .ok rest →
      rest.length < s.length) ∧
    (∀ opened s rest, s.length ≤ n → skipAfter opened s = .ok rest → rest.length ≤ s.length) := by
  induction n with
  | zero =>
    refine ⟨?_, ?_, ?_⟩
    · intro opened s rest bound skipped
      cases List.length_eq_zero_iff.mp (Nat.le_zero.mp bound)
      simp [skipWithin, skipOpening, skipBlank] at skipped
    · intro inside opened s rest bound skipped
      cases List.length_eq_zero_iff.mp (Nat.le_zero.mp bound)
      cases inside <;> simp [skipMember, skipWithin, skipOpening, skipName, skipBlank] at skipped
    · intro opened s rest bound skipped
      cases List.length_eq_zero_iff.mp (Nat.le_zero.mp bound)
      cases opened <;> simp [skipAfter, skipBlank] at skipped
      simp [← skipped]
  | succ n ih =>
    obtain ⟨within, member, after⟩ := ih
    have within' : ∀ opened s rest, s.length ≤ n + 1 → skipWithin opened s = .ok rest →
        rest.length < s.length := by
      intro opened s rest bound skipped
      rw [skipWithin] at skipped
      split at skipped
      · cases skipped
      · rename_i inner opening
        have inside := skipOpening_lt opening
        have := after _ _ _ (Nat.le_of_lt_succ (Nat.lt_of_lt_of_le inside bound)) skipped
        exact Nat.lt_of_le_of_lt this inside
      · rename_i b inner opening
        have inside : inner.length < s.length := skipOpening_lt opening
        split at skipped
        · cases skipped
        · rename_i c tail blank
          have shorter := skipBlank_lt blank
          split at skipped
          · have := after _ _ _ (by omega) skipped
            omega
          · have := member _ _ _ _ (by simp only [List.length_cons]; omega) skipped
            simp only [List.length_cons] at this
            omega
    refine ⟨within', ?_, ?_⟩
    · intro inside opened s rest bound skipped
      rw [skipMember.eq_def] at skipped
      split at skipped
      · exact within' _ _ _ bound skipped
      · split at skipped
        · cases skipped
        · rename_i inner name
          have shorter := skipName_lt name
          have := within' _ _ _ (by omega) skipped
          omega
    · intro opened s rest bound skipped
      rw [skipAfter.eq_def] at skipped
      split at skipped
      · cases skipped; exact Nat.le_refl _
      · split at skipped
        · cases skipped
        · rename_i c tail blank
          have shorter := skipBlank_lt blank
          split at skipped
          · have := member _ _ _ _ (by omega) skipped
            omega
          · split at skipped
            · have := after _ _ _ (by omega) skipped
              omega
            · cases skipped

theorem skipValue_lt {s rest : Bytes} (skipped : skipValue s = .ok rest) :
    rest.length < s.length :=
  (skip_shorter s.length).1 [] s rest (Nat.le_refl _) skipped

end GatewayPing.Json
