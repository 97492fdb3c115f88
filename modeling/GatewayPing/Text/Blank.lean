/-! White space in typed text. Blankness is the Unicode property White_Space; trimming removes
blanks from the ends only, and the first blank inside a text parts it in two. -/
namespace GatewayPing.Text

/-- The characters with the Unicode property White_Space. Control separators (U+001C to U+001F),
zero-width marks and the byte order mark are not among them. -/
def isBlank (c : Char) : Bool :=
  let n := c.toNat
  (9 ≤ n && n ≤ 13) || n == 32 || n == 0x85 || n == 0xA0 || n == 0x1680 ||
    (0x2000 ≤ n && n ≤ 0x200A) || n == 0x2028 || n == 0x2029 || n == 0x202F || n == 0x205F ||
    n == 0x3000

/-- The text from its first character that is not blank. -/
def trimStart (cs : List Char) : List Char := cs.dropWhile isBlank

/-- The text up to its last character that is not blank. -/
def trimEnd (cs : List Char) : List Char := (cs.reverse.dropWhile isBlank).reverse

/-- The text without the blanks at either end. -/
def trim (cs : List Char) : List Char := trimEnd (trimStart cs)

/-- What stands before the first character that satisfies `sep`, and what stands after it. -/
def splitAtFirst (sep : Char → Bool) : List Char → Option (List Char × List Char)
  | [] => none
  | c :: cs =>
    if sep c then some ([], cs)
    else (splitAtFirst sep cs).map fun (before, after) => (c :: before, after)

/-- The part before the separator has none, and the parts put back together give the text. -/
theorem splitAtFirst_eq_some {sep : Char → Bool} {cs before after : List Char}
    (h : splitAtFirst sep cs = some (before, after)) :
    ∃ c, sep c = true ∧ cs = before ++ c :: after ∧ ∀ b ∈ before, sep b = false := by
  induction cs generalizing before with
  | nil => simp [splitAtFirst] at h
  | cons c cs ih =>
    by_cases hc : sep c
    · simp [splitAtFirst, hc] at h
      obtain ⟨rfl, rfl⟩ := h
      exact ⟨c, hc, rfl, by simp⟩
    · simp only [splitAtFirst, hc, Bool.false_eq_true, if_false, Option.map_eq_some_iff] at h
      obtain ⟨⟨b, a⟩, hsplit, heq⟩ := h
      simp only [Prod.mk.injEq] at heq
      obtain ⟨rfl, rfl⟩ := heq
      obtain ⟨d, hd, rfl, hb⟩ := ih hsplit
      exact ⟨d, hd, rfl, by simpa [hc] using hb⟩

end GatewayPing.Text
