import GatewayPing.Text.Blank

/-! Trimming. A text falls into blanks, what is left of it when it is trimmed, and blanks again;
what is left has no blank at either end, and there is only one such way to part a text
(`trimmed_iff`). -/
namespace GatewayPing.Text

/-- A row of blanks, which may be empty. -/
def Blanks (cs : List Char) : Prop := ∀ c ∈ cs, isBlank c = true

/-- A text with no blank at either end. -/
structure Tight (cs : List Char) : Prop where
  first : ∀ c ∈ cs.head?, isBlank c = false
  last : ∀ c ∈ cs.getLast?, isBlank c = false

/-- What a text consists of between the blanks at its ends. -/
structure Trimmed (cs text : List Char) : Prop where
  parts : ∃ before after, cs = before ++ text ++ after ∧ Blanks before ∧ Blanks after
  tight : Tight text

variable {cs text before after : List Char}

private theorem dropWhile_blanks (blanks : Blanks before) (rest : List Char) :
    (before ++ rest).dropWhile isBlank = rest.dropWhile isBlank :=
  List.dropWhile_append_of_pos blanks

theorem dropWhile_of_head? (first : ∀ c ∈ cs.head?, isBlank c = false) :
    cs.dropWhile isBlank = cs := by
  cases cs with
  | nil => rfl
  | cons c cs => exact List.dropWhile_cons_of_neg (by simp [first c rfl])

theorem Tight.around (first : Tight before) (filled : before ≠ []) (last : Tight after)
    (full : after ≠ []) (between : List Char) : Tight (before ++ between ++ after) where
  first c found := by
    refine first.first c ?_
    obtain ⟨b, before, rfl⟩ := List.exists_cons_of_ne_nil filled
    exact found
  last c found := by
    refine last.last c ?_
    rw [List.getLast?_append, List.getLast?_eq_some_getLast full] at found
    rw [List.getLast?_eq_some_getLast full]
    exact found

private theorem Blanks.reverse (blanks : Blanks cs) : Blanks cs.reverse :=
  fun c member => blanks c (List.mem_reverse.mp member)

theorem trimStart_blanks (blanks : Blanks before) (rest : List Char) :
    trimStart (before ++ rest) = trimStart rest :=
  dropWhile_blanks blanks rest

/-- Blanks around a text are trimmed, and nothing else is. -/
theorem trim_of_trimmed (trimmed : Trimmed cs text) : trim cs = text := by
  obtain ⟨⟨before, after, rfl, left, right⟩, first, last⟩ := trimmed
  cases text with
  | nil =>
    have all : Blanks (before ++ [] ++ after) := by
      simpa [Blanks, or_imp, forall_and] using And.intro left right
    have nothing := dropWhile_blanks all []
    rw [List.append_nil] at nothing
    rw [trim, trimStart, nothing]
    rfl
  | cons c text =>
    have start : trimStart (before ++ (c :: text) ++ after) = (c :: text) ++ after := by
      rw [List.append_assoc, trimStart_blanks left]
      exact dropWhile_of_head? first
    have ending : ((c :: text) ++ after).reverse.dropWhile isBlank = (c :: text).reverse := by
      rw [List.reverse_append, dropWhile_blanks right.reverse]
      exact dropWhile_of_head? (by simpa only [List.head?_reverse] using last)
    rw [trim, start, trimEnd, ending, List.reverse_reverse]

theorem blanks_takeWhile (cs : List Char) : Blanks (cs.takeWhile isBlank) :=
  List.all_eq_true.mp List.all_takeWhile

private theorem dropWhile_head? (cs : List Char) :
    ∀ c ∈ (cs.dropWhile isBlank).head?, isBlank c = false := by
  intro c found
  have none := List.head?_dropWhile_not isBlank cs
  rw [found] at none
  exact none

/-- Every text can be trimmed. -/
theorem trimmed_trim (cs : List Char) : Trimmed cs (trim cs) := by
  have start := List.takeWhile_append_dropWhile (p := isBlank) (l := cs)
  have ending := congrArg List.reverse
    (List.takeWhile_append_dropWhile (p := isBlank) (l := (trimStart cs).reverse))
  simp only [List.reverse_append, List.reverse_reverse] at ending
  refine ⟨⟨_, _, ?_, blanks_takeWhile cs, (blanks_takeWhile (trimStart cs).reverse).reverse⟩,
    ?_, ?_⟩
  · rw [List.append_assoc]
    exact (start.symm.trans (congrArg (cs.takeWhile isBlank ++ ·) ending.symm))
  · -- What is trimmed off the end leaves the first character alone.
    intro c found
    have whole : (trimStart cs).head? = some c := by
      rw [← ending, List.head?_append]
      exact congrArg (Option.or · _) found
    exact dropWhile_head? cs c whole
  · intro c found
    refine dropWhile_head? (trimStart cs).reverse c ?_
    simpa [trim, trimEnd] using found

theorem trimmed_iff : Trimmed cs text ↔ trim cs = text :=
  ⟨trim_of_trimmed, fun same => same ▸ trimmed_trim cs⟩

private theorem trim_eq_self (tight : Tight cs) : trim cs = cs :=
  trim_of_trimmed ⟨⟨[], [], by simp, by simp [Blanks], by simp [Blanks]⟩, tight⟩

theorem trim_trim (cs : List Char) : trim (trim cs) = trim cs :=
  trim_eq_self (trimmed_trim cs).tight

/-- Only blanks are trimmed to nothing. -/
theorem trim_eq_nil : trim cs = [] ↔ Blanks cs := by
  constructor
  · intro nothing
    obtain ⟨⟨before, after, same, left, right⟩, -⟩ := trimmed_iff.mpr nothing
    subst same
    simpa [Blanks, or_imp, forall_and] using And.intro left right
  · intro blanks
    exact trim_of_trimmed ⟨⟨cs, [], by simp, blanks, by simp [Blanks]⟩, by simp, by simp⟩

/-- A text is parted at a separator before which there is none. -/
theorem splitAtFirst_append {sep : Char → Bool} {c : Char}
    (clean : ∀ b ∈ before, sep b = false) (found : sep c = true) :
    splitAtFirst sep (before ++ c :: after) = some (before, after) := by
  induction before with
  | nil => simp [splitAtFirst, found]
  | cons b before ih =>
    have first : sep b = false := clean b (by simp)
    simp [splitAtFirst, first, ih fun b member => clean b (by simp [member])]

end GatewayPing.Text
