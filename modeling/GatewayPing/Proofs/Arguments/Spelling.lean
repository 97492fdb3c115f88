import GatewayPing.Proofs.Arguments.Entries
import Mathlib.Data.List.TakeDrop

/-! How entries are written. An option takes its value from the word after its name or from behind
`=`; a word that is neither an option nor a value is an input. After two hyphens, which may follow
the word `send` only, every word is an input (`Sends`). -/
namespace GatewayPing.Arguments

/-- A text that is no option by its form: it does not begin with a hyphen, or is just that. -/
def Bare (text : String) : Prop := text.toList.head? = some '-' → text = "-"

instance (text : String) : Decidable (Bare text) :=
  inferInstanceAs (Decidable (text.toList.head? = some '-' → text = "-"))

def Valued.name : Valued → String
  | .url => "url"
  | .config => "config"
  | .method => "method"

/-- The word that asks for an option. -/
def Valued.word (o : Valued) : String := "--" ++ o.name

/-- The words by which an entry is given. -/
inductive Entry.Spelled : Entry → List String → Prop where
  | apart (o : Valued) {value : String} (bare : Bare value) :
      Spelled (.option o value) [o.word, value]
  | joined (o : Valued) (value : String) : Spelled (.option o value) [o.word ++ "=" ++ value]
  | binary : Spelled .binary ["--binary"]
  | input {text : String} (bare : Bare text) : Spelled (.input text) [text]

/-- The places where an entry may be given: the address and the file anywhere, the flag after a
command word, the method and an input after `send`. -/
def Entry.Fits (scope : Scope) : Entry → Prop
  | .option o _ => o = .method → scope = .send
  | .binary => scope ≠ .before
  | .input _ => scope = .send

instance (scope : Scope) : (entry : Entry) → Decidable (entry.Fits scope)
  | .option o _ => inferInstanceAs (Decidable (o = .method → scope = .send))
  | .binary => inferInstanceAs (Decidable (scope ≠ .before))
  | .input _ => inferInstanceAs (Decidable (scope = .send))

/-- Entries are given by words, in this order. -/
inductive Spells (scope : Scope) : List Entry → List String → Prop where
  | nil : Spells scope [] []
  | cons {entry : Entry} {words : List String} {es : List Entry} {later : List String}
      (first : entry.Spelled words) (fits : entry.Fits scope) (rest : Spells scope es later) :
      Spells scope (entry :: es) (words ++ later)

/-- What may follow the word `send`. -/
inductive Follows : List Entry → List String → Prop where
  | inOrder {es : List Entry} {words : List String} (spells : Spells .send es words) :
      Follows es words
  /-- After two hyphens inputs may have any form. -/
  | separated {es : List Entry} {words : List String} (spells : Spells .send es words)
      (texts : List String) : Follows (es ++ texts.map .input) (words ++ "--" :: texts)

/-- The command line is the word `send` with entries before and after it. -/
inductive Sends (before after : List Entry) : List String → Prop where
  | intro {front back : List String} (first : Spells .before before front)
      (last : Follows after back) : Sends before after (front ++ "send" :: back)

/-- Nothing is given but what may be given on either side of the command word. -/
structure Global (es : List Entry) : Prop where
  method : values .method es = []
  binary : Entry.binary ∉ es
  input : inputs es = []

/-! Names. -/

section

variable {scope : Scope} {o : Valued} {name : String}

theorem Valued.ofName?_eq_some_iff :
    ofName? scope name = some o ↔ name = o.name ∧ (o = .method → scope = .send) := by
  constructor
  · intro found
    unfold ofName? at found
    split at found
    · cases found
      exact ⟨‹_›, nofun⟩
    · split at found
      · cases found
        exact ⟨‹_›, nofun⟩
      · split at found
        · rename_i asked
          cases found
          simp only [Bool.and_eq_true, decide_eq_true_eq] at asked
          exact ⟨asked.1, fun _ => asked.2⟩
        · cases found
  · rintro ⟨rfl, fits⟩
    cases o with
    | url => rfl
    | config => rfl
    | method => rw [fits rfl]; rfl

theorem Valued.ofName?_binary : ofName? scope "binary" = none := by
  cases scope <;> decide

theorem Flag.ofName?_binary : ofName? scope "binary" = some .binary ↔ scope ≠ .before := by
  cases scope <;> decide

theorem Flag.eq_of_ofName? (found : ofName? scope name = some .binary) :
    name = "binary" ∧ scope ≠ .before := by
  unfold ofName? at found
  split at found
  · cases found
  · split at found
    · cases found
    · split at found
      · rename_i asked
        simpa using asked
      · cases found

end

/-! Forms. -/

section

variable {cs : List Char} {arg name text : String} {value : Option String}

/-- What stands behind the name of an option. -/
def behind (value : Option String) : List Char := value.elim [] ('=' :: ·.toList)

private theorem splitValue_behind (clean : '=' ∉ name.toList) (value : Option String) :
    splitValue (name.toList ++ behind value) = (name, value) := by
  have whole : ∀ c ∈ name.toList, (c != '=') = true := fun c member =>
    bne_iff_ne.mpr fun same => clean (same ▸ member)
  rw [splitValue, List.span_eq_takeWhile_dropWhile, List.takeWhile_append_of_pos whole,
    List.dropWhile_append_of_pos whole]
  cases value <;> simp [behind]

private theorem eq_of_splitValue (split : splitValue cs = (name, value)) :
    cs = name.toList ++ behind value := by
  have whole := List.takeWhile_append_dropWhile (p := (· != '=')) (l := cs)
  rw [splitValue, List.span_eq_takeWhile_dropWhile] at split
  cases rest : cs.dropWhile (· != '=') with
  | nil =>
    rw [rest] at split whole
    cases split
    simpa [behind] using whole.symm
  | cons c back =>
    have stop : c = '=' := by
      have := List.head?_dropWhile_not (· != '=') cs
      simpa [rest] using this
    rw [rest] at split whole
    cases split
    subst stop
    simpa [behind] using whole.symm

theorem ofArgument_plain : Word.ofArgument text = .plain ↔ Bare text := by
  rw [Bare, ← String.toList_inj, Word.ofArgument]
  split
  case h_4 cs _ _ other =>
    refine iff_of_true rfl fun hyphen => ?_
    cases whole : text.toList with
    | nil => simp [whole] at hyphen
    | cons c rest =>
      obtain rfl : c = '-' := by simpa [whole] using hyphen
      cases rest with
      | nil => rfl
      | cons d rest => exact absurd whole (other d rest)
  all_goals simp_all

theorem eq_of_ofArgument_separator (form : Word.ofArgument arg = .separator) : arg = "--" := by
  rw [← String.toList_inj]
  unfold Word.ofArgument at form
  split at form <;> first | assumption | cases form

private theorem eq_of_ofArgument_long (form : Word.ofArgument arg = .long name value) :
    arg.toList = '-' :: '-' :: (name.toList ++ behind value) := by
  unfold Word.ofArgument at form
  split at form
  case h_2 cs _ whole =>
    cases form
    rw [whole, ← eq_of_splitValue rfl]
  all_goals cases form

private theorem ofArgument_long (clean : '=' ∉ name.toList) (named : name ≠ "")
    (whole : arg.toList = '-' :: '-' :: (name.toList ++ behind value)) :
    Word.ofArgument arg = .long name value := by
  cases rest : name.toList ++ behind value with
  | nil => exact absurd (String.toList_eq_nil_iff.mp (List.append_eq_nil_iff.mp rest).1) named
  | cons c cs =>
    have split := splitValue_behind clean value
    rw [rest] at split
    simp only [Word.ofArgument, whole, rest, split]

theorem ofArgument_word (o : Valued) : Word.ofArgument o.word = .long o.name none := by
  cases o <;> decide

theorem ofArgument_joined (o : Valued) (value : String) :
    Word.ofArgument (o.word ++ "=" ++ value) = .long o.name (some value) := by
  refine ofArgument_long (by cases o <;> decide) (by cases o <;> decide) ?_
  simp [Valued.word, behind]

theorem word_of_form {o : Valued} (form : Word.ofArgument arg = .long o.name none) :
    arg = o.word := by
  rw [← String.toList_inj, eq_of_ofArgument_long form]
  simp [Valued.word, behind]

theorem joined_of_form {o : Valued} {value : String}
    (form : Word.ofArgument arg = .long o.name (some value)) : arg = o.word ++ "=" ++ value := by
  rw [← String.toList_inj, eq_of_ofArgument_long form]
  simp [Valued.word, behind]

theorem binary_of_form (form : Word.ofArgument arg = .long "binary" none) : arg = "--binary" := by
  rw [← String.toList_inj, eq_of_ofArgument_long form]
  rfl

end

theorem Spells.global {es : List Entry} {words : List String} (spells : Spells .before es words) :
    Global es := by
  induction spells with
  | nil => exact ⟨rfl, List.not_mem_nil, rfl⟩
  | @cons entry front es later first fits more ih =>
    cases entry with
    | option o value =>
      have elsewhere : o ≠ .method := fun same => nomatch fits same
      exact ⟨by simp [elsewhere, ih.method], by simp [ih.binary], by simp [ih.input]⟩
    | binary => exact absurd rfl fits
    | input text => cases fits

end GatewayPing.Arguments
