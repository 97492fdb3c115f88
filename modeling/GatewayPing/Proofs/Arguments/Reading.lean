import GatewayPing.Proofs.Arguments.Spelling

/-! Reading the words of one scope. The reader is one entry behind: the value of an option is
checked when the next entry comes (`Holds`). Words that give entries are read as these entries, or
else refused for a fault that these entries have (`readScope_spells`). -/
namespace GatewayPing.Arguments

/-- What a reader has taken up: entries that are settled, and it may be one option more, whose value
is not checked yet. -/
inductive Holds (plainOnly : Bool) : List Entry → State → Prop where
  | settled {es : List Entry} {g : Given} (said : Says es g) :
      Holds plainOnly es ⟨g, none, plainOnly⟩
  | pending {es : List Entry} {g : Given} (said : Says es g) (o : Valued) (value : String) :
      Holds plainOnly (es ++ [.option o value]) ⟨g, some ⟨o, some value⟩, plainOnly⟩

/-- Entries were read: the reader holds them, or it stopped for a fault that they have. -/
def Reads (plainOnly : Bool) (es : List Entry) : Except Refusal State → Prop
  | .ok st => Holds plainOnly es st
  | .error e => Fault es e

/-- Takes an entry that is complete, so that nothing is pending after it. -/
def State.take (st : State) (entry : Entry) : Except Refusal State := do
  let st ← st.settle
  let given ← st.given.take entry
  .ok { st with given }

section

variable {plainOnly : Bool} {es : List Entry} {st : State} {scope : Scope} {e : Refusal}

/-- To settle is to check the last value. -/
theorem Holds.settle (holds : Holds plainOnly es st) :
    (∃ g, st.settle = .ok ⟨g, none, plainOnly⟩ ∧ Says es g) ∨
      ∃ e, st.settle = .error e ∧ Fault es e := by
  cases holds with
  | settled said => exact .inl ⟨_, rfl, said⟩
  | @pending es g said o value =>
    have settles := said.set o value
    rw [State.settle]
    cases put : g.set o value with
    | ok g' =>
      rw [put] at settles
      exact .inl ⟨g', by simp only [put]; rfl, settles⟩
    | error e =>
      rw [put] at settles
      exact .inr ⟨e, by simp only [put]; rfl, settles⟩

private theorem Holds.take (holds : Holds plainOnly es st) (entry : Entry) :
    Reads plainOnly (es ++ [entry]) (st.take entry) := by
  rw [State.take]
  rcases holds.settle with ⟨g, settled, said⟩ | ⟨e, settled, fault⟩
  · have settles := said.take entry
    rw [settled]
    cases took : g.take entry with
    | ok g' =>
      rw [took] at settles
      simp only [bind, Except.bind, took]
      exact .settled settles
    | error e =>
      rw [took] at settles
      simp only [bind, Except.bind, took]
      exact settles
  · rw [settled]
    exact fault.append

private theorem flag_binary : st.flag .binary = st.take .binary := by
  rw [State.flag, State.take]
  cases st.settle with
  | error e => rfl
  | ok st =>
    simp only [bind, Except.bind, Given.take]
    split <;> rfl

private theorem long_binary (fits : scope ≠ .before) :
    st.long scope "binary" none = st.take .binary := by
  simp only [State.long, Valued.ofName?_binary, Flag.ofName?_binary.mpr fits]
  exact flag_binary

private theorem long_joined {o : Valued} (fits : o = .method → scope = .send) (value : String) :
    st.long scope o.name (some value) = st.take (.option o value) := by
  simp only [State.long, Valued.ofName?_eq_some_iff.mpr ⟨rfl, fits⟩]
  rfl

private theorem long_apart {o : Valued} (fits : o = .method → scope = .send) :
    st.long scope o.name none =
      st.settle.map fun st => { st with pending := some ⟨o, none⟩ } := by
  simp only [State.long, Valued.ofName?_eq_some_iff.mpr ⟨rfl, fits⟩]
  cases st.settle <;> rfl

private theorem Holds.input (holds : Holds plainOnly es st) :
    inputs es = st.given.input.toList := by
  cases holds with
  | settled said => exact said.input
  | pending said o value => simp [said.input]

/-- An input is taken up like any other entry, only that a second one is refused before the last
value is checked. -/
theorem Holds.plain (holds : Holds plainOnly es st) (text : String) :
    Reads plainOnly (es ++ [.input text]) (st.plain .send text) := by
  cases known : st.given.input with
  | some before =>
    simp only [State.plain, known, Option.isSome_some, ↓reduceIte]
    exact .surplus (by simp [holds.input, known])
  | none =>
    have same : st.plain .send text = st.take (.input text) := by
      rcases holds.settle with ⟨g, settled, said⟩ | ⟨e, settled, fault⟩
      · have none : g.input = none := by
          have := said.input.symm.trans holds.input
          rw [known] at this
          exact Option.toList_eq_nil_iff.mp this
        simp [State.plain, State.take, Given.take, known, settled, none, bind, Except.bind]
      · simp [State.plain, State.take, known, settled, bind, Except.bind]
    rw [same]
    exact holds.take _

end

/-! The reader, word by word. -/

section

variable {st : State} {scope : Scope} {arg : String} (rest : List String)
  (lasting : st.plainOnly = false)

include lasting

theorem readScope_separator (form : Word.ofArgument arg = .separator) :
    readScope scope st (arg :: rest) = readScope scope { st with plainOnly := true } rest := by
  simp only [readScope, lasting, Bool.false_eq_true, ↓reduceIte, form]

theorem readScope_long {name : String} {value : Option String}
    (form : Word.ofArgument arg = .long name value) :
    readScope scope st (arg :: rest) = st.long scope name value >>= (readScope scope · rest) := by
  simp only [readScope, lasting, Bool.false_eq_true, ↓reduceIte, form]

theorem readScope_short {letter : Char} (form : Word.ofArgument arg = .short letter) :
    readScope scope st (arg :: rest) = st.short scope letter >>= (readScope scope · rest) := by
  simp only [readScope, lasting, Bool.false_eq_true, ↓reduceIte, form]

/-- An option without a value takes the next word, if this is bare. -/
theorem readScope_value {o : Valued} (form : Word.ofArgument arg = .plain)
    (hungry : st.pending = some ⟨o, none⟩) :
    readScope scope st (arg :: rest) =
      readScope scope { st with pending := some ⟨o, some arg⟩ } rest := by
  simp only [readScope, lasting, Bool.false_eq_true, ↓reduceIte, form, hungry]

end

/-! Words that give entries. -/

section

variable {es given : List Entry} {entry : Entry} {st : State} {scope : Scope}
  {words : List String}

/-- The words of an entry are read as this entry, whatever follows. -/
theorem readScope_entry (holds : Holds false es st) (fits : entry.Fits scope)
    (spelled : entry.Spelled words) (rest : List String) :
    ∃ result, Reads false (es ++ [entry]) result ∧
      readScope scope st (words ++ rest) = result >>= (readScope scope · rest) := by
  have lasting : st.plainOnly = false := by cases holds <;> rfl
  cases spelled with
  | joined o value =>
    refine ⟨st.take (.option o value), holds.take _, ?_⟩
    rw [← long_joined fits]
    exact readScope_long rest lasting (ofArgument_joined o value)
  | binary =>
    refine ⟨st.take .binary, holds.take _, ?_⟩
    rw [← long_binary fits]
    exact readScope_long rest lasting (by decide)
  | @apart o value bare =>
    have asked : readScope scope st (o.word :: value :: rest) =
        st.long scope o.name none >>= (readScope scope · (value :: rest)) :=
      readScope_long _ lasting (ofArgument_word o)
    rw [long_apart fits] at asked
    rcases holds.settle with ⟨g, settled, said⟩ | ⟨e, settled, fault⟩
    · rw [settled] at asked
      have answered : readScope scope ⟨g, some ⟨o, none⟩, false⟩ (value :: rest) =
          readScope scope ⟨g, some ⟨o, some value⟩, false⟩ rest :=
        readScope_value rest rfl (ofArgument_plain.mpr bare) rfl
      exact ⟨.ok ⟨g, some ⟨o, some value⟩, false⟩, .pending said o value, asked.trans answered⟩
    · rw [settled] at asked
      exact ⟨.error e, fault.append, asked⟩
  | @input text bare =>
    obtain rfl : scope = .send := fits
    refine ⟨st.plain .send text, holds.plain text, ?_⟩
    cases holds <;>
      simp [readScope, ofArgument_plain.mpr bare]

theorem readScope_spells (holds : Holds false es st) (spells : Spells scope given words)
    (rest : List String) :
    ∃ result, Reads false (es ++ given) result ∧
      readScope scope st (words ++ rest) = result >>= (readScope scope · rest) := by
  induction spells generalizing es st with
  | nil => exact ⟨.ok st, by rwa [List.append_nil], rfl⟩
  | @cons entry words given later first fits more ih =>
    obtain ⟨result, reads, same⟩ := readScope_entry holds fits first (later ++ rest)
    rw [List.append_assoc, same, List.append_cons]
    cases result with
    | ok st' => exact ih reads
    | error e => exact ⟨.error e, reads.append, rfl⟩

/-- After two hyphens all words are inputs. -/
theorem readScope_texts (holds : Holds true es st) (texts : List String) :
    ∃ result, Reads true (es ++ texts.map .input) result ∧
      readScope .send st texts = result.map (·, none) := by
  induction texts generalizing es st with
  | nil => exact ⟨.ok st, by rwa [List.map_nil, List.append_nil], rfl⟩
  | cons text texts ih =>
    have plainOnly : st.plainOnly = true := by cases holds <;> rfl
    have reads := holds.plain text
    simp only [readScope, plainOnly, ↓reduceIte]
    rw [List.map_cons, List.append_cons]
    cases taken : st.plain .send text with
    | ok st' =>
      rw [taken] at reads
      exact ih reads
    | error e =>
      rw [taken] at reads
      exact ⟨.error e, reads.append, rfl⟩

/-- The word `send` is where a reader stops that is not after `send` already. -/
theorem readScope_send (holds : Holds false es st) (rest : List String) :
    readScope .before st ("send" :: rest) = .ok (st, some (.send, rest)) := by
  have form : Word.ofArgument "send" = .plain := by decide
  cases holds <;> simp [readScope, form, Scope.ofWord?]

theorem readScope_follows (follows : Follows given words) :
    ∃ plainOnly result, Reads plainOnly given result ∧
      readScope .send {} words = result.map (·, none) := by
  cases follows with
  | inOrder spells =>
    obtain ⟨result, reads, same⟩ := readScope_spells (.settled says_nil) spells []
    refine ⟨false, result, reads, ?_⟩
    rw [List.append_nil] at same
    rw [same]
    cases result <;> rfl
  | @separated given words spells texts =>
    obtain ⟨result, reads, same⟩ :=
      readScope_spells (.settled says_nil) spells ("--" :: texts)
    rw [same]
    cases result with
    | error e => exact ⟨true, .error e, reads.append, rfl⟩
    | ok st =>
      have lasting : st.plainOnly = false := by cases reads <;> rfl
      have holds : Holds true given { st with plainOnly := true } := by
        cases reads with
        | settled said => exact .settled said
        | pending said o value => exact .pending said o value
      obtain ⟨result, reads, same⟩ := readScope_texts holds texts
      refine ⟨true, result, reads, ?_⟩
      have form : Word.ofArgument "--" = .separator := by decide
      rw [← same]
      exact readScope_separator texts lasting form

end

end GatewayPing.Arguments
