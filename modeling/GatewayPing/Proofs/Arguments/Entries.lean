import GatewayPing.Arguments

/-! What is given on one side of the command word, apart from how it is written and in which order.
Entries that give everything once say what they give (`Says`), and they say the same in any order;
other entries have a fault (`Fault`). Entries that are taken one after the other come to what they
say, or to a fault of theirs (`Says.take`). -/
namespace GatewayPing.Arguments

/-- Something that is given: an option with its value, the flag for the binary mode, or an input. -/
inductive Entry where
  | option (option : Valued) (value : String)
  | binary
  | input (text : String)
  deriving DecidableEq

/-- The values that an option is given. -/
def values (option : Valued) (es : List Entry) : List String :=
  es.filterMap fun
    | .option o value => if o = option then some value else none
    | _ => none

/-- The inputs that are given. -/
def inputs (es : List Entry) : List String :=
  es.filterMap fun
    | .input text => some text
    | _ => none

/-- The value that an option has, as it is written. -/
def Given.text? (g : Given) : Valued → Option String
  | .url => g.url
  | .config => g.config
  | .method => g.method.map Method.name

/-- Each option, the flag and an input are given once or not at all, with values that they can have,
and `g` is what they are given. -/
structure Says (es : List Entry) (g : Given) : Prop where
  options : ∀ option, values option es = (g.text? option).toList
  named : g.config ≠ some ""
  binary : es.count .binary = g.binary.toNat
  input : inputs es = g.input.toList

/-- An option or the flag is given twice. -/
def Twice (es : List Entry) : Prop :=
  (∃ option, 2 ≤ (values option es).length) ∨ 2 ≤ es.count .binary

instance (es : List Entry) : Decidable (Twice es) :=
  decidable_of_iff
    ((∃ option ∈ [Valued.url, .config, .method], 2 ≤ (values option es).length) ∨
      2 ≤ es.count .binary) <|
    or_congr_left <| exists_congr fun option => and_iff_right (by cases option <;> decide)

/-- What can be wrong with entries, and how it is called. -/
inductive Fault (es : List Entry) : Refusal → Prop where
  | repeated (twice : Twice es) : Fault es .repeated
  | unnamed (empty : "" ∈ values .config es) : Fault es .invalidValue
  | unknown {name : String} (given : name ∈ values .method es)
      (unknown : ∀ m : Method, name ≠ m.name) : Fault es .invalidValue
  | surplus (two : 2 ≤ (inputs es).length) : Fault es .unknownArgument

/-- What comes of entries is what they say, or else a fault that they have. -/
def Settles (es : List Entry) : Except Refusal Given → Prop
  | .ok g => Says es g
  | .error e => Fault es e

/-- Takes an entry, and checks its value at once. -/
def Given.take (g : Given) : Entry → Except Refusal Given
  | .option option value => g.set option value
  | .binary => if g.binary then .error .repeated else .ok { g with binary := true }
  | .input text =>
    if g.input.isSome then .error .unknownArgument else .ok { g with input := some text }

section

variable {es later : List Entry} {g g' : Given} {e : Refusal} {o : Valued} {value text : String}

/-! Entries one after the other. -/

@[simp] theorem values_nil : values o [] = [] := rfl

@[simp] theorem values_append : values o (es ++ later) = values o es ++ values o later :=
  List.filterMap_append

@[simp] theorem values_option (o o' : Valued) (value : String) (es : List Entry) :
    values o (.option o' value :: es) = (if o' = o then [value] else []) ++ values o es := by
  by_cases same : o' = o <;> simp [values, same]

@[simp] theorem values_binary : values o (.binary :: es) = values o es := rfl

@[simp] theorem values_input : values o (.input text :: es) = values o es := rfl

@[simp] theorem inputs_nil : inputs [] = [] := rfl

@[simp] theorem inputs_append : inputs (es ++ later) = inputs es ++ inputs later :=
  List.filterMap_append

@[simp] theorem inputs_option : inputs (.option o value :: es) = inputs es := rfl

@[simp] theorem inputs_binary : inputs (.binary :: es) = inputs es := rfl

@[simp] theorem inputs_input : inputs (.input text :: es) = text :: inputs es := rfl

theorem values_options (o o' : Valued) (given : List String) :
    values o (given.map (.option o')) = if o' = o then given else [] := by
  induction given with
  | nil => simp
  | cons value given ih =>
    rw [List.map_cons, values_option, ih]
    split <;> rfl

theorem inputs_options (o : Valued) (given : List String) :
    inputs (given.map (.option o)) = [] := by
  induction given with
  | nil => rfl
  | cons value given ih => exact ih

@[simp] theorem Given.text?_binary (b : Bool) :
    Given.text? { g with binary := b } o = g.text? o := by
  cases o <;> rfl

@[simp] theorem Given.text?_input (input : Option String) :
    Given.text? { g with input } o = g.text? o := by
  cases o <;> rfl

/-! What is wrong. -/

private theorem Twice.append (twice : Twice es) : Twice (es ++ later) := by
  obtain ⟨o, two⟩ | two := twice
  · exact .inl ⟨o, by rw [values_append, List.length_append]; omega⟩
  · exact .inr (by rw [List.count_append]; omega)

private theorem Twice.perm (twice : Twice es) (same : later.Perm es) : Twice later := by
  obtain ⟨o, two⟩ | two := twice
  · exact .inl ⟨o, (same.filterMap _).length_eq ▸ two⟩
  · exact .inr (same.count_eq _ ▸ two)

/-- What is wrong stays wrong when more is given. -/
theorem Fault.append (fault : Fault es e) : Fault (es ++ later) e := by
  cases fault with
  | repeated twice => exact .repeated twice.append
  | unnamed empty => exact .unnamed (by simp [empty])
  | unknown given unknown => exact .unknown (by simp [given]) unknown
  | surplus two => exact .surplus (by rw [inputs_append, List.length_append]; omega)

private theorem Fault.perm (fault : Fault es e) (same : later.Perm es) : Fault later e := by
  cases fault with
  | repeated twice => exact .repeated (twice.perm same)
  | unnamed empty => exact .unnamed ((same.filterMap _).mem_iff.mpr empty)
  | unknown given unknown => exact .unknown ((same.filterMap _).mem_iff.mpr given) unknown
  | surplus two => exact .surplus ((same.filterMap _).length_eq ▸ two)

theorem Fault.append_left (fault : Fault later e) : Fault (es ++ later) e :=
  fault.append.perm List.perm_append_comm

theorem Fault.twice (fault : Fault es .repeated) : Twice es := by
  cases fault with
  | repeated twice => exact twice

theorem Fault.exitCode (fault : Fault es e) : e.exitCode = 2 := by
  cases fault <;> rfl

/-! What is said. -/

theorem says_nil : Says [] {} where
  options o := by cases o <;> rfl
  named := nofun
  binary := rfl
  input := rfl

private theorem perm_toList {α : Type} {l : List α} {a : Option α} :
    l.Perm a.toList ↔ l = a.toList := by
  cases a with
  | none => exact List.perm_nil
  | some a => exact List.perm_singleton

/-- In another order entries say the same. -/
theorem Says.perm (said : Says es g) (same : later.Perm es) : Says later g where
  options o := perm_toList.mp (said.options o ▸ same.filterMap _)
  named := said.named
  binary := (same.count_eq _).trans said.binary
  input := perm_toList.mp (said.input ▸ same.filterMap _)

theorem Says.binary_iff (said : Says es g) : Entry.binary ∈ es ↔ g.binary = true := by
  rw [← List.count_pos_iff, said.binary]
  cases g.binary <;> simp

theorem Says.not_twice (said : Says es g) : ¬ Twice es := by
  rintro (⟨o, two⟩ | two)
  · rw [said.options] at two
    exact absurd (Option.length_toList_le (o := g.text? o)) (by omega)
  · rw [said.binary] at two
    exact absurd (Bool.toNat_le g.binary) (by omega)

theorem Says.known (said : Says es g) {name : String} (given : name ∈ values .method es) :
    ∃ m : Method, name = m.name := by
  rw [said.options, Option.mem_toList, Given.text?, Option.map_eq_some_iff] at given
  obtain ⟨m, -, rfl⟩ := given
  exact ⟨m, rfl⟩

/-- Entries that say something have no fault. -/
theorem Says.faultless (said : Says es g) : ¬ Fault es e := by
  rintro (twice | empty | ⟨given, unknown⟩ | two)
  · exact said.not_twice twice
  · rw [said.options, Option.mem_toList] at empty
    exact said.named empty
  · obtain ⟨m, rfl⟩ := said.known given
    exact unknown m rfl
  · rw [said.input] at two
    exact absurd (Option.length_toList_le (o := g.input)) (by omega)

/-! One entry more. -/

/-- An option that was not given before is given. -/
theorem Says.put (said : Says es g) (new : g.text? o = none) (put : g'.text? o = some value)
    (others : ∀ other, o ≠ other → g'.text? other = g.text? other) (named : g'.config ≠ some "")
    (binary : g'.binary = g.binary) (input : g'.input = g.input) :
    Says (es ++ [.option o value]) g' where
  options other := by
    by_cases same : o = other
    · subst same
      simp [said.options, new, put]
    · simp [said.options, others other same, same]
  named := named
  binary := by simp [said.binary, binary]
  input := by simp [said.input, input]

private theorem Says.again (said : Says es g) {before : String} (given : g.text? o = some before) :
    Fault (es ++ [.option o value]) .repeated :=
  .repeated (.inl ⟨o, by simp [said.options, given]⟩)

theorem Says.set (said : Says es g) (o : Valued) (value : String) :
    Settles (es ++ [.option o value]) (g.set o value) := by
  cases o with
  | url =>
    cases before : g.url with
    | some known =>
      rw [Given.set, before]
      exact said.again before
    | none =>
      rw [Given.set, before]
      refine said.put before rfl ?_ said.named rfl rfl
      intro other apart
      cases other with
      | url => exact absurd rfl apart
      | config => rfl
      | method => rfl
  | config =>
    cases before : g.config with
    | some known =>
      rw [Given.set, before]
      exact said.again before
    | none =>
      rw [Given.set, before]
      by_cases empty : value = ""
      · subst empty
        exact .unnamed (by simp)
      · have filled : value.isEmpty = false := by simpa using empty
        simp only [Option.isSome_none, Bool.false_eq_true, ↓reduceIte, filled]
        refine said.put before rfl ?_ (by simpa using empty) rfl rfl
        intro other apart
        cases other with
        | url => rfl
        | config => exact absurd rfl apart
        | method => rfl
  | method =>
    have text {m : Option Method} (same : g.method = m) : g.text? .method = m.map Method.name :=
      congrArg (Option.map Method.name) same
    cases before : g.method with
    | some known =>
      rw [Given.set, before]
      exact said.again (text before)
    | none =>
      rw [Given.set, before]
      cases found : Method.ofName? value with
      | none =>
        have given : value ∈ values .method (es ++ [.option .method value]) := by simp
        refine .unknown given ?_
        rintro m rfl
        cases found.symm.trans (Method.ofName?_name m)
      | some m =>
        have named : (some m).map Method.name = some value :=
          congrArg some (Method.ofName?_eq_some_iff.mp found).symm
        refine said.put (text before) named ?_ said.named rfl rfl
        intro other apart
        cases other with
        | url => rfl
        | config => rfl
        | method => exact absurd rfl apart

/-- An entry more is taken for what it says, or for a fault. -/
theorem Says.take (said : Says es g) (entry : Entry) :
    Settles (es ++ [entry]) (g.take entry) := by
  cases entry with
  | option o value => exact said.set o value
  | binary =>
    cases before : g.binary with
    | true =>
      simp only [Given.take, before, ↓reduceIte]
      exact .repeated (.inr (by simp [said.binary, before]))
    | false =>
      simp only [Given.take, before, Bool.false_eq_true, ↓reduceIte]
      exact
        { options := by simp [said.options]
          named := said.named
          binary := by simp [said.binary, before]
          input := by simp [said.input] }
  | input text =>
    cases before : g.input with
    | some known =>
      simp only [Given.take, before, Option.isSome_some, ↓reduceIte]
      exact .surplus (by simp [said.input, before])
    | none =>
      simp only [Given.take, before, Option.isSome_none, Bool.false_eq_true, ↓reduceIte]
      exact
        { options := by simp [said.options]
          named := said.named
          binary := by simp [said.binary]
          input := by simp [said.input, before] }

end

end GatewayPing.Arguments
