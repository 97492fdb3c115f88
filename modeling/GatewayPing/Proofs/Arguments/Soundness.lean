import GatewayPing.Proofs.Arguments.Reading

/-! No other words are read. A reader that comes to the end of a command line, and has no option
left that lacks its value, has read words that give entries (`parses_of_read`). -/
namespace GatewayPing

theorem Except.bind_eq_ok {ε α β : Type} {r : Except ε α} {f : α → Except ε β} {b : β} :
    r >>= f = .ok b ↔ ∃ a, r = .ok a ∧ f a = .ok b := by
  cases r with
  | error e => exact ⟨nofun, fun ⟨_, same, _⟩ => nomatch same⟩
  | ok a => exact ⟨fun same => ⟨a, rfl, same⟩, fun ⟨_, same, went⟩ => Except.ok.inj same ▸ went⟩

namespace Arguments

/-- The option that was met last has no value yet. -/
def State.Hungry (st : State) : Prop := ∃ o, st.pending = some ⟨o, none⟩

/-- A step that leaves no option without its value, neither before nor after. -/
structure Fed (st st' : State) : Prop where
  before : ¬ st.Hungry
  after : ¬ st'.Hungry
  lasting : st'.plainOnly = st.plainOnly

/-- What a named option does to a reader. -/
inductive Named (scope : Scope) (st st' : State) : String → Option String → Prop where
  | joined {o : Valued} (fits : o = .method → scope = .send) (value : String) (fed : Fed st st') :
      Named scope st st' o.name (some value)
  | word {o : Valued} (fits : o = .method → scope = .send) (before : ¬ st.Hungry)
      (after : st'.pending = some ⟨o, none⟩) (lasting : st'.plainOnly = st.plainOnly) :
      Named scope st st' o.name none
  | binary (fits : scope ≠ .before) (fed : Fed st st') : Named scope st st' "binary" none

/-- Where the reading of a scope ends. -/
inductive Ends (scope : Scope) : List String → Option (Scope × List String) → Prop where
  | finished : Ends scope [] none
  | separated (texts : List String) : Ends scope ("--" :: texts) none
  | command {word : String} {next : Scope} (outside : scope = .before)
      (named : Scope.ofWord? word = some next) (rest : List String) :
      Ends scope (word :: rest) (some (next, rest))

/-- Words give entries up to where the reading of a scope ends. -/
def Parses (scope : Scope) (words : List String) (next : Option (Scope × List String)) : Prop :=
  ∃ es front rest, words = front ++ rest ∧ Spells scope es front ∧ Ends scope rest next

section

variable {scope : Scope} {st st' : State} {words : List String}
  {next : Option (Scope × List String)}

private theorem Parses.stop (ends : Ends scope words next) : Parses scope words next :=
  ⟨[], [], words, rfl, .nil, ends⟩

private theorem Parses.cons {entry : Entry} {front : List String} (parses : Parses scope words next)
    (spelled : entry.Spelled front) (fits : entry.Fits scope) :
    Parses scope (front ++ words) next := by
  obtain ⟨es, front', rest, rfl, spells, ends⟩ := parses
  exact ⟨_, _, rest, (List.append_assoc ..).symm, .cons spelled fits spells, ends⟩

/-! What a step that succeeds says of the states before and after it. -/

private theorem Fed.put (fed : Fed st st') (given : Given) : Fed st { st' with given } :=
  ⟨fed.before, fed.after, fed.lasting⟩

theorem not_hungry (settled : st.pending = none) : ¬ st.Hungry := by
  rintro ⟨o, lacking⟩
  cases settled.symm.trans lacking

theorem fed_of_settle (settled : st.settle = .ok st') : Fed st st' := by
  obtain ⟨given, pending, plainOnly⟩ := st
  rcases pending with _ | ⟨o, _ | value⟩
  · cases settled
    exact ⟨not_hungry rfl, not_hungry rfl, rfl⟩
  · cases settled
  · rw [State.settle] at settled
    cases put : given.set o value with
    | error e => simp [put, Except.map] at settled
    | ok g =>
      simp only [put, Except.map, Except.ok.injEq] at settled
      subst settled
      refine ⟨?_, not_hungry rfl, rfl⟩
      rintro ⟨o', lacking⟩
      cases lacking

private theorem fed_of_plain {text : String} (taken : st.plain scope text = .ok st') :
    scope = .send ∧ Fed st st' := by
  cases scope with
  | before =>
    rw [State.plain] at taken
    split at taken <;> cases taken
  | interactive => cases taken
  | send =>
    rw [State.plain] at taken
    split at taken
    · cases taken
    · obtain ⟨settled, settles, same⟩ := Except.bind_eq_ok.mp taken
      cases same
      exact ⟨rfl, (fed_of_settle settles).put _⟩

private theorem fed_of_flag {f : Flag} (taken : st.flag f = .ok st') :
    f = .binary ∧ Fed st st' := by
  obtain ⟨settled, settles, same⟩ := Except.bind_eq_ok.mp taken
  cases f with
  | help => cases same
  | version => cases same
  | binary =>
    simp only at same
    split at same
    · cases same
    · cases same
      exact ⟨rfl, (fed_of_settle settles).put _⟩

private theorem not_short {letter : Char} : st.short scope letter ≠ .ok st' := by
  intro taken
  rw [State.short] at taken
  split at taken
  · rename_i f found
    obtain ⟨rfl, -⟩ := fed_of_flag taken
    unfold Flag.ofLetter? at found
    split at found
    · cases found
    · split at found <;> cases found
  · cases taken

private theorem named_of_long {name : String} {value : Option String}
    (taken : st.long scope name value = .ok st') : Named scope st st' name value := by
  rw [State.long] at taken
  cases found : Valued.ofName? scope name with
  | some o =>
    obtain ⟨rfl, fits⟩ := Valued.ofName?_eq_some_iff.mp found
    simp only [found] at taken
    obtain ⟨settled, settles, same⟩ := Except.bind_eq_ok.mp taken
    have fed := fed_of_settle settles
    cases value with
    | none =>
      cases same
      exact .word fits fed.before rfl fed.lasting
    | some value =>
      obtain ⟨given, -, same⟩ := Except.bind_eq_ok.mp same
      cases same
      exact .joined fits value (fed.put _)
  | none =>
    simp only [found] at taken
    split at taken
    · cases taken
    · rename_i f flagged
      split at taken
      · cases taken
      · rename_i valueless
        obtain rfl : value = none := by simpa using valueless
        obtain ⟨rfl, fed⟩ := fed_of_flag taken
        obtain ⟨rfl, fits⟩ := Flag.eq_of_ofName? flagged
        exact .binary fits fed

/-! Words that are read. -/

private theorem read_texts {texts : List String} (plainOnly : st.plainOnly = true)
    (read : readScope scope st texts = .ok (st', next)) (full : ¬ st'.Hungry) :
    ¬ st.Hungry ∧ next = none := by
  induction texts generalizing st with
  | nil =>
    cases read
    exact ⟨full, rfl⟩
  | cons text texts ih =>
    simp only [readScope, plainOnly, ↓reduceIte] at read
    obtain ⟨taken, takes, went⟩ := Except.bind_eq_ok.mp read
    obtain ⟨-, fed⟩ := fed_of_plain takes
    exact ⟨fed.before, (ih (fed.lasting.trans plainOnly) went).2⟩

/-- A reader that lacks a value takes the next word for it; otherwise it takes words that give
entries. -/
theorem parses_of_read (lasting : st.plainOnly = false)
    (read : readScope scope st words = .ok (st', next)) (full : ¬ st'.Hungry) :
    (st.Hungry → ∃ value later, words = value :: later ∧ Bare value ∧ Parses scope later next) ∧
      (¬ st.Hungry → Parses scope words next) := by
  -- An option and its value are two words. The reader between them is the first half of the
  -- statement, so that the induction can go word by word.
  induction words generalizing st with
  | nil =>
    cases read
    exact ⟨(absurd · full), fun _ => .stop .finished⟩
  | cons arg rest ih =>
    cases form : Word.ofArgument arg with
    | separator =>
      rw [readScope_separator rest lasting form] at read
      obtain ⟨fed, rfl⟩ := read_texts rfl read full
      obtain rfl := eq_of_ofArgument_separator form
      exact ⟨(absurd · fed), fun _ => .stop (.separated rest)⟩
    | long name value =>
      rw [readScope_long rest lasting form] at read
      obtain ⟨taken, takes, went⟩ := Except.bind_eq_ok.mp read
      cases named_of_long takes with
      | joined fits value fed =>
        have parses := (ih (fed.lasting.trans lasting) went).2 fed.after
        obtain rfl := joined_of_form form
        exact ⟨(absurd · fed.before), fun _ => parses.cons (.joined _ value) fits⟩
      | @word o fits before after same =>
        obtain ⟨value, later, rfl, bare, parses⟩ := (ih (same.trans lasting) went).1 ⟨o, after⟩
        obtain rfl := word_of_form form
        exact ⟨(absurd · before), fun _ => parses.cons (.apart o bare) fits⟩
      | binary fits fed =>
        have parses := (ih (fed.lasting.trans lasting) went).2 fed.after
        obtain rfl := binary_of_form form
        exact ⟨(absurd · fed.before), fun _ => parses.cons .binary fits⟩
    | short letter =>
      rw [readScope_short rest lasting form] at read
      obtain ⟨taken, takes, -⟩ := Except.bind_eq_ok.mp read
      exact absurd takes not_short
    | plain =>
      have bare := ofArgument_plain.mp form
      by_cases hungry : st.Hungry
      · refine ⟨fun _ => ?_, (absurd hungry ·)⟩
        obtain ⟨o, pending⟩ := hungry
        rw [readScope_value rest lasting form pending] at read
        have parses := (@ih { st with pending := some ⟨o, some arg⟩ } lasting read).2 nofun
        exact ⟨arg, rest, rfl, bare, parses⟩
      · refine ⟨(absurd · hungry), fun _ => ?_⟩
        simp only [readScope, lasting, Bool.false_eq_true, ↓reduceIte, form] at read
        split at read
        · rename_i o pending
          exact absurd ⟨o, pending⟩ hungry
        · split at read
          · cases read
          · split at read
            · rename_i command named
              cases read
              split at named
              · exact .stop (.command ‹_› named rest)
              · cases named
            · obtain ⟨taken, takes, went⟩ := Except.bind_eq_ok.mp read
              obtain ⟨rfl, fed⟩ := fed_of_plain takes
              have parses := (ih (fed.lasting.trans lasting) went).2 fed.after
              exact parses.cons (.input bare) rfl

end

end Arguments
end GatewayPing
