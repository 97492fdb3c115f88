import GatewayPing.Proofs.Arguments.Outcome

/-! The order of arguments. A command line that sends an input is read for what is given on it, and
not for the order in which it is given, or the side of the command word or the spelling. Of an
option that is given on both sides the later value counts, and nothing may be given twice on one
side. Main statement: `send_any_order`. -/
namespace GatewayPing.Arguments

/-- What is wanted of a command that sends an input. -/
structure Wanted where
  url : Option String := none
  config : Option String := none
  method : Option Method := none
  binary : Bool := false
  input : String

/-- What has to be given for it, each once. -/
def Wanted.entries (w : Wanted) : List Entry :=
  w.url.toList.map (.option .url) ++ w.config.toList.map (.option .config) ++
    (w.method.map Method.name).toList.map (.option .method) ++
      (if w.binary then [.binary] else []) ++ [.input w.input]

/-- The command that is wanted. -/
def Wanted.arguments (w : Wanted) : Arguments :=
  ⟨w.url, w.config, .send w.input (modeOf w.binary) (w.method.getD .aPing)⟩

/-- The values are such as their options can have, and there is one input. -/
structure Proper (es : List Entry) : Prop where
  named : "" ∉ values .config es
  known : ∀ name ∈ values .method es, ∃ m : Method, name = m.name
  single : ∃ input, inputs es = [input]

section

variable {before after es : List Entry} {g : Given} {e : Refusal}

/-! Command lines in order. -/

private theorem Proper.given (proper : Proper es) : inputs es ≠ [] := by
  obtain ⟨input, single⟩ := proper.single
  rw [single]
  exact List.cons_ne_nil input []

/-- Nothing is wrong with proper entries but that something is given twice. -/
theorem Proper.fault (proper : Proper es) (fault : Fault es e) : e = .repeated := by
  cases fault with
  | repeated => rfl
  | unnamed empty => exact absurd empty proper.named
  | unknown given unknown =>
    obtain ⟨m, same⟩ := proper.known _ given
    exact absurd same (unknown m)
  | surplus two =>
    obtain ⟨input, single⟩ := proper.single
    rw [single] at two
    exact absurd two (by simp)

private theorem Wanted.entries_say (w : Wanted) (named : w.config ≠ some "") :
    Says w.entries ⟨w.url, w.config, w.method, w.binary, some w.input⟩ where
  options o := by
    cases o <;> cases flag : w.binary <;>
      simp [Wanted.entries, values_options, Given.text?, flag]
  named := named
  binary := by
    have apart (o : Valued) (given : List String) :
        (given.map (Entry.option o)).count .binary = 0 :=
      List.count_eq_zero.mpr (by simp)
    cases flag : w.binary <;> simp [Wanted.entries, apart, flag]
  input := by cases flag : w.binary <;> simp [Wanted.entries, inputs_options, flag]

private theorem Says.told_eq (said : Says es g) (input : String) :
    told es input =
      ⟨g.url, g.config, .send input (modeOf g.binary) (g.method.getD .aPing)⟩ := by
  have global : Global [] := ⟨rfl, List.not_mem_nil, rfl⟩
  simpa using told_append global says_nil said input

/-- Proper entries of which none is given twice on a side are read as what they give. -/
theorem ReadAs.proper {r : Except Refusal Arguments} (outcome : ReadAs before after r)
    (proper : Proper (before ++ after)) (early : ¬ Twice before) (late : ¬ Twice after) :
    ∃ input, inputs (before ++ after) = [input] ∧ r = .ok (told (before ++ after) input) := by
  cases outcome with
  | sent first last single => exact ⟨_, single, rfl⟩
  | early fault =>
    obtain rfl := proper.fault fault.append
    exact absurd fault.twice early
  | late fault =>
    obtain rfl := proper.fault fault.append_left
    exact absurd fault.twice late
  | missing none => exact absurd none proper.given

private theorem ReadAs.twice {r : Except Refusal Arguments} (outcome : ReadAs before after r)
    (twice : Twice before ∨ Twice after) :
    ∃ e, r = .error e ∧ e.exitCode = 2 ∧ (Proper (before ++ after) → e = .repeated) := by
  cases outcome with
  | sent first last single => exact (twice.elim first.not_twice last.not_twice).elim
  | early fault => exact ⟨_, rfl, fault.exitCode, (·.fault fault.append)⟩
  | late fault => exact ⟨_, rfl, fault.exitCode, (·.fault fault.append_left)⟩
  | missing none => exact ⟨_, rfl, rfl, fun proper => absurd none proper.given⟩

private theorem ReadAs.accepted {args : Arguments} (outcome : ReadAs before after (.ok args)) :
    Proper (before ++ after) ∧ ¬ Twice before ∧ ¬ Twice after := by
  cases outcome with
  | @sent outer inner input first last single =>
    refine ⟨⟨?_, ?_, input, single⟩, first.not_twice, last.not_twice⟩
    · rw [values_append, List.mem_append]
      exact fun empty => empty.elim (first.faultless ∘ .unnamed) (last.faultless ∘ .unnamed)
    · intro name given
      rw [values_append, List.mem_append] at given
      exact given.elim first.known last.known

end

/-- A command line that sends an input is read in whatever order its arguments stand. -/
structure AnyOrder (args : List String) : Prop where
  /-- Every arrangement of what is wanted is read as what is wanted, with the address and the file
  on either side of the word `send` and all else somewhere after it. -/
  arranged : ∀ before after, Sends before after args → ∀ wanted : Wanted,
    wanted.config ≠ some "" → (before ++ after).Perm wanted.entries →
      read args = .ok wanted.arguments
  /-- An option that is given on both sides has the later value. -/
  later : ∀ before after, Sends before after args → Proper (before ++ after) →
    ¬ Twice before → ¬ Twice after →
      ∃ input, inputs (before ++ after) = [input] ∧ read args = .ok (told (before ++ after) input)
  /-- To give something twice on one side is an error, and if nothing else is wrong it is the one
  that is told. -/
  twice : ∀ before after, Sends before after args → Twice before ∨ Twice after →
    ∃ e, read args = .error e ∧ e.exitCode = 2 ∧ (Proper (before ++ after) → e = .repeated)
  /-- No other command line sends an input: this covers whatever is no entry. -/
  only : ∀ url config input mode method, read args = .ok ⟨url, config, .send input mode method⟩ →
    ∃ before after, Sends before after args ∧ Proper (before ++ after) ∧
      ¬ Twice before ∧ ¬ Twice after

/-- The order of arguments does not change a command that sends an input. -/
theorem send_any_order (args : List String) : AnyOrder args where
  arranged before after sends wanted named same := by
    have said := (wanted.entries_say named).perm same
    have outcome := read_sends sends
    generalize read args = r at outcome
    cases outcome with
    | @sent outer inner input first last single =>
      obtain rfl : input = wanted.input := List.singleton_inj.mp (single.symm.trans said.input)
      exact congrArg _ (said.told_eq _)
    | early fault => exact absurd fault.append said.faultless
    | late fault => exact absurd fault.append_left said.faultless
    | missing none => cases none.symm.trans said.input
  later before after sends proper early late := (read_sends sends).proper proper early late
  twice before after sends twice := (read_sends sends).twice twice
  only url config input mode method accepted := by
    obtain ⟨before, after, sends⟩ := sends_of_read accepted
    have outcome := read_sends sends
    rw [accepted] at outcome
    exact ⟨before, after, sends, outcome.accepted⟩

/-- Words that could be commands are values and an input; of two addresses the later one counts,
whatever it looks like; and two of them on one side are refused. -/
theorem send_any_order_both_sides :
    read ["--url", "send", "send", "help", "--binary", "--method=extra-post"] =
        .ok ⟨some "send", none, .send "help" .binary .extraPost⟩ ∧
      read ["--url", "a", "send", "5", "--url=-x"] = .ok ⟨some "-x", none, .send "5" .text .aPing⟩ ∧
      read ["--url", "a", "--url=b", "send", "5"] = .error .repeated := by
  have url (value : String) (bare : Bare value) :
      Spells .before [.option .url value] [Valued.url.word, value] :=
    .cons (.apart .url bare) nofun .nil
  have five : Spells .send [.input "5"] ["5"] := .cons (.input (by decide)) rfl .nil
  refine ⟨?_, ?_, ?_⟩
  · have last : Spells .send [.input "help", .binary, .option .method "extra-post"]
        ["help", "--binary", Valued.method.word ++ "=" ++ "extra-post"] :=
      .cons (.input (by decide)) rfl <|
        .cons .binary nofun <| .cons (.joined _ _) (fun _ => rfl) .nil
    have line := Sends.intro (url "send" (by decide)) (.inOrder last)
    exact (send_any_order _).arranged _ _ line
      { url := some "send", method := some .extraPost, binary := true, input := "help" } nofun
      (by decide)
  · have last : Spells .send [.input "5", .option .url "-x"]
        ["5", Valued.url.word ++ "=" ++ "-x"] :=
      .cons (.input (by decide)) rfl <| .cons (.joined _ _) nofun .nil
    have line := Sends.intro (url "a" (by decide)) (.inOrder last)
    obtain ⟨input, single, accepted⟩ := (send_any_order _).later _ _ line
      ⟨by decide, nofun, "5", rfl⟩ (by decide) (by decide)
    cases single
    exact accepted
  · have first : Spells .before [.option .url "a", .option .url "b"]
        [Valued.url.word, "a", Valued.url.word ++ "=" ++ "b"] :=
      .cons (.apart .url (by decide)) nofun <| .cons (.joined _ _) nofun .nil
    obtain ⟨e, refused, -, named⟩ := (send_any_order _).twice _ _ (.intro first (.inOrder five))
      (.inl (by decide))
    obtain rfl := named ⟨by decide, nofun, "5", rfl⟩
    exact refused

end GatewayPing.Arguments
