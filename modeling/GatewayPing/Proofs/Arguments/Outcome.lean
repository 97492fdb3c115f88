import GatewayPing.Proofs.Arguments.Reading
import GatewayPing.Proofs.Arguments.Soundness

/-! What a command line is read as that sends an input. It is made of entries and the word `send`,
and no other is accepted (`sends_of_read`). Of what is given on both sides of that word the later
value counts; and each side may have faults of its own (`read_sends`). -/
namespace GatewayPing.Arguments

/-- The command that entries give: of each option the last value. -/
def told (es : List Entry) (input : String) : Arguments where
  url := (values .url es).getLast?
  config := (values .config es).getLast?
  command := .send input (modeOf (.binary ∈ es))
    (((values .method es).getLast?.bind Method.ofName?).getD .aPing)

/-- What a command line is read as that has entries before and after the word `send`. -/
inductive ReadAs (before after : List Entry) : Except Refusal Arguments → Prop where
  | sent {outer inner : Given} {input : String} (first : Says before outer)
      (last : Says after inner) (single : inputs (before ++ after) = [input]) :
      ReadAs before after (.ok (told (before ++ after) input))
  | early {e : Refusal} (fault : Fault before e) : ReadAs before after (.error e)
  | late {e : Refusal} (fault : Fault after e) : ReadAs before after (.error e)
  | missing (none : inputs (before ++ after) = []) : ReadAs before after (.error .missingInput)

section

variable {before after : List Entry} {outer inner : Given} {args words : List String}

/-! What two sides give together. -/

private theorem getLast?_toList {α : Type} (a : Option α) : a.toList.getLast? = a := by
  cases a <;> rfl

/-- Of two sides the later one counts. -/
theorem told_append (global : Global before) (first : Says before outer) (last : Says after inner)
    (input : String) :
    told (before ++ after) input =
      ⟨inner.url.or outer.url, inner.config.or outer.config,
        .send input (modeOf inner.binary) (inner.method.getD .aPing)⟩ := by
  have sides (o : Valued) :
      (values o (before ++ after)).getLast? = (inner.text? o).or (outer.text? o) := by
    rw [values_append, List.getLast?_append, first.options, last.options, getLast?_toList,
      getLast?_toList]
  have url : (values .url (before ++ after)).getLast? = inner.url.or outer.url := sides .url
  have config : (values .config (before ++ after)).getLast? = inner.config.or outer.config :=
    sides .config
  have method : (values .method (before ++ after)).getLast?.bind Method.ofName? = inner.method := by
    rw [values_append, global.method, List.nil_append, last.options, getLast?_toList, Given.text?]
    cases inner.method <;> simp
  have binary : decide (Entry.binary ∈ before ++ after) = inner.binary := by
    simp [global.binary, last.binary_iff]
  rw [told, url, config, method, binary]

/-! What is read of a command line. -/

private theorem readCommand_follows (follows : Follows after words) :
    (∃ inner input, Says after inner ∧ inner.input = some input ∧
        readCommand .send words =
          .ok (inner, .send input (modeOf inner.binary) (inner.method.getD .aPing))) ∨
      ∃ e, readCommand .send words = .error e ∧
        (Fault after e ∨ e = .missingInput ∧ inputs after = []) := by
  obtain ⟨plainOnly, result, reads, same⟩ := readScope_follows follows
  rw [readCommand, same]
  cases result with
  | error e => exact .inr ⟨e, rfl, .inl reads⟩
  | ok st =>
    rcases reads.settle with ⟨inner, settled, said⟩ | ⟨e, settled, fault⟩
    · cases given : inner.input with
      | none =>
        refine .inr ⟨.missingInput, ?_, .inr ⟨rfl, by rw [said.input, given]; rfl⟩⟩
        simp only [Except.map, bind, Except.bind, settled, given]
      | some input =>
        refine .inl ⟨inner, input, said, given, ?_⟩
        simp only [Except.map, bind, Except.bind, settled, given]
    · refine .inr ⟨e, ?_, .inl fault⟩
      simp only [Except.map, bind, Except.bind, settled]

/-- A command line that is made of entries and the word `send` is read as what the entries give, or
else refused for a fault that one side has, or for want of an input. -/
theorem read_sends (sends : Sends before after args) : ReadAs before after (read args) := by
  obtain @⟨front, back, first, last⟩ := sends
  have global := first.global
  obtain ⟨result, reads, same⟩ := readScope_spells (.settled says_nil) first ("send" :: back)
  rw [read, same]
  cases result with
  | error e => exact .early reads
  | ok st =>
    have stops := readScope_send reads back
    simp only [bind, Except.bind] at stops ⊢
    simp only [stops]
    -- The last value before the command word is checked only when all that follows is read.
    rcases readCommand_follows last with ⟨inner, input, last, given, sent⟩ | ⟨e, refused, reason⟩
    · simp only [sent]
      rcases reads.settle with ⟨outer, settled, first⟩ | ⟨e, settled, fault⟩
      · have same := told_append global first last input
        simp only [settled, ← same]
        exact .sent first last (by simp [global.input, last.input, given])
      · simp only [settled]
        exact .early fault
    · simp only [refused]
      rcases reason with fault | ⟨rfl, none⟩
      · exact .late fault
      · exact .missing (by simp [global.input, none])

/-- What is read after the word `send` may follow it. -/
theorem follows_of_readCommand {r : Given × Command} (read : readCommand .send words = .ok r) :
    ∃ after, Follows after words := by
  obtain ⟨⟨st, next⟩, inside, went⟩ := Except.bind_eq_ok.mp read
  obtain ⟨settled, settles, -⟩ := Except.bind_eq_ok.mp went
  have full := (fed_of_settle settles).before
  obtain ⟨after, back, rest, rfl, spells, ends⟩ :=
    (parses_of_read rfl inside full).2 (not_hungry rfl)
  cases ends with
  | finished => exact ⟨after, by rw [List.append_nil]; exact .inOrder spells⟩
  | separated texts => exact ⟨_, .separated spells texts⟩
  | command outside => cases outside

private theorem scope_of_readCommand {scope : Scope} {g : Given} {input : String} {mode : Mode}
    {method : Method} (read : readCommand scope words = .ok (g, .send input mode method)) :
    scope = .send := by
  obtain ⟨⟨st, next⟩, -, went⟩ := Except.bind_eq_ok.mp read
  obtain ⟨settled, -, went⟩ := Except.bind_eq_ok.mp went
  cases scope with
  | send => rfl
  | before => cases went
  | interactive => cases went

private theorem word_of_send {word : String} (named : Scope.ofWord? word = some .send) :
    word = "send" := by
  unfold Scope.ofWord? at named
  split at named
  · assumption
  · split at named <;> cases named

/-- Nothing else sends an input. -/
theorem sends_of_read {url config : Option String} {input : String} {mode : Mode} {method : Method}
    (accepted : read args = .ok ⟨url, config, .send input mode method⟩) :
    ∃ before after, Sends before after args := by
  obtain ⟨⟨st, command⟩, outside, accepted⟩ := Except.bind_eq_ok.mp accepted
  cases command with
  | none =>
    obtain ⟨settled, -, accepted⟩ := Except.bind_eq_ok.mp accepted
    split at accepted <;> cases accepted
  | some command =>
    obtain ⟨scope, back⟩ := command
    obtain ⟨⟨given, command⟩, inside, accepted⟩ := Except.bind_eq_ok.mp accepted
    obtain ⟨settled, settles, accepted⟩ := Except.bind_eq_ok.mp accepted
    cases accepted
    have full := (fed_of_settle settles).before
    obtain ⟨before, front, rest, rfl, first, ends⟩ :=
      (parses_of_read rfl outside full).2 (not_hungry rfl)
    cases ends with
    | @command word _ _ named =>
      obtain rfl := scope_of_readCommand inside
      obtain rfl := word_of_send named
      obtain ⟨after, last⟩ := follows_of_readCommand inside
      exact ⟨before, after, .intro first last⟩

end

end GatewayPing.Arguments
