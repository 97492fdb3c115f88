import GatewayPing.Program
import GatewayPing.Proofs.Concurrent.Alone
import GatewayPing.Proofs.Input.Handling

/-! Prefixes of lines. A line of an interactive run that names a mode before its first colon is the
text after that colon, in that mode; any other line is input as it is, in the default mode. No more
than one prefix is taken off a line, and no input has a colon in it, so that a colon that is left is
refused before any call. Main statement: `Program.prefix_selects_mode`. -/
namespace GatewayPing

open Text (Blanks Trimmed)

/-- The text before the first colon of a line is the name of a mode, give or take blanks around it,
and `rest` is all that follows that colon. -/
def Line.Names (line : String) (mode : Mode) (rest : String) : Prop :=
  ∃ before, line.toList = before ++ ':' :: rest.toList ∧ ':' ∉ before ∧
    Trimmed before mode.name.toList

/-- Which text of a line remains, and in which mode, once a prefix is taken off it. -/
inductive Line.Leaves (default : Mode) (line : String) : Mode → String → Prop where
  | named {mode : Mode} {rest : String} (names : Names line mode rest) :
      Leaves default line mode rest
  | whole (unnamed : ∀ mode rest, ¬ Names line mode rest) : Leaves default line default line

/-- A text is accepted unless it is unreadable. -/
def Input.Accepted (raw : String) : Prop := ∀ text, ¬ Says raw.toList (.unreadable text)

/-- An operation that is refused. It makes no call, and the user is told once, of a danger. -/
structure Operation.Refused {τ : Type} [Transport τ] (d : Dispatcher τ) (op : Operation)
    (fault : OperationError) : Prop where
  calls : ∀ mode, (op.alone d.recorded).2.callsOf mode = []
  told : ∃ message, (op.alone d.recorded).1.notices = [⟨.danger, message⟩]
  ended : (op.alone d.recorded).1.result? = some (0, .outcome (.error fault))
  /-- In company this is over with the first poll, whenever that is. -/
  polled : ∀ now, ∃ message, (⟨op, .fresh⟩ : Task).poll now d =
    Task.finish ⟨op, .fresh⟩ d [⟨.danger, message⟩] (.outcome (.error fault))

/-! Where a line is parted. -/

section Parting

variable {line : String} {mode default : Mode} {rest : String}

private theorem Mode.name_tight (mode : Mode) : Text.Tight mode.name.toList := by
  cases mode <;> constructor <;> simp [name, Text.isBlank]

private theorem Mode.name_without_colon (mode : Mode) : ':' ∉ mode.name.toList := by
  cases mode <;> decide

private theorem Text.Blanks.without_colon {cs : List Char} (blanks : Blanks cs) : ':' ∉ cs :=
  fun member => absurd (blanks _ member) (by decide)

namespace Line

/-- A line is parted at its first colon. -/
theorem split_eq_some {before rest : List Char} {cs : List Char} :
    Text.splitAtFirst (· == ':') cs = some (before, rest) ↔
      cs = before ++ ':' :: rest ∧ ':' ∉ before := by
  constructor
  · intro split
    obtain ⟨c, colon, same, clean⟩ := Text.splitAtFirst_eq_some split
    obtain rfl := beq_iff_eq.mp colon
    exact ⟨same, fun member => absurd (clean _ member) (by decide)⟩
  · rintro ⟨rfl, clean⟩
    refine Text.splitAtFirst_append (fun b member => ?_) rfl
    exact beq_eq_false_iff_ne.mpr fun same => clean (same ▸ member)

private theorem names_iff :
    Names line mode rest ↔ ∃ before,
      Text.splitAtFirst (· == ':') line.toList = some (before, rest.toList) ∧
        Mode.ofName? (String.ofList (Text.trim before)) = some mode := by
  refine exists_congr fun before => ?_
  rw [split_eq_some, Mode.ofName?_eq_some_iff, Text.trimmed_iff, ← and_assoc,
    ← String.toList_inj, String.toList_ofList]

private theorem read_of_names (names : Names line mode rest) :
    read default line = ⟨mode, rest⟩ := by
  obtain ⟨before, split, named⟩ := names_iff.mp names
  simp only [read, split, named, String.ofList_toList]

private theorem read_of_unnamed (unnamed : ∀ mode rest, ¬ Names line mode rest) :
    read default line = ⟨default, line⟩ := by
  unfold read
  split
  · rfl
  · rename_i before rest split
    split
    · rename_i mode named
      refine absurd (names_iff.mpr ⟨before, ?_, named⟩) (unnamed mode (String.ofList rest))
      rw [String.toList_ofList]
      exact split
    · rfl

/-- What remains of a line is what is read of it. -/
theorem read_of_leaves (leaves : Leaves default line mode rest) :
    read default line = ⟨mode, rest⟩ := by
  cases leaves with
  | named names => exact read_of_names names
  | whole unnamed => exact read_of_unnamed unnamed

/-- A text with a mode and a colon before it names that mode. -/
theorem names_prefixed {before after : List Char} (left : Blanks before) (right : Blanks after)
    (mode : Mode) (rest : String) :
    Names (String.ofList (before ++ mode.name.toList ++ after ++ ':' :: rest.toList)) mode rest := by
  refine ⟨before ++ mode.name.toList ++ after, String.toList_ofList, ?_,
    ⟨before, after, rfl, left, right⟩, mode.name_tight⟩
  simp [left.without_colon, right.without_colon, mode.name_without_colon]

/-- A line without a colon names no mode. -/
theorem not_names_of_not_mem (clean : ':' ∉ line.toList) : ¬ Names line mode rest := by
  rintro ⟨before, same, -, -⟩
  exact clean (by simp [same])

end Line

end Parting

/-! Colons in an input. -/

private theorem Text.Denotes.without_colon {digits : List Char} {n : Nat}
    (number : Denotes digits n) : ':' ∉ digits :=
  fun member => absurd (number.decimal _ member) (by decide)

namespace Input

variable {raw : String} {cs : List Char}

/-- Blanks and digits are all that an accepted text is made of. -/
theorem unreadable_of_colon (colon : ':' ∈ cs) : Says cs (.unreadable (Text.trim cs)) := by
  obtain ⟨s, said⟩ := exists_sentence cs
  cases said with
  | blank blanks => exact absurd colon blanks.without_colon
  | timestamp number _ =>
    obtain ⟨before, digits, after, rfl, left, number, right⟩ := number
    simp [left.without_colon, right.without_colon, number.without_colon] at colon
  | stream numbers _ _ =>
    obtain ⟨before, count, between, digits, after, rfl, left, first, gap, -, second, right⟩ :=
      numbers
    simp [left.without_colon, gap.without_colon, right.without_colon, first.without_colon,
      second.without_colon] at colon
  | unreadable trimmed marked single double =>
    exact .unreadable (Text.trimmed_trim cs) marked single double

private theorem Accepted.without_colon (accepted : Accepted raw) : ':' ∉ raw.toList :=
  fun colon => accepted _ (unreadable_of_colon colon)

end Input

namespace Operation

open Input (Says)

variable {τ : Type} {d : Dispatcher τ} {id : RequestId} {raw : String} {mode : Mode}
  {text : List Char}

/-- Why an unreadable text is refused. -/
def refusal (text : List Char) : OperationError :=
  .invalidInput (String.ofList text) (Input.Sentence.fault text)

/-- An unreadable text comes to no more than its refusal. -/
theorem plan_unreadable (said : Says raw.toList (.unreadable text)) :
    (submit id raw mode).plan d =
      .nothing [(Input.Sentence.fault text).notice] (.outcome (.error (refusal text))) := by
  have noTimestamp := (Input.timestamp?_trim raw).trans (Input.timestamp?_of_unreadable said)
  have noStream := (Input.stream?_trim raw).trans (Input.stream?_of_unreadable said)
  cases said with
  | unreadable trimmed marked _ _ =>
    obtain rfl := Text.trim_of_trimmed trimmed
    rw [plan, Input.ofText_marked marked]
    cases parted : (Text.trim raw.toList).any Text.isBlank with
    | true =>
      simp only [↓reduceIte, streamPlan, Dispatcher.newSession, noStream, refusal,
        Input.Sentence.fault, parted]
    | false =>
      simp only [Bool.false_eq_true, ↓reduceIte, singlePlan, noTimestamp, refusal,
        Input.Sentence.fault, parted]
      rfl

variable [Transport τ]

private theorem refused_of_unreadable (said : Says raw.toList (.unreadable text)) :
    (submit id raw mode).Refused d (refusal text) := by
  have alone : (submit id raw mode).alone d.recorded =
      (Course.ending 0 [(Input.Sentence.fault text).notice] (.outcome (.error (refusal text))),
        d.recorded) := by
    rw [alone_plan, plan_unreadable said]
    rfl
  constructor
  · intro m
    rw [alone]
    exact d.recorded_callsOf m
  · rw [alone]
    exact ⟨_, rfl⟩
  · rw [alone]
    rfl
  · intro now
    exact ⟨_, by rw [Task.poll, plan_unreadable said]; rfl⟩

end Operation

namespace Program

open Line (Names Leaves)
open Input (Says Accepted)

variable {τ : Type} [Transport τ]

/-- What a prefix does to a line of an interactive run whose default mode is `default`. Operations
that are equal do the same, on every dispatcher and in any company. -/
structure PrefixRule (d : Dispatcher τ) (id : RequestId) (default : Mode) : Prop where
  /-- The name of a mode before the first colon selects that mode for all that follows. -/
  named : ∀ line mode rest, Names line mode rest →
    lineOperation id default line = .submit id rest mode
  /-- Any other line is input as it is. -/
  unnamed : ∀ line, (∀ mode rest, ¬ Names line mode rest) →
    lineOperation id default line = .submit id line default
  /-- One prefix is taken at most: a line that has a colon left is refused. -/
  once : ∀ line mode rest, Leaves default line mode rest → ':' ∈ rest.toList →
    (lineOperation id default line).Refused d (Operation.refusal (Text.trim rest.toList))
  /-- To name the mode of an accepted text is to make that mode the default. -/
  alike : ∀ raw, Accepted raw → ∀ mode before after, Blanks before → Blanks after →
    lineOperation id default
        (String.ofList (before ++ mode.name.toList ++ after ++ ':' :: raw.toList)) =
      lineOperation id mode raw

private theorem lineOperation_of_read {id : RequestId} {default mode : Mode} {line rest : String}
    (read : Line.read default line = ⟨mode, rest⟩) :
    lineOperation id default line = .submit id rest mode := by
  simp only [lineOperation, read]

/-- A prefix selects the mode of a line and does nothing else. -/
theorem prefix_selects_mode (d : Dispatcher τ) (id : RequestId) (default : Mode) :
    PrefixRule d id default where
  named _ _ _ names := lineOperation_of_read (Line.read_of_names names)
  unnamed _ unnamed := lineOperation_of_read (Line.read_of_unnamed unnamed)
  once line mode rest leaves colon := by
    rw [lineOperation_of_read (Line.read_of_leaves leaves)]
    exact Operation.refused_of_unreadable (Input.unreadable_of_colon colon)
  alike raw accepted mode before after left right := by
    have inner : Line.read mode raw = ⟨mode, raw⟩ :=
      Line.read_of_unnamed fun _ _ => Line.not_names_of_not_mem accepted.without_colon
    have outer := Line.names_prefixed left right mode raw
    rw [lineOperation_of_read (Line.read_of_names outer), lineOperation_of_read inner]

/-- A second prefix is part of the input, which is then no number. -/
theorem prefix_selects_mode_once :
    let t : Rehearsal := ⟨.text, [(5, .pong none "svc-a")], []⟩
    let d : Dispatcher Rehearsal := ⟨⟨t, { t with mode := .binary }⟩, .default⟩
    Leaves .text "binary :text: 5" .binary "text: 5" ∧
      (lineOperation ⟨7⟩ .text "binary :text: 5").Refused d (.invalidInput "text: 5" .stream) ∧
      lineOperation ⟨7⟩ .text "\tbinary :5" = lineOperation ⟨7⟩ .binary "5" := by
  intro t d
  have rule := prefix_selects_mode d ⟨7⟩ .text
  have nothing : Blanks [] := by simp [Blanks]
  have space : Blanks [' '] := by simp [Blanks, Text.isBlank]
  have tab : Blanks ['\t'] := by simp [Blanks, Text.isBlank]
  have leaves : Leaves .text "binary :text: 5" .binary "text: 5" :=
    .named ⟨"binary ".toList, by decide, by decide,
      ⟨[], [' '], by decide, nothing, space⟩, Mode.name_tight .binary⟩
  have accepted : Accepted "5" := by
    intro text said
    have single : Says "5".toList (.timestamp 5) :=
      Input.says_timestamp_iff.mpr
        ⟨⟨[], ['5'], [], rfl, nothing, ⟨by decide, List.forall_mem_singleton.mpr rfl, rfl⟩, nothing⟩,
          by decide⟩
    cases single.unique said
  have refused := rule.once _ _ _ leaves (by decide)
  have trimmed : Text.trim "text: 5".toList = "text: 5".toList := by decide
  rw [trimmed, Operation.refusal, String.ofList_toList] at refused
  exact ⟨leaves, refused, rule.alike "5" accepted .binary ['\t'] [' '] tab space⟩

end Program
end GatewayPing
