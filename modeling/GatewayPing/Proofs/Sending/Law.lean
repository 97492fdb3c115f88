import GatewayPing.Proofs.Config.Choice
import GatewayPing.Proofs.Input.Handling
import GatewayPing.Proofs.Sending.Exit
import GatewayPing.Proofs.Wording

/-! The program that sends one input, from its start to its exit. Where no configuration is in effect,
or its address is not one, the program says so and makes no call. Otherwise it prints all that its
operation tells before it exits, and its exit code tells how the operation ended, whatever the order
of its moves. Main statement: `Program.send_law`. -/
namespace GatewayPing

private theorem Except.isOk_map {ε α β : Type} (f : α → β) (r : Except ε α) :
    (r.map f).isOk = r.isOk := by
  cases r <;> rfl

namespace Program

variable {τ : Type} [Transport τ] {connect : Config → Endpoint → TransportPair τ}
  {place : Surroundings} {args : Arguments} {d : Dispatcher τ} {id : RequestId} {input : String}
  {mode : Mode} {method : Method} {config : Config} {endpoint : Endpoint} {e : StartError}

/-! The operation of an input. -/

/-- An operation comes to the same as the sending of an input: the same is told, and both end at the
same time, and equally well. -/
structure Agree (op : Course Operation.Result × Dispatcher τ)
    (sent : Course (Except OperationError Outcome) × Dispatcher τ) : Prop where
  notices : op.1.notices = sent.1.notices
  result : op.1.result?.map (fun r => (r.1, r.2.succeeded)) =
    sent.1.result?.map fun r => (r.1, r.2.isOk)
  dispatcher : op.2 = sent.2

private theorem send_agree (d : Dispatcher τ) (id : RequestId) (input : String) (mode : Mode)
    (method : Method) :
    Agree ((Operation.sending id input mode method).alone d) (send d id input mode method) := by
  unfold Operation.sending send
  cases Input.ofText input with
  | unary text =>
    refine ⟨?_, ?_, rfl⟩
    · simp only [Operation.alone, Course.notices_map]
    · simp only [Operation.alone, Course.result?_map, Option.map_map, Function.comp_def,
        Except.isOk_map]
      rfl
  | _ =>
    refine ⟨?_, ?_, rfl⟩
    · simp only [Operation.alone, Course.notices_map]
    · simp only [Operation.alone, Course.result?_map, Option.map_map]
      rfl

/-! The start. -/

private theorem run_stopped (failed : start place args = .error e) :
    run connect place args = ⟨⟨[], [e.render place.colour], some 1⟩, none⟩ := by
  simp only [run, failed]
  rfl

private theorem start_error (failed : configuration place args = .error e) :
    start place args = .error e := by
  simp only [start, failed]
  rfl

private theorem start_configured (found : configuration place args = .ok config) :
    start place args =
      match Endpoint.read config.endpoint with
      | .ok endpoint => .ok (config, endpoint)
      | .error fault => .error (.address ⟨config.endpoint, fault⟩) := by
  simp only [start, found]
  rfl

/-- Without a configuration whose address is one nothing is started. -/
theorem start_fails (bad : ∀ config, InEffect place args config →
    ∃ fault, Endpoint.read config.endpoint = .error fault) : ∃ e, start place args = .error e := by
  cases found : configuration place args with
  | error e => exact ⟨e, start_error found⟩
  | ok config =>
    obtain ⟨fault, refused⟩ := bad config (configuration_iff.mp found)
    exact ⟨.address ⟨config.endpoint, fault⟩, by rw [start_configured found, refused]⟩

private theorem run_send (effect : InEffect place args config)
    (read : Endpoint.read config.endpoint = .ok endpoint)
    (command : args.command = .send input mode method) :
    run connect place args =
      let sent := send ⟨connect config endpoint, config⟩ (place.ids 0) input mode method
      ⟨reportSend place.colour sent.1, some sent.2⟩ := by
  simp only [run, start_configured (configuration_iff.mpr effect), read, command, perform]

/-! The law. -/

/-- What a program shows that has begun to send an input, where `sent` comes of the input if it is
handled alone, and `whole` is said to be seen of the program. -/
structure Shows (colour : Bool) (begun : Sending τ)
    (sent : Course (Except OperationError Outcome) × Dispatcher τ) (whole : Execution τ) :
    Prop where
  /-- At any time it has printed what was told first, in the order in which it was told. -/
  ordered : ∀ moves, ∃ told, told <+: sent.1.notices ∧
    Notification.Lines colour told (begun.after colour moves).output
  /-- When it exits the operation has ended, all that it told is printed, and the exit code tells how
  it ended. -/
  complete : ∀ moves, let s := begun.after colour moves
    s.HasExited → ∃ time result, sent.1.result? = some (time, result) ∧
      Notification.Lines colour sent.1.notices s.report.output ∧ s.report.errors = [] ∧
      s.report.exitCode = some (if result.isOk then 0 else 1) ∧
      s.dispatcher = sent.2 ∧ whole = ⟨s.report, some s.dispatcher⟩
  /-- If the operation has an end, the program can be brought to its exit at any time, and it exits
  in every fair execution. -/
  exits : sent.1.result? ≠ none →
    ∀ moves, ∃ more, ((begun.after colour moves).after colour more).HasExited
  fair : sent.1.result? ≠ none →
    ∀ moves, Sending.Fair moves → ∃ n, (begun.during colour moves n).HasExited

/-- What a program does that is started to send an input. -/
structure SendLaw (connect : Config → Endpoint → TransportPair τ) (place : Surroundings)
    (args : Arguments) (input : String) (mode : Mode) (method : Method) : Prop where
  /-- The program finds the configuration that is in effect, or none. -/
  effect : ∀ config, configuration place args = .ok config ↔ InEffect place args config
  /-- If a file is asked for, no other is looked at, nor is it looked for one of the user. -/
  asked : ∀ path, args.config = some path → ∀ userConfig file, file path = place.file path →
    run connect { place with userConfig, file } args = run connect place args
  /-- Where no configuration is loaded, no address makes up for it. -/
  unrescued : ∀ e, configuration place { args with url := none } = .error e → ∀ url,
    run connect place { args with url } = ⟨⟨[], [e.render place.colour], some 1⟩, none⟩
  /-- Where no configuration is in effect, or its address is not one, no call is made, and nothing is
  printed but one message apart from the output. -/
  stops : (∀ config, InEffect place args config →
      ∃ fault, Endpoint.read config.endpoint = .error fault) →
    ∃ message, run connect place args = ⟨⟨[], [message], some 1⟩, none⟩
  /-- Otherwise the input is sent. -/
  sends : ∀ config endpoint, InEffect place args config →
    Endpoint.read config.endpoint = .ok endpoint →
    let d : Dispatcher τ := ⟨connect config endpoint, config⟩
    Shows place.colour (Sending.start d (.sending (place.ids 0) input mode method))
      (send d (place.ids 0) input mode method) (run connect place args)
  /-- A blank input is no failure. -/
  blank : ∀ config endpoint, InEffect place args config →
    Endpoint.read config.endpoint = .ok endpoint → Text.Blanks input.toList →
    run connect place args = ⟨⟨[], [], some 0⟩, some ⟨connect config endpoint, config⟩⟩

/-- A program that has exited has shown all that comes of its input. -/
theorem complete_agree {colour : Bool} {op : Operation} {past : List (Happening Operation.Result)}
    {s : Sending τ} {sent : Course (Except OperationError Outcome) × Dispatcher τ}
    (sound : s.Sound colour d op past) (agree : Agree (op.alone d) sent) (exited : s.HasExited) :
    ∃ time result, sent.1.result? = some (time, result) ∧
      s.report = ⟨printed colour sent.1.notices, [], some (exitCode result.isOk)⟩ ∧
      s.dispatcher = sent.2 := by
  obtain ⟨time, r, ended, report, left⟩ := sound.complete exited
  have same := agree.result
  rw [ended, Option.map_some, eq_comm, Option.map_eq_some_iff] at same
  obtain ⟨⟨time', result⟩, finished, verdict⟩ := same
  obtain ⟨rfl, verdict⟩ := Prod.mk.inj verdict
  refine ⟨time', result, finished, ?_, left.trans agree.dispatcher⟩
  rw [report, agree.notices, ← verdict]

private theorem shows_send (place : Surroundings) (d : Dispatcher τ) (input : String) (mode : Mode)
    (method : Method) :
    let sent := send d (place.ids 0) input mode method
    Shows place.colour (Sending.start d (.sending (place.ids 0) input mode method)) sent
      ⟨reportSend place.colour sent.1, some sent.2⟩ := by
  intro sent
  have agree : Agree _ sent := send_agree d (place.ids 0) input mode method
  have sound := Sending.start_sound place.colour d (.sending (place.ids 0) input mode method)
  have ends (finishes : sent.1.result? ≠ none) :
      ((Operation.sending (place.ids 0) input mode method).alone d).1.result? ≠ none := by
    intro endless
    have same := agree.result
    rw [endless, Option.map_none, eq_comm, Option.map_eq_none_iff] at same
    exact finishes same
  constructor
  case ordered =>
    intro moves
    obtain ⟨past, later⟩ := sound.after moves
    obtain ⟨told, first, same⟩ := List.prefix_map_iff.mp later.output_prefix
    exact ⟨told, agree.notices ▸ first, same ▸ Notification.lines_render _ _⟩
  case complete =>
    intro moves s exited
    obtain ⟨past, later⟩ := sound.after moves
    obtain ⟨time, result, ended, report, left⟩ := complete_agree later agree exited
    refine ⟨time, result, ended, ?_, congrArg Report.errors report, congrArg Report.exitCode report,
      left, ?_⟩
    · rw [report]
      exact Notification.lines_render _ _
    · rw [report, left, reportSend, ended]
      rfl
  case exits =>
    intro finishes moves
    obtain ⟨past, later⟩ := sound.after moves
    exact later.exits (ends finishes)
  case fair =>
    intro finishes moves fair
    exact sound.exits_of_fair (ends finishes) fair

/-- What a program does that is started to send one input. -/
theorem send_law (connect : Config → Endpoint → TransportPair τ) (place : Surroundings)
    (command : args.command = .send input mode method) :
    SendLaw connect place args input mode method where
  effect _ := configuration_iff
  asked path asked userConfig file same := by
    have found : configuration { place with userConfig, file } args = configuration place args :=
      configuration_asked asked same
    simp only [run, start, found, command, perform]
  unrescued e failed url := run_stopped (start_error (configuration_error failed url))
  stops bad := by
    obtain ⟨e, failed⟩ := start_fails bad
    exact ⟨_, run_stopped failed⟩
  sends config endpoint effect read := by
    rw [run_send effect read command]
    exact shows_send place _ input mode method
  blank config endpoint effect read blanks := by
    rw [run_send effect read command]
    simp only [send, Dispatcher.handle, Input.ofText_blank blanks]
    rfl

/-- The user has no file, so that the defaults are in effect; a file that is asked for and is not
there is a failure, and so is a configured address that is none. -/
theorem send_law_no_file :
    let t : Rehearsal := ⟨.text, [(10, .failure ⟨.notFound, "gone"⟩)], []⟩
    let connect : Config → Endpoint → TransportPair Rehearsal :=
      fun _ _ => ⟨t, { t with mode := .binary }⟩
    let place : Surroundings :=
      { colour := false
        file := fun _ => .missing
        userConfig := some "config.json"
        input := []
        ids := fun i => ⟨i⟩
        schedule := .ascending }
    let args : Arguments := ⟨none, none, .send "1700" .binary .aPost⟩
    SendLaw connect place args "1700" .binary .aPost ∧ InEffect place args .default ∧
      (∃ endpoint, Endpoint.read Config.default.endpoint = .ok endpoint) ∧
      (∃ message, run connect place { args with config := some "config.json" } =
        ⟨⟨[], [message], some 1⟩, none⟩) ∧
      ∃ message, run connect place { args with url := some "" } =
        ⟨⟨[], [message], some 1⟩, none⟩ := by
  intro t connect place args
  have asked : SendLaw connect place { args with config := some "config.json" } "1700" .binary
      .aPost := send_law connect place rfl
  have nowhere : SendLaw connect place { args with url := some "" } "1700" .binary .aPost :=
    send_law connect place rfl
  refine ⟨send_law connect place rfl, ⟨.default, .absent rfl rfl, rfl⟩, ⟨_, rfl⟩, asked.stops ?_,
    nowhere.stops ?_⟩
  · rintro config ⟨base, ⟨⟨text, missing, -⟩⟩, -⟩
    cases missing
  · rintro config ⟨base, -, rfl⟩
    exact ⟨_, rfl⟩

end Program
end GatewayPing
