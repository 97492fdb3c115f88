import GatewayPing.Proofs.Concurrent.Solo

/-! Operations and their courses. An operation that is polled whenever it can go on does what its
course says, at the times that the course says, and leaves the dispatcher as the course does
(`Task.solo_alone`). -/
namespace GatewayPing

open Operation (Result)

namespace Course

variable {α β γ : Type}

private theorem map_ending (f : α → β) (time : Nat) (notices : List Notification) (result : α) :
    (Course.ending time notices result).map f = Course.ending time notices (f result) := by
  simp [Course.map, ending, Function.comp_def]

private theorem map_map (f : α → β) (g : β → γ) (c : Course α) :
    (c.map f).map g = c.map fun a => g (f a) := by
  simp only [Course.map, List.map_map]
  congr 1
  funext ⟨time, happening⟩
  cases happening <;> rfl

/-- The result of a run can be taken for that of an operation at once or afterwards. -/
theorem map_course (f : α → β) (s : Session) (result : Session → Except OperationError Ending → α)
    (trace : Trace) :
    (s.course result trace).map f = s.course (fun s r => f (result s r)) trace := by
  induction trace generalizing s with
  | nil => rfl
  | cons event trace ih =>
    obtain ⟨time, event⟩ := event
    cases event with
    | pong p => exact congrArg (_ :: ·) (ih _)
    | ended e => exact map_ending f time e.notices _

theorem notices_map (f : α → β) (c : Course α) : (c.map f).notices = c.notices := by
  induction c with
  | nil => rfl
  | cons event c ih =>
    obtain ⟨time, happening⟩ := event
    cases happening with
    | notice n => exact congrArg (n :: ·) ih
    | finished result => exact ih

theorem result?_map (f : α → β) (c : Course α) :
    (c.map f).result? = c.result?.map fun r => (r.1, f r.2) := by
  induction c with
  | nil => rfl
  | cons event c ih =>
    obtain ⟨time, happening⟩ := event
    cases happening with
    | notice n => exact ih
    | finished result => rfl

end Course

namespace Operation

variable {τ : Type} [Transport τ]

/-- The course of a session that is run for an operation. -/
def runCourse (op : Operation) (d : Dispatcher τ) (s : Session) : Course Result × Dispatcher τ :=
  match d.runSession s op.mode none with
  | (.error e, d) => (Course.ending 0 [] (op.ofRun s (.error e)), d)
  | (.ok run, d) => (run.session.course op.ofRun run.trace, d)

/-- The course of a single call that is made for an operation. -/
def callCourse (op : Operation) (d : Dispatcher τ) (method : Method) (message : Ping) :
    Course Result × Dispatcher τ :=
  let (reply, t) :=
    Transport.unary (d.transports.select op.mode) method message d.config.unaryHeaders
  ((Dispatcher.unaryCourse d.config.responseDelay.toNat reply).map op.ofPong, d.update op.mode t)

/-- The course of an operation that comes down to a plan. -/
def Plan.course (op : Operation) (d : Dispatcher τ) : Plan → Course Result × Dispatcher τ
  | .nothing notices result => (Course.ending 0 notices result, d)
  | .single method message => op.callCourse d method message
  | .stream s => op.runCourse d s

private theorem singlePlan_course (op : Operation) (d : Dispatcher τ) (method : Method)
    (raw : String) :
    ((d.unary method raw op.mode).1.map op.ofPong, (d.unary method raw op.mode).2) =
      (singlePlan method raw op.ofPong).course op d := by
  simp only [singlePlan, Dispatcher.unary]
  cases Input.timestamp? raw with
  | none => exact Prod.ext (Course.map_ending _ _ _ _) rfl
  | some timestamp => rfl

private theorem streamPlan_course {α : Type} (op : Operation) (d : Dispatcher τ) (id : RequestId)
    (raw : String) (result : Session → Ending → α) (f : Except OperationError α → Result)
    (agree : ∀ s r, f (r.map (result s)) = op.ofRun s r) :
    ((d.stream id raw op.mode result).1.map f, (d.stream id raw op.mode result).2) =
      (streamPlan d id raw fun e => f (.error e)).course op d := by
  simp only [streamPlan, Dispatcher.stream]
  cases made : d.newSession id raw with
  | error e =>
    refine Prod.ext ?_ rfl
    unfold Dispatcher.newSession at made
    split at made
    · cases made
      exact Course.map_ending _ _ _ _
    · cases made
  | ok s =>
    simp only [Plan.course, runCourse]
    rcases d.runSession s op.mode none with ⟨run, d'⟩
    cases run with
    | error e =>
      have refused := congrArg (Course.ending 0 []) (agree s (.error e))
      exact Prod.ext ((Course.map_ending _ _ _ _).trans refused) rfl
    | ok run => exact Prod.ext ((Course.map_course _ _ _ _).trans (by simp only [agree])) rfl

/-- The course of an operation is that of its plan. -/
theorem alone_plan (op : Operation) (d : Dispatcher τ) :
    op.alone d = (op.plan d).course op d := by
  cases op with
  | ping raw mode => exact singlePlan_course (.ping raw mode) d .aPing raw
  | unary method raw mode => exact singlePlan_course (.unary method raw mode) d method raw
  | submit id raw mode =>
    simp only [alone, plan, Dispatcher.handle]
    cases Input.ofText raw with
    | empty => exact Prod.ext (Course.map_ending _ _ _ _) rfl
    | unary text =>
      simp only [Course.map_map]
      exact singlePlan_course (.submit id raw mode) d .aPing text
    | streaming text =>
      refine streamPlan_course (.submit id raw mode) d id text _ _ ?_
      intro s r
      rfl
  | pingStream id raw mode =>
    refine streamPlan_course (.pingStream id raw mode) d id raw _ _ ?_
    intro s r
    rfl
  | runStream s mode =>
    simp only [alone, plan, Plan.course, runCourse]
    rfl

end Operation

/-- A session as it is left by a run that goes on as long as it can. -/
def Dispatcher.sessionAfter {τ : Type} [Transport τ] (d : Dispatcher τ) (s : Session)
    (mode : Mode) : Session :=
  match (d.runSession s mode none).1 with
  | .ok run => run.final
  | .error _ => s

namespace Task

variable {τ : Type} [Transport τ] {op : Operation} {d : Dispatcher τ}

/-- What comes of a single call once it is made. -/
theorem solo_calling (reply : Eventual (Except CallError Pong)) :
    ((⟨op, .calling reply⟩ : Task).solo d).course =
        (Dispatcher.unaryCourse d.config.responseDelay.toNat reply).map op.ofPong ∧
      ((⟨op, .calling reply⟩ : Task).solo d).dispatcher = d := by
  cases reply with
  | never =>
    rw [solo_settled rfl]
    exact ⟨rfl, rfl⟩
  | after time reply =>
    have answered := @poll_calling _ _ time op time reply d (Nat.le_refl time)
    cases reply with
    | error e =>
      rw [solo_finish rfl answered]
      exact ⟨(Course.map_ending _ _ _ _).symm, rfl⟩
    | ok p =>
      rw [solo_silent rfl answered, solo_finish rfl (poll_holding d (Nat.le_refl _))]
      exact ⟨(Course.map_ending _ _ _ _).symm, rfl⟩

/-- What comes of a session that is run. -/
theorem solo_run (s : Session) :
    ((⟨op, .running ⟨s, .fresh⟩⟩ : Task).solo d).course = (op.runCourse d s).1 ∧
      ((⟨op, .running ⟨s, .fresh⟩⟩ : Task).solo d).dispatcher = (op.runCourse d s).2 ∧
      ((⟨op, .running ⟨s, .fresh⟩⟩ : Task).solo d).task.session? =
        some (d.sessionAfter s op.mode) := by
  have pending : (⟨op, .running ⟨s, .fresh⟩⟩ : Task).due? = some 0 := Ongoing.due?_fresh
  by_cases idle : s.state = .idle
  · have started := @Ongoing.poll_started _ _ 0 s (d.transports.select op.mode) idle
    have first : (⟨op, .running ⟨s, .fresh⟩⟩ : Task).poll 0 d =
        { task := ⟨op, .running ⟨s.started, .opening⟩⟩, dispatcher := d } := by
      rw [poll_running d Ongoing.due?_fresh, proceed, started]
      simp only [Dispatcher.update_select]
      rfl
    have follows := @solo_running _ _ d op 0 ⟨s.started, .opening⟩ rfl fun _ _ => Nat.zero_le _
    rw [← Session.trace_started idle] at follows
    rw [solo_silent pending first]
    simp only [Operation.runCourse, Dispatcher.sessionAfter, Dispatcher.runSession_idle idle]
    exact ⟨follows.course, follows.dispatcher, follows.session⟩
  · have refused : (⟨s, .fresh⟩ : Ongoing).poll 0 (d.transports.select op.mode) =
        { run := ⟨s, .done (.error .alreadyStarted)⟩, transport := d.transports.select op.mode } :=
      if_neg idle
    rw [solo_step pending (poll_running d Ongoing.due?_fresh), proceed, refused,
      solo_settled (by exact Ongoing.due?_done)]
    simp only [Operation.runCourse, Dispatcher.sessionAfter, Dispatcher.runSession_busy idle,
      Dispatcher.update_select]
    exact ⟨rfl, rfl, rfl⟩

private theorem poll_fresh {plan : Operation.Plan} (planned : op.plan d = plan) :
    (⟨op, .fresh⟩ : Task).poll 0 d = (⟨op, .fresh⟩ : Task).start 0 d plan :=
  planned ▸ rfl

/-- An operation that is polled whenever it can go on does what its course says. -/
theorem solo_alone (op : Operation) (d : Dispatcher τ) :
    ((⟨op, .fresh⟩ : Task).solo d).course = (op.alone d).1 ∧
      ((⟨op, .fresh⟩ : Task).solo d).dispatcher = (op.alone d).2 := by
  rw [Operation.alone_plan]
  cases planned : op.plan d with
  | nothing notices result =>
    rw [solo_finish rfl (poll_fresh planned)]
    exact ⟨rfl, rfl⟩
  | single method message =>
    rw [solo_step rfl (poll_fresh planned)]
    simp only [start, Eventual.startingAt_zero]
    exact solo_calling _
  | stream s =>
    rw [solo_silent rfl (poll_fresh planned)]
    exact ⟨(solo_run s).1, (solo_run s).2.1⟩

/-- A session that is run is left as the run leaves it. -/
theorem solo_session (s : Session) (mode : Mode) (d : Dispatcher τ) :
    ((⟨.runStream s mode, .fresh⟩ : Task).solo d).task.session? = some (d.sessionAfter s mode) := by
  rw [solo_silent rfl (@poll_fresh _ _ (.runStream s mode) d _ rfl)]
  exact (solo_run s).2.2

end Task
end GatewayPing
