import GatewayPing.Proofs.Concurrent.Alone
import GatewayPing.Proofs.Concurrent.Joining
import GatewayPing.Proofs.Concurrent.Late
import GatewayPing.Sending

/-! What holds of a program that sends one input, at any time (`Sending.Sound`). What was told
so far, and what is still to come of the operation, is all that comes of it when it is carried out
alone, whatever the times of the polls; what was printed and what the printer will still get is all
that was told. Every move preserves that (`Sending.Sound.move`). -/
namespace GatewayPing

open Operation (Result)

/-! Polls of an operation beside which nothing else goes on. -/

/-- What becomes of a transport by a call. -/
def Call.make {τ : Type} [Transport τ] (t : τ) : Call → τ
  | .unary method ping headers => (Transport.unary t method ping headers).2
  | .stream ping headers => (Transport.stream t ping headers).2

/-- What becomes of a dispatcher by a call in a mode, if one is made. -/
def Dispatcher.make {τ : Type} [Transport τ] (d : Dispatcher τ) : Option (Mode × Call) → Dispatcher τ
  | none => d
  | some (mode, call) => d.update mode (call.make (d.transports.select mode))

namespace Task

variable {τ : Type} [Transport τ] {task task' : Task} {d : Dispatcher τ} {now due : Nat}

private theorem answered_dispatcher (reply : Except CallError Pong) :
    (task.answered now d reply).dispatcher = d.make (task.answered now d reply).call := by
  cases reply <;> rfl

private theorem proceed_dispatcher (r : Ongoing) :
    (task.proceed now d r).dispatcher = d.make (task.proceed now d r).call := by
  have polled := Ongoing.poll_polled now r (d.transports.select task.op.mode)
  simp only [proceed]
  generalize r.poll now (d.transports.select task.op.mode) = turn at polled
  cases polled with
  | called live => rfl
  | _ => exact Dispatcher.update_select d task.op.mode

/-- A poll changes the dispatcher by the call that it makes, and in no other way. -/
theorem poll_dispatcher (task : Task) (now : Nat) (d : Dispatcher τ) :
    (task.poll now d).dispatcher = d.make (task.poll now d).call := by
  unfold poll
  split
  · cases task.op.plan d <;> rfl
  · split
    · exact answered_dispatcher _
    · rfl
  · rfl
  · split <;> rfl
  · rfl
  · exact proceed_dispatcher _
  · rfl

private theorem proceed_over {r : Ongoing} {result : Result}
    (ended : .finished result ∈ (task.proceed now d r).events) :
    (task.proceed now d r).task.isOver = true := by
  have polled := Ongoing.poll_polled now r (d.transports.select task.op.mode)
  simp only [proceed] at ended ⊢
  generalize r.poll now (d.transports.select task.op.mode) = turn at polled ended
  cases polled with
  | waiting undue =>
    obtain ⟨s, stage⟩ := r
    cases stage with
    | done result => rfl
    | _ => simp [seen] at ended
  | refused busy => rfl
  | ended e waits => rfl
  | _ => simp [seen, Ongoing.call] at ended

/-- A poll that ends an operation leaves nothing of it. -/
theorem isOver_of_finished {result : Result}
    (ended : .finished result ∈ (task.poll now d).events) :
    (task.poll now d).task.isOver = true := by
  obtain ⟨op, state⟩ := task
  cases state with
  | fresh =>
    simp only [poll] at ended ⊢
    cases planned : op.plan d with
    | nothing notices result => rfl
    | _ => simp [planned, start] at ended
  | finished => simp [poll] at ended
  | holding due p =>
    by_cases passed : due ≤ now
    · rw [poll_holding d passed]
      rfl
    · simp [poll, passed] at ended
  | calling reply =>
    cases reply with
    | never => simp [poll] at ended
    | after due reply =>
      by_cases passed : due ≤ now
      · rw [poll_calling d passed] at ended ⊢
        cases reply with
        | ok p => simp [answered] at ended
        | error e => rfl
      · simp [poll, passed] at ended
  | running r =>
    cases pending : r.due? with
    | none =>
      rw [poll_undue d (by intro due same; cases pending.symm.trans same)] at ended
      cases ended
    | some due =>
      rw [poll_running d pending] at ended ⊢
      exact proceed_over ended

/-- Of operations that wait for the same the same comes on the same dispatcher. -/
theorem solo_alike (d : Dispatcher τ) (same : task.Same task') :
    (task.solo d).Matches (task'.solo d) ∧ (task.solo d).dispatcher = (task'.solo d).dispatcher := by
  refine solo_related (fun {d e} related mode => ?_) ?_ rfl same
  · exact related ▸ .refl d mode
  · rintro d _ task task' now now' rfl matched
    rw [poll_dispatcher, poll_dispatcher, matched.call]

/-- What comes of an operation is what comes of its next poll and the rest, however late or early
the poll comes. -/
theorem solo_next (task : Task) (now : Nat) (d : Dispatcher τ) :
    let turn := task.poll now d
    (task.solo d).course.events =
        turn.events ++ (turn.task.solo turn.dispatcher).course.events ∧
      (task.solo d).dispatcher = (turn.task.solo turn.dispatcher).dispatcher := by
  intro turn
  by_cases ready : ∃ due, task.due? = some due ∧ due ≤ now
  · obtain ⟨due, pending, passed⟩ := ready
    have matched := poll_matches (.refl d _) (Same.refl task) pending (Nat.le_refl due) pending
      passed
    have left : (task.poll due d).dispatcher = turn.dispatcher := by
      rw [poll_dispatcher, poll_dispatcher, matched.call]
    obtain ⟨rest, after⟩ := solo_alike (task.poll due d).dispatcher matched.task
    rw [left] at rest after
    rw [solo_step pending rfl, left]
    refine ⟨?_, after⟩
    simp only [Turn.before, Timeline.events_append, Timeline.events_at, matched.events, rest.course]
    rfl
  · have early : turn = { task := task, dispatcher := d } :=
      poll_undue d fun due pending => Nat.not_le.mp fun passed => ready ⟨due, pending, passed⟩
    rw [early]
    exact ⟨rfl, rfl⟩

end Task

/-! Ends of operations. -/

namespace Happening

private theorem verdict?_append (first second : List (Happening Result)) :
    verdict? (first ++ second) = (verdict? first).or (verdict? second) := List.findSome?_append

/-- Events of which the end of an operation is one. -/
theorem finished_of_verdict? {events : List (Happening Result)} {succeeded : Bool}
    (ended : verdict? events = some succeeded) : ∃ result, .finished result ∈ events := by
  obtain ⟨event, member, said⟩ := List.exists_of_findSome?_eq_some ended
  cases event with
  | notice n => cases said
  | finished result => exact ⟨result, member⟩

/-- The verdict on the events of a course is that on its result. -/
theorem verdict?_events (c : Course Result) :
    verdict? c.events = c.result?.map (·.2.succeeded) := by
  induction c with
  | nil => rfl
  | cons event c ih =>
    obtain ⟨time, happening⟩ := event
    cases happening with
    | notice n => exact ih
    | finished result => rfl

end Happening

/-! The program. -/

namespace Sending

/-- How the operation ended, once that is known. -/
def Stage.verdict? : Stage → Option Bool
  | .awaiting => none
  | .closing succeeded => some succeeded
  | .exited succeeded => some succeeded

variable {τ : Type} [Transport τ] {colour : Bool} {d : Dispatcher τ} {op : Operation}
  {past : List (Happening Result)} {s : Sending τ}

/-- What happened so far is `past`, and nothing was lost. -/
structure Sound (colour : Bool) (d : Dispatcher τ) (op : Operation)
    (past : List (Happening Result)) (s : Sending τ) : Prop where
  course : (op.alone d).1.events = past ++ (s.task.solo s.dispatcher).course.events
  dispatcher : (op.alone d).2 = (s.task.solo s.dispatcher).dispatcher
  verdict : s.stage.verdict? = Happening.verdict? past
  settled : s.stage ≠ .awaiting → s.task.due? = none
  drained : ∀ succeeded, s.stage = .exited succeeded → s.channel = []
  printed : s.output ++ Program.printed colour s.channel =
    Program.printed colour (past.filterMap Happening.notice?)

theorem start_sound (colour : Bool) (d : Dispatcher τ) (op : Operation) :
    Sound colour d op [] (start d op) where
  course := congrArg Timeline.events (Task.solo_alone op d).1.symm
  dispatcher := (Task.solo_alone op d).2.symm
  verdict := rfl
  settled awaited := absurd rfl awaited
  drained := nofun
  printed := rfl

private theorem Sound.poll (sound : Sound colour d op past s) (time : Nat) :
    ∃ past', Sound colour d op past' (s.poll time) := by
  cases stage : s.stage with
  | awaiting =>
    have now := s.task.solo_next (max s.clock time) s.dispatcher
    simp only [Sending.poll, stage]
    generalize polled : s.task.poll (max s.clock time) s.dispatcher = turn at now
    have undecided : Happening.verdict? past = none := by rw [← sound.verdict, stage]; rfl
    refine ⟨past ++ turn.events, ?_, ?_, ?_, ?_, ?_, ?_⟩
    · rw [sound.course, now.1, List.append_assoc]
    · rw [sound.dispatcher, now.2]
    · rw [Happening.verdict?_append, undecided, Option.none_or]
      cases Happening.verdict? turn.events <;> rfl
    · intro closed
      cases ended : Happening.verdict? turn.events with
      | none => simp [ended] at closed
      | some succeeded =>
        obtain ⟨result, member⟩ := Happening.finished_of_verdict? ended
        subst polled
        exact Task.due?_over (Task.isOver_of_finished member)
    · intro succeeded exited
      cases ended : Happening.verdict? turn.events <;> simp [ended] at exited
    · rw [Course.notices_events, Timeline.events_at, List.filterMap_append]
      simp only [Program.printed, List.map_append, ← List.append_assoc]
      exact congrArg (· ++ _) sound.printed
  | _ =>
    simp only [Sending.poll, stage]
    exact ⟨past, sound⟩

private theorem Sound.print (sound : Sound colour d op past s) :
    Sound colour d op past (s.print colour) := by
  unfold Sending.print
  split
  · exact sound
  · rename_i n channel queued
    refine { sound with drained := ?_, printed := ?_ }
    · intro succeeded ended
      cases (sound.drained succeeded ended).symm.trans queued
    · rw [← sound.printed, queued]
      simp [Program.printed]

private theorem Sound.exit (sound : Sound colour d op past s) : Sound colour d op past s.exit := by
  unfold Sending.exit
  split
  · rename_i succeeded stage drained
    have verdict := sound.verdict
    rw [stage] at verdict
    exact { sound with
      verdict := verdict
      settled := fun _ => sound.settled (by rw [stage]; nofun)
      drained := fun _ _ => drained }
  · exact sound

/-- Every move keeps what holds of the program. -/
theorem Sound.move (sound : Sound colour d op past s) (m : Move) :
    ∃ past', Sound colour d op past' (s.move colour m) := by
  cases m with
  | poll time => exact sound.poll time
  | print => exact ⟨past, sound.print⟩
  | exit => exact ⟨past, sound.exit⟩

theorem Sound.after (sound : Sound colour d op past s) (moves : List Move) :
    ∃ past', Sound colour d op past' (s.after colour moves) := by
  induction moves generalizing past s with
  | nil => exact ⟨past, sound⟩
  | cons m moves ih =>
    obtain ⟨past', next⟩ := sound.move m
    exact ih next

/-- Nothing is printed that was not told, and nothing before what was told earlier. -/
theorem Sound.output_prefix (sound : Sound colour d op past s) :
    s.output <+: Program.printed colour (op.alone d).1.notices := by
  have told : s.output <+: Program.printed colour (past.filterMap Happening.notice?) :=
    sound.printed ▸ List.prefix_append _ _
  rw [Course.notices_events, sound.course, List.filterMap_append, Program.printed, List.map_append]
  exact told.trans (List.prefix_append _ _)

end Sending
end GatewayPing
