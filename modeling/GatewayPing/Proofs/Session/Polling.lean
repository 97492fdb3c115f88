import GatewayPing.Proofs.Session.Trace
import GatewayPing.Run

/-! Runs from their start to their end. Polling a run comes to the timeline of what its call brings,
cut at the moment of the cancellation: `Session.trace_running`. A session that was told to stop
before the first poll makes no call: `Session.trace_stopped`. -/
namespace GatewayPing

namespace Ongoing

variable {τ : Type} [Transport τ] {cancelAt : Option Moment} {m : Moment} {now due : Nat}
  {r : Ongoing} {s : Session} {t : τ}

theorem nextPoll?_of_due (pending : r.due? = some due) (ahead : now ≤ due)
    (early : ∀ m ∈ cancelAt, m.follows due = true) :
    r.nextPoll? cancelAt now = some (due, r) := by
  cases cancelAt with
  | none => simp [nextPoll?, pending, Nat.max_eq_right ahead]
  | some m => simp [nextPoll?, pending, Nat.max_eq_right ahead, early m rfl]

private theorem nextPoll?_of_cancel (waits : r.stage.waits = true) (running : m.follows now = true)
    (late : ∀ due, r.due? = some due → now ≤ due ∧ m.follows due = false) :
    r.nextPoll? (some m) now = some (m.time, r.cancel) := by
  have ahead : max now m.time = m.time := Nat.max_eq_right (Moment.le_time running)
  cases pending : r.due? with
  | none => simp [nextPoll?, pending, waits, ahead]
  | some due =>
    obtain ⟨after, missed⟩ := late due pending
    simp [nextPoll?, pending, Nat.max_eq_right after, missed, ahead]

theorem drive_none (quiet : r.nextPoll? cancelAt now = none) :
    r.drive cancelAt now t = ([], t) := by
  rw [drive]
  split
  · rfl
  · rename_i next
    rw [quiet] at next
    cases next

theorem drive_step {time : Nat} {next : Ongoing} {turn : Turn τ}
    (follows : r.nextPoll? cancelAt now = some (time, next)) (polled : next.poll time t = turn) :
    r.drive cancelAt now t =
      (turn.event.toList.map (time, ·) ++ (turn.run.drive cancelAt time turn.transport).1,
        (turn.run.drive cancelAt time turn.transport).2) := by
  subst polled
  rw [drive]
  split
  · rename_i quiet
    cases follows.symm.trans quiet
  · rename_i same
    cases follows.symm.trans same
    rfl

/-- A poll at which nothing happens leaves no mark. -/
theorem drive_silent {time : Nat} {next : Ongoing} {turn : Turn τ}
    (follows : r.nextPoll? cancelAt now = some (time, next)) (polled : next.poll time t = turn)
    (silent : turn.event = none) :
    r.drive cancelAt now t = turn.run.drive cancelAt time turn.transport := by
  rw [drive_step follows polled, silent]
  rfl

/-- Nothing happens to a run that is over. -/
theorem drive_done {result : Except OperationError Ending} :
    (⟨s, .done result⟩ : Ongoing).drive cancelAt now t = ([], t) := by
  refine drive_none ?_
  cases cancelAt <;> simp [nextPoll?, Stage.waits]

/-- A poll that ends a run is the last that matters. -/
theorem drive_finish {e : RunEnd} {time : Nat} {next : Ongoing}
    (follows : r.nextPoll? cancelAt now = some (time, next))
    (last : next.poll time t = next.finish t e) :
    r.drive cancelAt now t = ([(time, .ended e)], t) := by
  rw [drive_step follows last]
  simp only [finish, drive_done, List.append_nil, Option.toList_some, List.map_cons, List.map_nil]

theorem poll_started (idle : s.state = .idle) :
    (⟨s, .fresh⟩ : Ongoing).poll now t = { run := ⟨s.started, .opening⟩, transport := t } :=
  if_pos idle

theorem poll_opening (live : s.cancelled = false) :
    (⟨s, .opening⟩ : Ongoing).poll now t =
      { run := ⟨s, .calling ((Transport.stream t s.request s.headers).1.startingAt now)⟩
        transport := (Transport.stream t s.request s.headers).2
        call := some (.stream s.request s.headers) } :=
  poll_live rfl live

theorem poll_answer {reply : Except CallError Feed} (live : s.cancelled = false)
    (passed : due ≤ now) :
    (⟨s, .calling (.after due reply)⟩ : Ongoing).poll now t =
      (⟨s, .calling (.after due reply)⟩ : Ongoing).answered now t reply :=
  (poll_live rfl live).trans (if_pos passed)

theorem poll_item {since delay : Nat} {item : Except Status StreamPong}
    {items : List (Nat × Except Status StreamPong)} {staysOpen : Bool}
    (live : s.cancelled = false) (passed : since + delay ≤ now) :
    (⟨s, .listening since ⟨(delay, item) :: items, staysOpen⟩⟩ : Ongoing).poll now t =
      (⟨s, .listening since ⟨(delay, item) :: items, staysOpen⟩⟩ : Ongoing).receive now t
        ⟨items, staysOpen⟩ item :=
  (poll_live rfl live).trans (if_pos passed)

theorem poll_close {since : Nat} (live : s.cancelled = false) (passed : since ≤ now) :
    (⟨s, .listening since ⟨[], false⟩⟩ : Ongoing).poll now t =
      (⟨s, .listening since ⟨[], false⟩⟩ : Ongoing).finish t .completed :=
  (poll_live rfl live).trans (if_pos passed)

/-- A run that waits longer than its session may ends at the moment of the cancellation. -/
theorem drive_cancel (waits : r.stage.waits = true) (running : m.follows now = true)
    (late : ∀ due, r.due? = some due → now ≤ due ∧ m.follows due = false) :
    r.drive (some m) now t = ([(m.time, .ended .cancelled)], t) :=
  drive_finish (nextPoll?_of_cancel waits running late) (poll_cancelled waits rfl)

/-- A run that waits for nothing that will ever come. -/
theorem drive_never (waits : r.stage.waits = true) (quiet : r.due? = none)
    (running : ∀ m ∈ cancelAt, m.follows now = true) :
    r.drive cancelAt now t =
      (cancelAt.toList.map fun m => (m.time, .ended .cancelled), t) := by
  cases cancelAt with
  | none => exact drive_none (by simp [nextPoll?, quiet])
  | some m => exact drive_cancel waits (running m rfl) (by simp [quiet])

/-- Polling through a stream takes its elements in their order, up to the first failure, the end or
the cancellation. -/
theorem drive_listening (live : s.cancelled = false) (staysOpen : Bool)
    (items : List (Nat × Except Status StreamPong))
    (running : ∀ m ∈ cancelAt, m.follows now = true) :
    (⟨s, .listening now ⟨items, staysOpen⟩⟩ : Ongoing).drive cancelAt now t =
      ((Trace.ofItems staysOpen now items).cancelledWhen cancelAt, t) := by
  induction items generalizing s now with
  | nil =>
    cases staysOpen with
    | true =>
      rw [drive_never rfl (due?_live live) running]
      exact Prod.ext Trace.cancelledWhen_nil.symm rfl
    | false =>
      have follows := nextPoll?_of_due (r := ⟨s, .listening now ⟨[], false⟩⟩)
        (due?_live live) (Nat.le_refl now) running
      rw [drive_finish follows (poll_close live (Nat.le_refl now))]
      exact Prod.ext (Trace.cancelledWhen_ended running).symm rfl
  | cons item items ih =>
    obtain ⟨delay, item⟩ := item
    have pending := @due?_live s (.listening now ⟨(delay, item) :: items, staysOpen⟩) live
    by_cases early : ∀ m ∈ cancelAt, m.follows (now + delay) = true
    · have follows := nextPoll?_of_due pending (Nat.le_add_right now delay) early
      cases item with
      | error failure =>
        rw [drive_finish follows (poll_item live (Nat.le_refl _))]
        exact Prod.ext (Trace.cancelledWhen_ended early).symm rfl
      | ok p =>
        rw [drive_step follows (poll_item live (Nat.le_refl _))]
        simp only [receive, ih (s := s.apply (.pong p)) live early]
        exact Prod.ext (Trace.cancelledWhen_pong early).symm rfl
    · cases cancelAt with
      | none => simp at early
      | some m =>
        have late : m.follows (now + delay) = false := by simpa using early
        rw [drive_cancel rfl (running m rfl) (by
          intro due same
          cases pending.symm.trans same
          exact ⟨Nat.le_add_right now delay, late⟩)]
        cases item <;> exact Prod.ext (Trace.cancelledAt_late late).symm rfl

/-- Polling a run whose call was made comes to what the call brings. -/
theorem drive_calling (live : s.cancelled = false) {reply : Eventual (Except CallError Feed)}
    (ahead : ∀ due ∈ (Stage.calling reply).due?, now ≤ due)
    (running : ∀ m ∈ cancelAt, m.follows now = true) :
    (⟨s, .calling reply⟩ : Ongoing).drive cancelAt now t =
      ((Trace.ofReply reply).cancelledWhen cancelAt, t) := by
  cases reply with
  | never =>
    rw [drive_never rfl (due?_live live) running]
    exact Prod.ext Trace.cancelledWhen_nil.symm rfl
  | after due reply =>
    have pending := @due?_live s (.calling (.after due reply)) live
    by_cases early : ∀ m ∈ cancelAt, m.follows due = true
    · have follows := nextPoll?_of_due pending (ahead due rfl) early
      cases reply with
      | error e =>
        rw [drive_finish follows (poll_answer live (Nat.le_refl due))]
        exact Prod.ext (Trace.cancelledWhen_ended early).symm rfl
      | ok feed =>
        rw [drive_silent follows (poll_answer live (Nat.le_refl due)) rfl]
        exact drive_listening live feed.staysOpen feed.items early
    · cases cancelAt with
      | none => simp at early
      | some m =>
        have late : m.follows due = false := by simpa using early
        rw [drive_cancel rfl (running m rfl) (by
          intro other same
          cases pending.symm.trans same
          exact ⟨ahead due rfl, late⟩)]
        exact Prod.ext ((Trace.ofReply_after_orderly due reply).cancelledAt_eq late).symm rfl

/-- A run of an idle session that may go on makes its call at once. -/
theorem drive_fresh (idle : s.state = .idle) (live : s.cancelled = false)
    (running : ∀ m ∈ cancelAt, m.follows 0 = true) :
    (⟨s, .fresh⟩ : Ongoing).drive cancelAt 0 t =
      ((Trace.ofReply (Transport.stream t s.request s.headers).1).cancelledWhen cancelAt,
        (Transport.stream t s.request s.headers).2) := by
  have first : (⟨s, .fresh⟩ : Ongoing).nextPoll? cancelAt 0 = some (0, ⟨s, .fresh⟩) :=
    nextPoll?_of_due (due?_live live) (Nat.le_refl 0) running
  have second : (⟨s.started, .opening⟩ : Ongoing).nextPoll? cancelAt 0 =
      some (0, ⟨s.started, .opening⟩) :=
    nextPoll?_of_due (@due?_live s.started .opening live) (Nat.le_refl 0) running
  rw [drive_silent (t := t) first (poll_started idle) rfl]
  have opened := drive_silent (t := t) second (poll_opening live) rfl
  rw [Eventual.startingAt_zero] at opened
  exact opened.trans (@drive_calling _ _ _ _ s.started _ live _ (fun due _ => Nat.zero_le due)
    running)

/-- The next poll of a run whose session was told to stop by its start is at the start. -/
theorem nextPoll?_stopped {stage : Stage} (pending : (⟨s, stage⟩ : Ongoing).due? = some 0)
    (stopped : s.cancelled = true ∨ ∃ m ∈ cancelAt, m.follows 0 = false) :
    ∃ s', (⟨s, stage⟩ : Ongoing).nextPoll? cancelAt 0 = some (0, ⟨s', stage⟩) ∧
      s'.cancelled = true ∧ s'.state = s.state := by
  by_cases running : ∀ m ∈ cancelAt, m.follows 0 = true
  · have told : s.cancelled = true := by
      rcases stopped with told | ⟨m, given, late⟩
      · exact told
      · cases late.symm.trans (running m given)
    exact ⟨s, nextPoll?_of_due pending (Nat.le_refl 0) running, told, rfl⟩
  · cases cancelAt with
    | none => simp at running
    | some m =>
      have late : m.follows 0 = false := by simpa using running
      refine ⟨s.cancel, ?_, rfl, rfl⟩
      simp [nextPoll?, pending, late, Moment.time_of_late_at_start late, cancel]

/-- A session that was told to stop by the start of its run makes no call. -/
theorem drive_stopped (idle : s.state = .idle)
    (stopped : s.cancelled = true ∨ ∃ m ∈ cancelAt, m.follows 0 = false) :
    (⟨s, .fresh⟩ : Ongoing).drive cancelAt 0 t = ([(0, .ended .cancelled)], t) := by
  obtain ⟨s', first, told, same⟩ := nextPoll?_stopped due?_fresh stopped
  obtain ⟨s'', second, toldAgain, -⟩ :=
    @nextPoll?_stopped cancelAt s'.started _ due?_opening (.inl told)
  -- The first poll starts the session even so. It is the second that finds it cancelled.
  rw [drive_silent (t := t) first (poll_started (same.trans idle)) rfl]
  exact drive_finish second (poll_cancelled rfl toldAgain)

end Ongoing

namespace Session

variable {τ : Type} [Transport τ] {cancelAt : Option Moment} {s : Session} {t : τ}

/-- What is seen of an idle session that is run is what its call brings, up to the cancellation. -/
theorem trace_running (idle : s.state = .idle) (live : s.cancelled = false) :
    (s.trace t cancelAt).1 =
      (Trace.ofReply (Transport.stream t s.request s.headers).1).cancelledWhen cancelAt := by
  by_cases running : ∀ m ∈ cancelAt, m.follows 0 = true
  · rw [trace, Ongoing.drive_fresh idle live running]
  · cases cancelAt with
    | none => simp at running
    | some m =>
      have late : m.follows 0 = false := by simpa using running
      rw [trace, Ongoing.drive_stopped idle (.inr ⟨m, rfl, late⟩)]
      simp only [Trace.cancelledWhen, (Trace.ofReply_orderly _).cancelledAt_eq late,
        Moment.time_of_late_at_start late]

/-- A session that was told to stop before it is run makes no call, and ends at once. -/
theorem trace_stopped (idle : s.state = .idle) (stopped : s.cancelled = true) :
    s.trace t cancelAt = ([(0, .ended .cancelled)], t) :=
  Ongoing.drive_stopped idle (.inl stopped)

theorem trace_orderly (idle : s.state = .idle) : (s.trace t cancelAt).1.Orderly 0 := by
  cases live : s.cancelled with
  | true =>
    rw [trace_stopped idle live]
    exact .ended (Nat.le_refl 0)
  | false =>
    have whole := Trace.ofReply_orderly (Transport.stream t s.request s.headers).1
    rw [trace_running idle live]
    cases cancelAt with
    | none => exact whole
    | some m => exact Trace.cancelledAt_orderly whole (Nat.zero_le _)

/-- The run of an idle session makes one call, unless the session is told to stop before. -/
theorem trace_transport (idle : s.state = .idle) (live : s.cancelled = false)
    (running : ∀ m ∈ cancelAt, m.follows 0 = true) :
    (s.trace t cancelAt).2 = (Transport.stream t s.request s.headers).2 := by
  rw [trace, Ongoing.drive_fresh idle live running]

/-- The first poll of a run that nobody stops starts the session. -/
theorem trace_started (idle : s.state = .idle) :
    s.trace t none = (⟨s.started, .opening⟩ : Ongoing).drive none 0 t :=
  Ongoing.drive_silent
    (Ongoing.nextPoll?_of_due Ongoing.due?_fresh (Nat.le_refl 0) (by simp))
    (Ongoing.poll_started idle) rfl

end Session
end GatewayPing
