import GatewayPing.Proofs.Session.Polling

/-! Runs that are told to stop. A cancellation after the end of a run changes nothing. Any other
ends the run at its moment: what has come by then was told, and nothing else is
(`run_cancellation`). The two sides of a time differ only if something falls on it
(`run_before_eq_after`). As pongs come in the order of their times, the notifications of a run that
is stopped are the first of those of the run that is not, and a later cancellation only adds to
them.

A session that was told to stop before its run never makes its call, and no poll looks at what has
come before it has looked at the cancellation (`Ongoing.poll_cancelled`). -/
namespace GatewayPing

namespace Moment

/-- A moment that comes no earlier than another: it follows all that the other follows. -/
instance : LE Moment where
  le m later := ∀ time, m.follows time = true → later.follows time = true

private theorem before_le_before {time later : Nat} (ordered : time ≤ later) :
    (.before time : Moment) ≤ .before later := by
  intro other early
  exact decide_eq_true (Nat.lt_of_lt_of_le (of_decide_eq_true early) ordered)

private theorem after_le_after {time later : Nat} (ordered : time ≤ later) :
    (.after time : Moment) ≤ .after later := by
  intro other early
  exact decide_eq_true (Nat.le_trans (of_decide_eq_true early) ordered)

private theorem before_le_after (time : Nat) : (.before time : Moment) ≤ .after time := by
  intro other early
  exact decide_eq_true (Nat.le_of_lt (of_decide_eq_true early))

/-- Only the events at a time tell its two sides apart. -/
theorem follows_before_eq_after {time other : Nat} (apart : other ≠ time) :
    (.before time : Moment).follows other = (.after time : Moment).follows other := by
  simp only [follows, Nat.le_iff_lt_or_eq, apart, or_false]

end Moment

namespace Trace

variable {m : Moment} {start : Nat} {trace : Trace}

/-- The pongs that come before a moment. -/
def pongsBefore (m : Moment) (trace : Trace) : Timeline StreamPong :=
  trace.pongs.filter (m.follows ·.1)

private theorem pongsBefore_pong {time : Nat} {p : StreamPong} (early : m.follows time = true) :
    pongsBefore m ((time, .pong p) :: trace) = (time, p) :: trace.pongsBefore m :=
  List.filter_cons_of_pos early

private theorem Orderly.le_ending {time : Nat} {e : RunEnd} (orderly : Orderly start trace)
    (ends : trace.ending? = some (time, e)) : start ≤ time := by
  induction orderly with
  | nil => cases ends
  | pong forward rest ih => exact Nat.le_trans forward (ih ends)
  | ended forward =>
    cases ends
    exact forward

/-- Nothing of a trace comes before a moment that comes before its start. -/
theorem Orderly.pongsBefore_nil (orderly : Orderly start trace) (late : m.follows start = false) :
    trace.pongsBefore m = [] := by
  induction orderly with
  | nil => rfl
  | ended forward => rfl
  | @pong start time p trace forward rest ih =>
    have missed := Moment.late_of_le forward late
    simpa [pongsBefore, missed] using ih missed

/-- A trace goes forward: what comes before a moment are the first pongs. -/
theorem Orderly.pongsBefore_prefix (orderly : Orderly start trace) :
    trace.pongsBefore m <+: trace.pongs := by
  induction orderly with
  | nil => exact List.nil_prefix
  | ended forward => exact List.nil_prefix
  | @pong start time p trace forward rest ih =>
    cases early : m.follows time with
    | true =>
      rw [pongsBefore_pong early]
      exact List.cons_prefix_cons.mpr ⟨rfl, ih⟩
    | false =>
      rw [(Orderly.pong (Nat.le_refl time) rest).pongsBefore_nil early]
      exact List.nil_prefix

/-- What comes before a moment are the first of what comes before a later one. -/
theorem Orderly.pongsBefore_mono {later : Moment} (orderly : Orderly start trace)
    (ordered : m ≤ later) : trace.pongsBefore m <+: trace.pongsBefore later := by
  induction orderly with
  | nil => exact List.nil_prefix
  | ended forward => exact List.nil_prefix
  | @pong start time p trace forward rest ih =>
    cases early : m.follows time with
    | true =>
      rw [pongsBefore_pong early, pongsBefore_pong (ordered time early)]
      exact List.cons_prefix_cons.mpr ⟨rfl, ih⟩
    | false =>
      rw [(Orderly.pong (Nat.le_refl time) rest).pongsBefore_nil early]
      exact List.nil_prefix

/-- A cancellation after the end of a trace changes nothing. -/
theorem Orderly.cancelledAt_of_ended {time : Nat} {e : RunEnd} (orderly : Orderly start trace)
    (ends : trace.ending? = some (time, e)) (early : m.follows time = true) :
    cancelledAt m trace = trace := by
  induction orderly with
  | nil => cases ends
  | pong forward rest ih =>
    have passed := Moment.follows_of_le (rest.le_ending ends) early
    simp only [cancelledAt, passed, ↓reduceIte, ih ends]
  | ended forward =>
    cases ends
    simp only [cancelledAt, early, ↓reduceIte]

/-- A trace that has not ended by the moment of the cancellation ends then. -/
theorem Orderly.cancelledAt_ending? (orderly : Orderly start trace)
    (open' : ∀ time e, trace.ending? = some (time, e) → m.follows time = false) :
    (cancelledAt m trace).ending? = some (m.time, .cancelled) := by
  induction orderly with
  | nil => rfl
  | @pong start time p trace forward rest ih =>
    cases early : m.follows time with
    | true => simpa only [cancelledAt, early, ↓reduceIte, ending?_pong] using ih open'
    | false =>
      rw [cancelledAt_late early]
      rfl
  | @ended start time e forward =>
    rw [cancelledAt_late (open' time e rfl)]
    rfl

/-- The pongs of a trace that is cut are those that come before the cancellation. -/
theorem Orderly.cancelledAt_pongs (orderly : Orderly start trace) :
    (cancelledAt m trace).pongs = trace.pongsBefore m := by
  induction orderly with
  | nil => rfl
  | @pong start time p trace forward rest ih =>
    cases early : m.follows time with
    | true => simp [cancelledAt, early, pongsBefore_pong early, ih]
    | false =>
      rw [cancelledAt_late early, (Orderly.pong (Nat.le_refl time) rest).pongsBefore_nil early]
      rfl
  | @ended start time e forward =>
    cases early : m.follows time with
    | true => simp [cancelledAt, early, pongsBefore]
    | false =>
      rw [cancelledAt_late early]
      rfl

/-- A time at which nothing happens has no sides. -/
theorem cancelledAt_before_eq_after {time : Nat} (clear : ∀ event ∈ trace, event.1 ≠ time) :
    trace.cancelledAt (.before time) = trace.cancelledAt (.after time) := by
  induction trace with
  | nil => rfl
  | cons event trace ih =>
    obtain ⟨apart, rest⟩ := List.forall_mem_cons.mp clear
    obtain ⟨other, event⟩ := event
    have side := Moment.follows_before_eq_after apart
    cases event with
    | pong p => simp only [cancelledAt, side, ih rest, Moment.time]
    | ended e => simp only [cancelledAt, side, Moment.time]

end Trace

namespace Session

namespace Run

/-- Whether a run has ended by a moment. -/
def EndsBefore (run : Run) (m : Moment) : Prop :=
  ∃ time result, run.course.result? = some (time, result) ∧ m.follows time = true

/-- A run of a session that is stopped at a moment, when some pongs had arrived. -/
structure StopsAt (run : Run) (s : Session) (m : Moment) (arrived : Timeline StreamPong) :
    Prop where
  result : run.course.result? = some (m.time, run.final, .ok .cancelled)
  final : run.final =
    { s with state := .done .cancelled, received := arrived.length, cancelled := true }
  notices : run.course.notices = arrived.map fun p => p.2.told
  quiet : ∀ n ∈ run.course.notices, n.severity = .success

section
variable {s : Session} {m : Moment} {trace : Trace}

private theorem course_result?_eq_some (orderly : trace.Orderly 0) {time : Nat}
    {result : Session × Except OperationError Ending} :
    (⟨s, trace⟩ : Run).course.result? = some (time, result) ↔
      ∃ e, trace.ending? = some (time, e) ∧ result = ((⟨s, trace⟩ : Run).final, e.result) := by
  rw [course, course_result? _ _ orderly, Option.map_eq_some_iff]
  constructor
  · rintro ⟨⟨time, e⟩, found, same⟩
    cases same
    exact ⟨e, found, rfl⟩
  · rintro ⟨e, found, rfl⟩
    exact ⟨(time, e), found, rfl⟩

/-- A cancellation comes too late for a run that has ended. -/
theorem cancelledAt_of_endsBefore (orderly : trace.Orderly 0)
    (ended : (⟨s, trace⟩ : Run).EndsBefore m) : trace.cancelledAt m = trace := by
  obtain ⟨time, result, found, early⟩ := ended
  obtain ⟨e, ends, -⟩ := (course_result?_eq_some orderly).mp found
  exact orderly.cancelledAt_of_ended ends early

/-- A run that has not ended by the moment of the cancellation ends then. -/
theorem cancelledAt_ending?_of_not (orderly : trace.Orderly 0)
    (running : ¬ (⟨s, trace⟩ : Run).EndsBefore m) :
    (trace.cancelledAt m).ending? = some (m.time, .cancelled) := by
  refine orderly.cancelledAt_ending? ?_
  intro time e found
  apply Bool.eq_false_iff.mpr
  intro early
  exact running ⟨time, _, (course_result?_eq_some orderly).mpr ⟨e, found, rfl⟩, early⟩

/-- The user is told of the pongs that come before the cancellation, and of nothing else. -/
theorem cut_notices (orderly : trace.Orderly 0) (running : ¬ (⟨s, trace⟩ : Run).EndsBefore m) :
    (⟨s, trace.cancelledAt m⟩ : Run).course.notices =
      (trace.pongsBefore m).map fun p => p.2.told := by
  have cut := Trace.cancelledAt_orderly orderly (Nat.zero_le m.time)
  simp [course, course_notices _ _ cut, cancelledAt_ending?_of_not orderly running,
    orderly.cancelledAt_pongs, RunEnd.notices]

/-- A run that has not ended is stopped. -/
theorem stopsAt_of_not (idle : s.Idle) (orderly : trace.Orderly 0)
    (running : ¬ (⟨s.started, trace⟩ : Run).EndsBefore m) :
    (⟨s.started, trace.cancelledAt m⟩ : Run).StopsAt s m (trace.pongsBefore m) := by
  have cut := Trace.cancelledAt_orderly orderly (Nat.zero_le m.time)
  have ends := cancelledAt_ending?_of_not orderly running
  refine ⟨(course_result?_eq_some cut).mpr ⟨_, ends, rfl⟩, ?_, cut_notices orderly running, ?_⟩
  · simp [final, after_eq _ cut, ends, orderly.cancelledAt_pongs, started, idle.received,
      RunEnd.sessionEnd]
  · rw [cut_notices orderly running]
    rintro n told
    obtain ⟨p, -, rfl⟩ := List.mem_map.mp told
    rfl

/-- What the user is told of a run that may be stopped is a beginning of what the user is told of
the run that is not. -/
theorem cut_notices_prefix (orderly : trace.Orderly 0) :
    (⟨s, trace.cancelledAt m⟩ : Run).course.notices <+: (⟨s, trace⟩ : Run).course.notices := by
  by_cases ended : (⟨s, trace⟩ : Run).EndsBefore m
  · exact (cancelledAt_of_endsBefore orderly ended).symm ▸ List.prefix_rfl
  · rw [cut_notices orderly ended, course, course_notices _ _ orderly]
    exact ((orderly.pongsBefore_prefix).map _).trans (List.prefix_append _ _)

/-- The later a run is stopped, the more the user is told. -/
theorem cut_notices_mono {later : Moment} (orderly : trace.Orderly 0) (ordered : m ≤ later) :
    (⟨s, trace.cancelledAt m⟩ : Run).course.notices <+:
      (⟨s, trace.cancelledAt later⟩ : Run).course.notices := by
  by_cases endedLater : (⟨s, trace⟩ : Run).EndsBefore later
  · rw [cancelledAt_of_endsBefore orderly endedLater]
    exact cut_notices_prefix orderly
  · have running : ¬ (⟨s, trace⟩ : Run).EndsBefore m := by
      rintro ⟨time, result, found, early⟩
      exact endedLater ⟨time, result, found, ordered time early⟩
    rw [cut_notices orderly running, cut_notices orderly endedLater]
    exact (orderly.pongsBefore_mono ordered).map _

end

end Run

variable {τ : Type} [Transport τ] {s : Session}

/-- The run of a session that nobody stops, and its runs with a cancellation at each moment. -/
structure Cuts (s : Session) (t : τ) (full : Run) (cut : Moment → Run) : Prop where
  whole : s.run t none = (.ok full, (Transport.stream t s.request s.headers).2)
  /-- The call is made unless the cancellation comes before everything. -/
  part : ∀ m, s.run t (some m) =
    (.ok (cut m), if m.follows 0 then (Transport.stream t s.request s.headers).2 else t)
  /-- A cancellation after the end makes no difference. -/
  tooLate : ∀ m, full.EndsBefore m → s.run t (some m) = s.run t none
  /-- Any other ends the run, after the pongs that have come by then. -/
  inTime : ∀ m, ¬ full.EndsBefore m →
    (cut m).StopsAt s m ((Trace.ofReply (Transport.stream t s.request s.headers).1).pongsBefore m)
  beginning : ∀ m, (cut m).course.notices <+: full.course.notices
  growing : ∀ m later, m ≤ later → (cut m).course.notices <+: (cut later).course.notices
  /-- The later the time of the cancellation, the more is told, on each side of that time. -/
  ordered : ∀ time later, time ≤ later →
    (cut (.before time)).course.notices <+: (cut (.before later)).course.notices ∧
    (cut (.before later)).course.notices <+: (cut (.after later)).course.notices ∧
    (cut (.after time)).course.notices <+: (cut (.after later)).course.notices
  /-- On which side of its time the cancellation is does not matter when nothing falls on it. -/
  sides : ∀ time,
    (∀ event ∈ Trace.ofReply (Transport.stream t s.request s.headers).1, event.1 ≠ time) →
    (s.run t (some (.before time))).1 = (s.run t (some (.after time))).1
  /-- A session that was told to stop before its run leaves its transport alone. -/
  untouched : ∀ cancelAt,
    s.cancel.run t cancelAt = (.ok ⟨s.cancel.started, [(0, .ended .cancelled)]⟩, t)
  /-- At any poll the cancellation comes first, whatever the run waits for and has got. -/
  first : ∀ (now : Nat) (r : Ongoing) (t : τ), r.session.cancelled = true →
    r.stage.waits = true → r.poll now t = r.finish t .cancelled

/-- A session that is told to stop before its run ends at once, and its transport is left alone. -/
theorem run_stopped {t : τ} (idle : s.state = .idle) (stopped : s.cancelled = true)
    (cancelAt : Option Moment) :
    s.run t cancelAt = (.ok ⟨s.started, [(0, .ended .cancelled)]⟩, t) := by
  rw [run_idle idle, trace_stopped idle stopped]

private theorem run_uncut {t : τ} (idle : s.state = .idle) (live : s.cancelled = false) :
    s.run t none = (.ok ⟨s.started, Trace.ofReply (Transport.stream t s.request s.headers).1⟩,
      (Transport.stream t s.request s.headers).2) := by
  rw [run_idle idle, trace_transport idle live (by simp), trace_running idle live]
  rfl

private theorem run_cut {t : τ} (idle : s.state = .idle) (live : s.cancelled = false) (m : Moment) :
    s.run t (some m) =
      (.ok ⟨s.started,
          (Trace.ofReply (Transport.stream t s.request s.headers).1).cancelledAt m⟩,
        if m.follows 0 then (Transport.stream t s.request s.headers).2 else t) := by
  rw [run_idle idle, trace_running idle live]
  refine Prod.ext rfl ?_
  cases running : m.follows 0 with
  | true => exact trace_transport idle live (by simp [running])
  | false =>
    have stopped : s.trace t (some m) = ([(0, .ended .cancelled)], t) :=
      Ongoing.drive_stopped idle (.inr ⟨m, rfl, running⟩)
    simp [stopped]

/-- When nothing comes of the call at the very time of the cancellation, it does not matter on which
side of that time the cancellation is. -/
theorem run_before_eq_after {t : τ} {time : Nat} (idle : s.state = .idle)
    (live : s.cancelled = false)
    (clear : ∀ event ∈ Trace.ofReply (Transport.stream t s.request s.headers).1,
      event.1 ≠ time) :
    (s.run t (some (.before time))).1 = (s.run t (some (.after time))).1 := by
  rw [run_cut idle live, run_cut idle live, Trace.cancelledAt_before_eq_after clear]

/-- A cancellation cuts a run exactly at its moment. -/
theorem run_cancellation (idle : s.Idle) (live : s.cancelled = false) (t : τ) :
    ∃ (full : Run) (cut : Moment → Run), s.Cuts t full cut := by
  have orderly := Trace.ofReply_orderly (Transport.stream t s.request s.headers).1
  refine ⟨_, _, run_uncut idle.state live, run_cut idle.state live, ?_, ?_, ?_, ?_, ?_, ?_, ?_, ?_⟩
  · intro m ended
    have start : m.follows 0 = true := by
      obtain ⟨time, result, -, early⟩ := ended
      exact Moment.follows_of_le (Nat.zero_le time) early
    rw [run_cut idle.state live, run_uncut idle.state live, start,
      Run.cancelledAt_of_endsBefore orderly ended, if_pos rfl]
  · intro m running
    exact Run.stopsAt_of_not idle orderly running
  · intro m
    exact Run.cut_notices_prefix orderly
  · intro m later ordered
    exact Run.cut_notices_mono orderly ordered
  · intro time later ordered
    exact ⟨Run.cut_notices_mono orderly (Moment.before_le_before ordered),
      Run.cut_notices_mono orderly (Moment.before_le_after later),
      Run.cut_notices_mono orderly (Moment.after_le_after ordered)⟩
  · intro time clear
    exact run_before_eq_after idle.state live clear
  · intro cancelAt
    exact run_stopped (s := s.cancel) idle.state rfl cancelAt
  · intro now r t told waits
    exact Ongoing.poll_cancelled waits told

/-- A stream that stays open is stopped after its first pong: that is what the user is told of. -/
theorem run_cancellation_open_stream :
    let t : Rehearsal := ⟨.text, [], [(20, .feed ⟨[(5, .ok ⟨1700, "svc-a"⟩),
      (30, .ok ⟨1700, "svc-b"⟩)], true⟩)]⟩
    ∃ (full : Run) (cut : Moment → Run), (create 3 1700 .default ⟨0⟩).Cuts t full cut :=
  run_cancellation (create_idle 3 1700 .default ⟨0⟩) rfl _

end Session
end GatewayPing
