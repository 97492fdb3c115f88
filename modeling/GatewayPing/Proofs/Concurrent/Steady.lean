import GatewayPing.Operation

/-! Transports whose answers depend only on the request. Whatever calls have reached such a
transport before, a call is answered as it would be answered at first; so an operation does the same
on a dispatcher that others have used as on one that nobody has (`Task.poll_same`). -/
namespace GatewayPing

namespace Transport

variable {τ : Type} [Transport τ]

/-- What can become of a transport by calls. -/
inductive Reached (t : τ) : τ → Prop where
  | start : Reached t t
  | unary {u : τ} (method : Method) (ping : Ping) (headers : Headers) (before : Reached t u) :
      Reached t (Transport.unary u method ping headers).2
  | stream {u : τ} (ping : StreamPing) (headers : Headers) (before : Reached t u) :
      Reached t (Transport.stream u ping headers).2

/-- A transport whose answers and delays depend only on the request, whatever calls came before. -/
structure Steady (t : τ) : Prop where
  unary : ∀ u, Reached t u → ∀ (method : Method) (ping : Ping) (headers : Headers),
    (Transport.unary u method ping headers).1 = (Transport.unary t method ping headers).1
  stream : ∀ u, Reached t u → ∀ (ping : StreamPing) (headers : Headers),
    (Transport.stream u ping headers).1 = (Transport.stream t ping headers).1

/-- A transport that no call changes is steady. -/
theorem steady_of_fixed {t : τ}
    (unary : ∀ method ping headers, (Transport.unary t method ping headers).2 = t)
    (stream : ∀ ping headers, (Transport.stream t ping headers).2 = t) : Steady t := by
  have fixed {u : τ} (reached : Reached t u) : u = t := by
    induction reached with
    | start => rfl
    | unary method ping headers before same => rw [same, unary]
    | stream ping headers before same => rw [same, stream]
  constructor
  · intro u reached method ping headers
    rw [fixed reached]
  · intro u reached ping headers
    rw [fixed reached]

/-- The calls that are written down make no difference. -/
theorem Reached.inner {t : τ} {calls : List Call} {u : Recorded τ}
    (reached : Reached (⟨t, calls⟩ : Recorded τ) u) : Reached t u.inner := by
  induction reached with
  | start => exact .start
  | unary method ping headers before inner => exact .unary method ping headers inner
  | stream ping headers before inner => exact .stream ping headers inner

theorem Steady.recorded {t : τ} (steady : Steady t) (calls : List Call) :
    Steady (⟨t, calls⟩ : Recorded τ) where
  unary _ reached := steady.unary _ reached.inner
  stream _ reached := steady.stream _ reached.inner

end Transport

open Transport (Reached Steady)

namespace Dispatcher

variable {τ : Type} [Transport τ]

/-- A dispatcher with transports whose answers depend only on the request. -/
def Steady (d : Dispatcher τ) : Prop := ∀ mode, Transport.Steady (d.transports.select mode)

/-- What can become of a dispatcher by calls. -/
structure Reached (d e : Dispatcher τ) : Prop where
  config : e.config = d.config
  transports : ∀ mode, Transport.Reached (d.transports.select mode) (e.transports.select mode)

theorem Reached.refl (d : Dispatcher τ) : d.Reached d := ⟨rfl, fun _ => .start⟩

/-- A call on one of its transports leads a dispatcher on. -/
theorem Reached.update {d e : Dispatcher τ} (reached : d.Reached e) {mode : Mode} {t : τ}
    (called : Transport.Reached (d.transports.select mode) t) : d.Reached (e.update mode t) := by
  refine ⟨reached.config, ?_⟩
  intro other
  simp only [Dispatcher.update, TransportPair.select_update]
  by_cases same : mode = other
  · simpa [same] using same ▸ called
  · simpa [same] using reached.transports other

end Dispatcher

namespace Ongoing

variable {τ : Type} {now : Nat} {r : Ongoing}

/-- Polls of which the same is seen. What became of the transports may differ. -/
structure Turn.Alike (a b : Turn τ) : Prop where
  run : a.run = b.run
  event : a.event = b.event
  call : a.call = b.call

private theorem finish_alike {t u : τ} (e : RunEnd) :
    (r.finish t e).Alike (r.finish u e) := ⟨rfl, rfl, rfl⟩

variable [Transport τ]

/-- A poll uses its transport for a call at most. -/
theorem poll_reached {base t : τ} (reached : Transport.Reached base t) :
    Transport.Reached base (r.poll now t).transport := by
  have polled := poll_polled now r t
  generalize r.poll now t = turn at polled
  cases polled with
  | called live => exact .stream _ _ reached
  | _ => exact reached

private theorem advance_alike {t u : τ}
    (same : (Transport.stream t r.session.request r.session.headers).1 =
      (Transport.stream u r.session.request r.session.headers).1) :
    (r.advance now t).Alike (r.advance now u) := by
  obtain ⟨s, stage⟩ := r
  cases stage with
  | fresh => exact ⟨rfl, rfl, rfl⟩
  | done result => exact ⟨rfl, rfl, rfl⟩
  | opening =>
    refine ⟨?_, rfl, rfl⟩
    simp only [advance, call, same]
  | calling reply =>
    cases reply with
    | never => exact ⟨rfl, rfl, rfl⟩
    | after due reply =>
      by_cases passed : due ≤ now
      · simp only [advance, passed, ↓reduceIte]
        cases reply <;> exact ⟨rfl, rfl, rfl⟩
      · simp only [advance, passed, ↓reduceIte]
        exact ⟨rfl, rfl, rfl⟩
  | listening since feed =>
    obtain ⟨items, staysOpen⟩ := feed
    cases items with
    | nil =>
      cases staysOpen with
      | true => exact ⟨rfl, rfl, rfl⟩
      | false =>
        by_cases passed : since ≤ now
        · simp only [advance, passed, ↓reduceIte]
          exact finish_alike _
        · simp only [advance, passed, ↓reduceIte]
          exact ⟨rfl, rfl, rfl⟩
    | cons item items =>
      by_cases passed : since + item.1 ≤ now
      · simp only [advance, passed, ↓reduceIte]
        cases item.2 <;> exact ⟨rfl, rfl, rfl⟩
      · simp only [advance, passed, ↓reduceIte]
        exact ⟨rfl, rfl, rfl⟩

/-- What is seen of a poll depends on the transport only for the answer to the call of the
session. -/
theorem poll_alike {t u : τ}
    (same : (Transport.stream t r.session.request r.session.headers).1 =
      (Transport.stream u r.session.request r.session.headers).1) :
    (r.poll now t).Alike (r.poll now u) := by
  obtain ⟨s, stage⟩ := r
  cases stage with
  | done result => exact ⟨rfl, rfl, rfl⟩
  | fresh =>
    by_cases idle : s.state = .idle
    · simp only [poll, idle, ↓reduceIte]
      exact ⟨rfl, rfl, rfl⟩
    · simp only [poll, idle, ↓reduceIte]
      exact ⟨rfl, rfl, rfl⟩
  | _ =>
    cases told : s.cancelled with
    | true =>
      rw [poll_cancelled rfl told, poll_cancelled rfl told]
      exact finish_alike _
    | false =>
      rw [poll_live rfl told, poll_live rfl told]
      exact advance_alike same

end Ongoing

/-- What an operation comes down to depends on the configuration only. -/
theorem Operation.plan_congr {τ : Type} {d e : Dispatcher τ} (same : d.config = e.config)
    (op : Operation) : op.plan d = op.plan e := by
  have made (id : RequestId) (raw : String) : d.newSession id raw = e.newSession id raw := by
    rw [Dispatcher.newSession, Dispatcher.newSession, same]
  cases op <;> simp only [plan, streamPlan, made]

namespace Task

variable {τ : Type} {now : Nat} {task : Task} {base d e : Dispatcher τ}

/-- Polls of which the same is seen. What became of the dispatchers may differ. -/
structure Turn.Alike (a b : Turn τ) : Prop where
  task : a.task = b.task
  events : a.events = b.events
  call : a.call = b.call

private theorem finish_alike (notices : List Notification) (result : Operation.Result) :
    (task.finish d notices result).Alike (task.finish e notices result) := ⟨rfl, rfl, rfl⟩

variable [Transport τ]

private theorem start_same (steady : base.Steady) (first : base.Reached d) (second : base.Reached e)
    (plan : Operation.Plan) : (task.start now d plan).Alike (task.start now e plan) := by
  have config : d.config = e.config := first.config.trans second.config.symm
  cases plan with
  | nothing notices result => exact finish_alike _ _
  | stream s => exact ⟨rfl, rfl, rfl⟩
  | single method ping =>
    have answer := ((steady task.op.mode).unary _ (first.transports _) method ping
      d.config.unaryHeaders).trans ((steady task.op.mode).unary _ (second.transports _) method ping
        d.config.unaryHeaders).symm
    refine ⟨?_, rfl, ?_⟩
    · simp only [start, ← config, answer]
    · simp only [start, ← config]

private theorem proceed_same (steady : base.Steady) (first : base.Reached d)
    (second : base.Reached e)
    (r : Ongoing) : (task.proceed now d r).Alike (task.proceed now e r) := by
  have answer := ((steady task.op.mode).stream _ (first.transports _) r.session.request
    r.session.headers).trans ((steady task.op.mode).stream _ (second.transports _) _ _).symm
  have alike := @Ongoing.poll_alike _ now _ _ _ _ answer
  refine ⟨?_, ?_, ?_⟩
  · simp only [proceed, alike.run]
  · simp only [proceed, seen, alike.run, alike.event]
  · simp only [proceed, alike.call]

/-- What an operation does when it is polled does not depend on what others have done. -/
theorem poll_same (steady : base.Steady) (first : base.Reached d) (second : base.Reached e) :
    (task.poll now d).Alike (task.poll now e) := by
  have config : d.config = e.config := first.config.trans second.config.symm
  obtain ⟨op, state⟩ := task
  cases state with
  | fresh =>
    simp only [poll, op.plan_congr config]
    exact start_same steady first second _
  | finished => exact ⟨rfl, rfl, rfl⟩
  | calling reply =>
    cases reply with
    | never => exact ⟨rfl, rfl, rfl⟩
    | after due reply =>
      by_cases passed : due ≤ now
      · simp only [poll, passed, ↓reduceIte]
        cases reply with
        | ok p =>
          simp only [answered, config]
          exact ⟨rfl, rfl, rfl⟩
        | error f => exact finish_alike _ _
      · simp only [poll, passed, ↓reduceIte]
        exact ⟨rfl, rfl, rfl⟩
  | holding due p =>
    by_cases passed : due ≤ now
    · simp only [poll, passed, ↓reduceIte]
      exact finish_alike _ _
    · simp only [poll, passed, ↓reduceIte]
      exact ⟨rfl, rfl, rfl⟩
  | running r =>
    obtain ⟨s, stage⟩ := r
    cases stage with
    | done result => exact ⟨rfl, rfl, rfl⟩
    | _ => exact proceed_same steady first second _

private theorem start_reached (reached : base.Reached d) (plan : Operation.Plan) :
    base.Reached (task.start now d plan).dispatcher := by
  cases plan with
  | nothing notices result => exact reached
  | stream s => exact reached
  | single method ping => exact reached.update (.unary _ _ _ (reached.transports _))

private theorem answered_reached (reached : base.Reached d) (reply : Except CallError Pong) :
    base.Reached (task.answered now d reply).dispatcher := by
  cases reply <;> exact reached

/-- A poll uses the transports of its dispatcher for calls only. -/
theorem poll_reached (reached : base.Reached d) (task : Task) (now : Nat) :
    base.Reached (task.poll now d).dispatcher := by
  unfold poll
  split
  · exact start_reached reached _
  · split
    · exact answered_reached reached _
    · exact reached
  · exact reached
  · split <;> exact reached
  · exact reached
  · exact reached.update (Ongoing.poll_reached (reached.transports _))
  · exact reached

end Task
end GatewayPing
