import GatewayPing.Proofs.Concurrent.Solo

/-! Polls that come late. Outside of a rehearsal nobody waits for an operation: it is polled some
time after it can go on. What comes of it then comes later, but it is the same
(`Task.solo_poll_late`). -/
namespace GatewayPing

open Operation (Result)

namespace Timeline

variable {ε : Type}

/-- What happens, but not when. -/
def events (tl : Timeline ε) : List ε := List.map (·.2) tl

theorem events_append (first second : Timeline ε) :
    events (first ++ second) = first.events ++ second.events := List.map_append

theorem events_at (time : Nat) (events : List ε) :
    Timeline.events (events.map (time, ·)) = events := by
  simp [Timeline.events, Function.comp_def]

end Timeline

/-- What is told by an event, if anything is. -/
def Happening.notice? {α : Type} : Happening α → Option Notification
  | .notice n => some n
  | .finished _ => none

theorem Course.notices_events {α : Type} (c : Course α) :
    c.notices = (Timeline.events c).filterMap Happening.notice? := by
  induction c with
  | nil => rfl
  | cons event c ih =>
    obtain ⟨time, happening⟩ := event
    cases happening with
    | notice n => exact congrArg (n :: ·) ih
    | finished result => exact ih

/-! What a run waits for, whenever it comes. -/

/-- Stages that wait for the same, each by its own times. -/
inductive Stage.Same : Stage → Stage → Prop where
  | fresh : Same .fresh .fresh
  | opening : Same .opening .opening
  | answer (due due' : Nat) (reply : Except CallError Feed) :
      Same (.calling (.after due reply)) (.calling (.after due' reply))
  | silence : Same (.calling .never) (.calling .never)
  | listening (since since' : Nat) (feed : Feed) :
      Same (.listening since feed) (.listening since' feed)
  | done (result : Except OperationError Ending) : Same (.done result) (.done result)

private theorem Stage.Same.refl (stage : Stage) : stage.Same stage := by
  cases stage with
  | fresh => exact .fresh
  | opening => exact .opening
  | calling reply =>
    cases reply with
    | never => exact .silence
    | after due reply => exact .answer due due reply
  | listening since feed => exact .listening since since feed
  | done result => exact .done result

private theorem Stage.Same.trans {a b c : Stage} (first : a.Same b) (second : b.Same c) :
    a.Same c := by
  cases first with
  | answer due due' reply =>
    cases second with
    | answer _ due'' _ => exact .answer due due'' reply
  | listening since since' feed =>
    cases second with
    | listening _ since'' _ => exact .listening since since'' feed
  | _ => exact second

private theorem Stage.Same.startingAt (now now' : Nat) (reply : Eventual (Except CallError Feed)) :
    Stage.Same (.calling (reply.startingAt now)) (.calling (reply.startingAt now')) := by
  cases reply with
  | never => exact .silence
  | after due reply => exact .answer _ _ reply

namespace Ongoing

variable {τ : Type} {now now' due due' : Nat} {t u : τ}

/-- Polls of which the same is seen, and after which the same is waited for. -/
structure Turn.Matches (a b : Turn τ) : Prop where
  session : a.run.session = b.run.session
  stage : a.run.stage.Same b.run.stage
  event : a.event = b.event
  call : a.call = b.call

/-- Two runs that wait for the same can go on, or they cannot. -/
theorem due?_same {s : Session} {stage stage' : Stage} (same : stage.Same stage') :
    (⟨s, stage⟩ : Ongoing).due? = none ↔ (⟨s, stage'⟩ : Ongoing).due? = none := by
  cases same with
  | listening since since' feed =>
    obtain ⟨items, staysOpen⟩ := feed
    cases told : s.cancelled <;> cases items <;> cases staysOpen <;>
      simp [due?, told, Stage.waits, Stage.due?]
  | _ => cases told : s.cancelled <;> simp [due?, told, Stage.waits, Stage.due?]

private theorem finish_matches {s : Session} {stage stage' : Stage} (e : RunEnd) :
    ((⟨s, stage⟩ : Ongoing).finish t e).Matches ((⟨s, stage'⟩ : Ongoing).finish u e) :=
  ⟨rfl, .done _, rfl, rfl⟩

variable [Transport τ]

/-- Of two runs that wait for the same, and can go on, the same comes at their next polls. -/
theorem poll_matches {s : Session} {stage stage' : Stage} (same : stage.Same stage')
    (pending : (⟨s, stage⟩ : Ongoing).due? = some due) (passed : due ≤ now)
    (pending' : (⟨s, stage'⟩ : Ongoing).due? = some due') (passed' : due' ≤ now')
    (answer : (Transport.stream t s.request s.headers).1 =
      (Transport.stream u s.request s.headers).1) :
    ((⟨s, stage⟩ : Ongoing).poll now t).Matches ((⟨s, stage'⟩ : Ongoing).poll now' u) := by
  have told (waits : stage.waits = true) (waits' : stage'.waits = true)
      (stopped : s.cancelled = true) :
      ((⟨s, stage⟩ : Ongoing).poll now t).Matches ((⟨s, stage'⟩ : Ongoing).poll now' u) := by
    rw [poll_cancelled waits stopped, poll_cancelled waits' stopped]
    exact finish_matches _
  cases same with
  | fresh =>
    by_cases idle : s.state = .idle
    · rw [poll_started idle, poll_started idle]
      exact ⟨rfl, .opening, rfl, rfl⟩
    · simp only [poll, idle, ↓reduceIte]
      exact ⟨rfl, .done _, rfl, rfl⟩
  | done result => simp at pending
  | opening =>
    cases live : s.cancelled with
    | true => exact told rfl rfl live
    | false =>
      rw [poll_opening live, poll_opening live, answer]
      exact ⟨rfl, .startingAt _ _ _, rfl, rfl⟩
  | silence =>
    cases live : s.cancelled with
    | true => exact told rfl rfl live
    | false => cases (@due?_live s (.calling .never) live).symm.trans pending
  | answer limit limit' reply =>
    cases live : s.cancelled with
    | true => exact told rfl rfl live
    | false =>
      cases (@due?_live s (.calling (.after limit reply)) live).symm.trans pending
      cases (@due?_live s (.calling (.after limit' reply)) live).symm.trans pending'
      rw [poll_answer live passed, poll_answer live passed']
      cases reply with
      | error e => exact finish_matches _
      | ok feed => exact ⟨rfl, .listening _ _ _, rfl, rfl⟩
  | listening since since' feed =>
    cases live : s.cancelled with
    | true => exact told rfl rfl live
    | false =>
      rw [due?_live live] at pending pending'
      obtain ⟨items, staysOpen⟩ := feed
      cases items with
      | nil =>
        cases staysOpen with
        | true => cases pending
        | false =>
          cases pending
          cases pending'
          rw [poll_close live passed, poll_close live passed']
          exact finish_matches _
      | cons item items =>
        obtain ⟨delay, item⟩ := item
        cases pending
        cases pending'
        rw [poll_item live passed, poll_item live passed']
        cases item with
        | error failure => exact finish_matches _
        | ok p => exact ⟨rfl, .listening _ _ _, rfl, rfl⟩

end Ongoing

/-! Answers. -/

/-- Dispatchers that give the same answers to the calls of a mode. -/
structure Dispatcher.Alike {τ : Type} [Transport τ] (d e : Dispatcher τ) (mode : Mode) : Prop where
  config : d.config = e.config
  unary : ∀ (method : Method) (ping : Ping) (headers : Headers),
    (Transport.unary (d.transports.select mode) method ping headers).1 =
      (Transport.unary (e.transports.select mode) method ping headers).1
  stream : ∀ (ping : StreamPing) (headers : Headers),
    (Transport.stream (d.transports.select mode) ping headers).1 =
      (Transport.stream (e.transports.select mode) ping headers).1

theorem Dispatcher.Alike.refl {τ : Type} [Transport τ] (d : Dispatcher τ) (mode : Mode) :
    d.Alike d mode := ⟨rfl, fun _ _ _ => rfl, fun _ _ => rfl⟩

/-- Others that have used a dispatcher make no difference to it. -/
theorem Dispatcher.Reached.alike {τ : Type} [Transport τ] {base d e : Dispatcher τ}
    (first : base.Reached d) (second : base.Reached e) (steady : base.Steady) (mode : Mode) :
    d.Alike e mode where
  config := first.config.trans second.config.symm
  unary method ping headers := ((steady mode).unary _ (first.transports _) method ping headers).trans
    ((steady mode).unary _ (second.transports _) method ping headers).symm
  stream ping headers := ((steady mode).stream _ (first.transports _) ping headers).trans
    ((steady mode).stream _ (second.transports _) ping headers).symm

/-! What an operation waits for. -/

namespace Task

/-- Operations that wait for the same, each by its own times. -/
inductive Same : Task → Task → Prop where
  | fresh (op : Operation) : Same ⟨op, .fresh⟩ ⟨op, .fresh⟩
  | answer (op : Operation) (due due' : Nat) (reply : Except CallError Pong) :
      Same ⟨op, .calling (.after due reply)⟩ ⟨op, .calling (.after due' reply)⟩
  | silence (op : Operation) : Same ⟨op, .calling .never⟩ ⟨op, .calling .never⟩
  | holding (op : Operation) (due due' : Nat) (p : Pong) :
      Same ⟨op, .holding due p⟩ ⟨op, .holding due' p⟩
  | running (op : Operation) (s : Session) {stage stage' : Stage} (same : stage.Same stage') :
      Same ⟨op, .running ⟨s, stage⟩⟩ ⟨op, .running ⟨s, stage'⟩⟩
  | finished (op : Operation) : Same ⟨op, .finished⟩ ⟨op, .finished⟩

theorem Same.refl (task : Task) : task.Same task := by
  obtain ⟨op, state⟩ := task
  cases state with
  | fresh => exact .fresh op
  | calling reply =>
    cases reply with
    | never => exact .silence op
    | after due reply => exact .answer op due due reply
  | holding due p => exact .holding op due due p
  | running r => exact .running op r.session (.refl r.stage)
  | finished => exact .finished op

theorem Same.trans {a b c : Task} (first : a.Same b) (second : b.Same c) : a.Same c := by
  cases first with
  | answer op due due' reply =>
    cases second with
    | answer _ _ due'' _ => exact .answer op due due'' reply
  | holding op due due' p =>
    cases second with
    | holding _ _ due'' _ => exact .holding op due due'' p
  | running op s same =>
    cases second with
    | running _ _ same' => exact .running op s (same.trans same')
  | _ => exact second

variable {τ : Type} [Transport τ] {now now' due due' : Nat} {base d e : Dispatcher τ}
  {task task' : Task}

/-- Polls of which the same is seen, and after which the same is waited for. -/
structure Turn.Matches (a b : Turn τ) : Prop where
  task : a.task.Same b.task
  events : a.events = b.events
  call : a.call = b.call

private theorem due?_same (same : task.Same task') : task.due? = none ↔ task'.due? = none := by
  cases same with
  | running op s same => exact Ongoing.due?_same same
  | _ => simp [due?]

omit [Transport τ] in
private theorem running_same {turn turn' : Ongoing.Turn τ} (op : Operation)
    (matched : turn.Matches turn') : Same ⟨op, .running turn.run⟩ ⟨op, .running turn'.run⟩ := by
  obtain ⟨⟨s, stage⟩, t, event, call⟩ := turn
  obtain ⟨⟨s', stage'⟩, t', event', call'⟩ := turn'
  obtain ⟨rfl, same, -, -⟩ := matched
  exact .running op s same

omit [Transport τ] in
private theorem seen_matches {turn turn' : Ongoing.Turn τ} (op : Operation)
    (matched : turn.Matches turn') : seen op turn = seen op turn' := by
  obtain ⟨⟨s, stage⟩, t, event, call⟩ := turn
  obtain ⟨⟨s', stage'⟩, t', event', call'⟩ := turn'
  obtain ⟨rfl, same, rfl, -⟩ := matched
  cases event with
  | some event => cases event <;> rfl
  | none => cases same <;> rfl

private theorem start_matches {op : Operation} (alike : d.Alike e op.mode) (plan : Operation.Plan) :
    ((⟨op, .fresh⟩ : Task).start now d plan).Matches ((⟨op, .fresh⟩ : Task).start now' e plan) := by
  have config := alike.config
  cases plan with
  | nothing notices result => exact ⟨.finished op, rfl, rfl⟩
  | stream s => exact ⟨.running op s .fresh, rfl, rfl⟩
  | single method message =>
    have answer := alike.unary method message d.config.unaryHeaders
    refine ⟨?_, rfl, ?_⟩
    · simp only [start, ← config, answer]
      cases
        (Transport.unary (e.transports.select op.mode) method message d.config.unaryHeaders).1
      with
      | never => exact .silence op
      | after due reply => exact .answer op _ _ reply
    · simp only [start, ← config]

/-- Of two operations that wait for the same, and can go on, the same comes at their next polls. -/
theorem poll_matches (alike : d.Alike e task.op.mode)
    (same : task.Same task') (pending : task.due? = some due) (passed : due ≤ now)
    (pending' : task'.due? = some due') (passed' : due' ≤ now') :
    (task.poll now d).Matches (task'.poll now' e) := by
  cases same with
  | fresh op =>
    simp only [poll, op.plan_congr alike.config]
    exact start_matches alike _
  | silence op => cases pending
  | finished op => cases pending
  | answer op limit limit' reply =>
    cases pending
    cases pending'
    rw [poll_calling d passed, poll_calling e passed']
    cases reply with
    | ok p => exact ⟨.holding op _ _ p, rfl, rfl⟩
    | error failure => exact ⟨.finished op, rfl, rfl⟩
  | holding op limit limit' p =>
    cases pending
    cases pending'
    rw [poll_holding d passed, poll_holding e passed']
    exact ⟨.finished op, rfl, rfl⟩
  | running op s same =>
    have answer := alike.stream s.request s.headers
    have matched := Ongoing.poll_matches same pending passed pending' passed' answer
    rw [poll_running d pending, poll_running e pending', proceed, proceed]
    refine ⟨running_same op matched, seen_matches op matched, ?_⟩
    simp only [matched.call]

/-! What is still to come. -/

/-- Operations of which the same comes, though at other times. -/
structure Solo.Matches (a b : Solo τ) : Prop where
  course : a.course.events = b.course.events
  calls : a.calls.events = b.calls.events
  task : a.task.Same b.task

omit [Transport τ] in
theorem Solo.Matches.before {turn turn' : Turn τ} {rest rest' : Solo τ}
    (matched : turn.Matches turn')
    (later : rest.Matches rest') (time time' : Nat) :
    (turn.before time rest).Matches (turn'.before time' rest') := by
  refine ⟨?_, ?_, later.task⟩
  · simp only [Turn.before, Timeline.events_append, Timeline.events_at, matched.events,
      later.course]
  · simp only [Turn.before, Timeline.events_append, Timeline.events_at, matched.call, later.calls]

/-- Of operations that wait for the same the same comes, on dispatchers that give the same answers
and go on to do so. -/
theorem solo_related {Related : Dispatcher τ → Dispatcher τ → Prop}
    (alike : ∀ {d e : Dispatcher τ}, Related d e → ∀ mode, d.Alike e mode)
    (kept : ∀ {d e : Dispatcher τ} {task task' : Task} {now now' : Nat}, Related d e →
      (task.poll now d).Matches (task'.poll now' e) →
        Related (task.poll now d).dispatcher (task'.poll now' e).dispatcher)
    (related : Related d e) (same : task.Same task') :
    (task.solo d).Matches (task'.solo e) ∧
      Related (task.solo d).dispatcher (task'.solo e).dispatcher := by
  induction d, task using solo.induct generalizing e task' with
  | case1 d task settled =>
    rw [solo_settled settled, solo_settled ((due?_same same).mp settled)]
    exact ⟨⟨rfl, rfl, same⟩, related⟩
  | case2 d task due pending ih =>
    cases pending' : task'.due? with
    | none => cases ((due?_same same).mpr pending').symm.trans pending
    | some due' =>
      have matched := poll_matches (alike related _) same pending (Nat.le_refl due) pending'
        (Nat.le_refl due')
      obtain ⟨rest, left⟩ := ih (kept related matched) matched.task
      rw [solo_step pending rfl, solo_step pending' rfl]
      exact ⟨.before matched rest due due', left⟩

/-- Of operations that wait for the same the same comes. -/
theorem solo_matches (steady : base.Steady) (first : base.Reached d) (second : base.Reached e)
    (same : task.Same task') : (task.solo d).Matches (task'.solo e) := by
  let Related (d e : Dispatcher τ) : Prop := base.Reached d ∧ base.Reached e
  have alike {d e : Dispatcher τ} (related : Related d e) (mode : Mode) : d.Alike e mode :=
    related.1.alike related.2 steady mode
  refine (solo_related alike ?_ ⟨first, second⟩ same).1
  intro d e task task' now now' related _
  exact ⟨poll_reached related.1 task now, poll_reached related.2 task' now'⟩

/-- What comes of an operation is what comes of its next poll and the rest, however late the poll
comes, and even if others have used the dispatcher. -/
theorem solo_poll_late (steady : base.Steady) (reached : base.Reached d)
    (pending : task.due? = some due) (passed : due ≤ now) :
    (task.solo base).Matches
      ((task.poll now d).before now ((task.poll now d).task.solo base)) := by
  have matched := poll_matches ((Dispatcher.Reached.refl base).alike reached steady _)
    (Same.refl task) pending (Nat.le_refl due) pending passed
  rw [solo_step pending rfl]
  exact .before matched
    (solo_matches steady (poll_reached (.refl base) task due) (.refl base) matched.task) due now

end Task
end GatewayPing
