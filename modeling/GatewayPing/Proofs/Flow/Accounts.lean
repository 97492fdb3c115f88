import GatewayPing.Proofs.Concurrent.Calls
import GatewayPing.Proofs.Flow.Orders
import GatewayPing.Proofs.Session.Lifecycle

/-! The accounts of a flow of orders. -/
namespace GatewayPing

open Operation (Result)

namespace Flow

variable {τ : Type}

private theorem pongs_append (first second : List Session) :
    pongs (first ++ second) = pongs first + pongs second := by
  induction first with
  | nil => exact (Nat.zero_add _).symm
  | cons s first ih => exact (congrArg (s.received + ·) ih).trans (Nat.add_assoc ..).symm

/-- The number of pongs of some sessions, after one of them has received more. -/
theorem pongs_set {sessions : List Session} {place : Nat} {s s' : Session}
    (found : sessions[place]? = some s) {more : Nat} (grown : s'.received = s.received + more) :
    pongs (sessions.set place s') = pongs sessions + more := by
  induction sessions generalizing place with
  | nil => cases found
  | cons first sessions ih =>
    cases place with
    | zero =>
      cases found
      show s'.received + pongs sessions = s.received + pongs sessions + more
      omega
    | succ place =>
      show first.received + pongs (sessions.set place s') = first.received + pongs sessions + more
      rw [ih found, Nat.add_assoc]

variable [Transport τ]

/-- The call that the order asked for. -/
def Entry.call? (e : Entry τ) : Option (Mode × Call) := e.before.call? e.order

/-- What an order comes to. -/
structure Entry.Obeys (e : Entry τ) (after : Flow τ) : Prop where
  /-- The call that is asked for is made, once and in its mode, and there is no other. -/
  dispatcher : after.dispatcher = e.call?.elim e.before.dispatcher e.before.dispatcher.receive
  settles : ∃ pongs, after.received = e.before.received + pongs ∧
    Settles e.notices e.result pongs

private theorem operate_obeys {f : Flow τ} {order : Order} {op : Operation}
    (own : ∀ s mode, op ≠ .runStream s mode)
    (asked : f.call? order = ((op.plan f.dispatcher).call? f.dispatcher).map (op.mode, ·))
    {time : Nat} {r : Result} (ended : (f.operate op).1.result? = some (time, r)) :
    (⟨f, order, (f.operate op).1.notices, r⟩ : Entry τ).Obeys (f.operate op).2 where
  dispatcher := by
    simp only [operate, Entry.call?, asked, ← Operation.plan_receive, Operation.alone_plan]
  settles := by
    refine ⟨_, ?_, Operation.alone_settles own ended⟩
    simp only [operate, received, pongs_append]
    cases ownSession? op f.dispatcher with
    | none => rfl
    | some s => exact (Nat.add_assoc ..).symm

private theorem run_obeys {f : Flow τ} {place : Nat} {s : Session} {mode : Mode}
    {cancelAt : Option Moment} (found : f.sessions[place]? = some s) {time : Nat} {r : Result}
    (ended : (f.run place s mode cancelAt).1.result? = some (time, r)) :
    (⟨f, .runStream place mode cancelAt, (f.run place s mode cancelAt).1.notices, r⟩ :
      Entry τ).Obeys (f.run place s mode cancelAt).2 := by
  have asked : f.call? (.runStream place mode cancelAt) =
      (s.call? cancelAt).map (mode, ·) := by simp [call?, found]
  have ran := f.dispatcher.runSession_ran s mode cancelAt
  simp only [run] at ended ⊢
  generalize f.dispatcher.runSession s mode cancelAt = came at ran ended
  cases ran with
  | turnedAway busy =>
    simp only [Course.ending_result?, Option.some.injEq, Prod.mk.injEq] at ended
    obtain ⟨-, rfl⟩ := ended
    refine ⟨?_, 0, rfl, ?_⟩
    · simp [Entry.call?, asked, Session.call?_busy busy]
    · simpa only [Course.ending_notices] using .turnedAway rfl
  | run trace orderly =>
    have counted := Session.Run.final_received (r := ⟨s.started, trace⟩) orderly
    have settles := Settles.course (fun _ _ => rfl) (fun _ _ => rfl) s.started orderly ended
    refine ⟨?_, _, ?_, settles⟩
    · simp only [Entry.call?, asked]
    · simp only [received, pongs_append, pongs_set found counted]
      omega

/-- What comes of any order. -/
theorem perform_obeys {f : Flow τ} (order : Order) {time : Nat} {r : Result}
    (ended : (f.perform order).1.result? = some (time, r)) :
    (⟨f, order, (f.perform order).1.notices, r⟩ : Entry τ).Obeys (f.perform order).2 := by
  have keeps (s : Session) (new : s.received = 0) {order : Order} (quiet : f.call? order = none)
      {time : Nat} {r : Result} (ended : (f.keep s).1.result? = some (time, r)) :
      (⟨f, order, (f.keep s).1.notices, r⟩ : Entry τ).Obeys (f.keep s).2 := by
    simp only [keep, Course.ending_result?, Option.some.injEq, Prod.mk.injEq] at ended
    obtain ⟨-, rfl⟩ := ended
    refine ⟨by simp only [keep, Entry.call?, quiet, Option.elim_none], 0, ?_, ?_⟩
    · simp [keep, received, pongs, new]
    · simpa only [keep, Course.ending_notices] using .kept s
  cases order with
  | ping raw mode =>
    refine operate_obeys (by nofun) ?_ ended
    exact congrArg (Option.map (mode, ·)) (Operation.singlePlan_call? .aPing raw _).symm
  | unary method raw mode =>
    refine operate_obeys (by nofun) ?_ ended
    exact congrArg (Option.map (mode, ·)) (Operation.singlePlan_call? method raw _).symm
  | submit id raw mode =>
    refine operate_obeys (by nofun) ?_ ended
    exact congrArg (Option.map (mode, ·)) (Operation.submit_call? id raw mode).symm
  | pingStream id raw mode =>
    refine operate_obeys (by nofun) ?_ ended
    exact congrArg (Option.map (mode, ·)) (Operation.streamPlan_call? id raw _).symm
  | newSession id count timestamp config => exact keeps _ rfl rfl ended
  | openStream id raw =>
    cases made : f.dispatcher.newSession id raw with
    | error e =>
      simp only [perform, made, OperationError.refuse, Course.result?_map, Course.ending_result?,
        Option.map_some, Option.some.injEq, Prod.mk.injEq] at ended
      obtain ⟨-, rfl⟩ := ended
      simp only [perform, made, OperationError.refuse, Course.notices_map, Course.ending_notices]
      exact ⟨rfl, 0, rfl, .refused .stream rfl⟩
    | ok s =>
      have new : s.received = 0 := (Session.Created.opened made).idle.received
      simp only [perform, made] at ended ⊢
      exact keeps s new rfl ended
  | runStream place mode cancelAt =>
    cases found : f.sessions[place]? with
    | none =>
      simp only [perform, found] at ended
      cases ended
    | some s =>
      simp only [perform, found] at ended ⊢
      exact run_obeys found ended
  | cancel place =>
    cases found : f.sessions[place]? with
    | none =>
      simp only [perform, found] at ended
      cases ended
    | some s =>
      simp only [perform, found, Course.ending_result?, Option.some.injEq, Prod.mk.injEq] at ended
      obtain ⟨-, rfl⟩ := ended
      simp only [perform, found, Course.ending_notices]
      refine ⟨rfl, 0, ?_, .kept _⟩
      have same : s.cancel.received = s.received + 0 := rfl
      simp only [received, pongs_append, pongs_set found same, Nat.add_zero]

private theorem completed_obeys {f g : Flow τ} {order : Order} {e : Entry τ}
    (completed : f.complete order = some (e, g)) :
    e.before = f ∧ (f.perform order).2 = g ∧ e.Obeys g := by
  obtain ⟨⟨time, r⟩, ended, same⟩ := Option.map_eq_some_iff.mp completed
  cases same
  exact ⟨rfl, rfl, perform_obeys order ended⟩

/-! Sessions that were not run. -/

/-- Sessions that have received something were run. -/
def Unused (f : Flow τ) : Prop :=
  ∀ s ∈ f.sessions ++ f.spent, s.state = .idle → s.received = 0

omit [Transport τ] in
private theorem Unused.pongs_ran {f : Flow τ} (unused : f.Unused) : pongs f.ran = f.received := by
  have dropped (sessions : List Session)
      (unused : ∀ s ∈ sessions, s.state = .idle → s.received = 0) :
      pongs (sessions.filter (·.state ≠ .idle)) = pongs sessions := by
    induction sessions with
    | nil => rfl
    | cons s sessions ih =>
      have rest := ih fun s member => unused s (List.mem_cons_of_mem _ member)
      by_cases idle : s.state = .idle
      · rw [List.filter_cons_of_neg (by simpa using idle), rest]
        show pongs sessions = s.received + pongs sessions
        rw [unused s List.mem_cons_self idle, Nat.zero_add]
      · rw [List.filter_cons_of_pos (by simpa using idle)]
        exact congrArg (s.received + ·) rest
  exact dropped _ unused

omit [Transport τ] in
/-- One session is put in, or in the place of another. -/
theorem Unused.of_mem {f g : Flow τ} (unused : f.Unused) {s : Session}
    (new : s.state = .idle → s.received = 0)
    (known : ∀ s' ∈ g.sessions ++ g.spent, s' ∈ f.sessions ++ f.spent ∨ s' = s) : g.Unused := by
  intro s' member
  rcases known s' member with old | rfl
  · exact unused s' old
  · exact new

private theorem Unused.operate {f : Flow τ} (unused : f.Unused) {op : Operation}
    (own : ∀ s mode, op ≠ .runStream s mode) : (f.operate op).2.Unused := by
  have planned := Operation.plan_planned own f.dispatcher
  intro s member
  simp only [Flow.operate, ownSession?] at member
  generalize op.plan f.dispatcher = plan at planned member
  cases planned with
  | nothing settles => exact unused s (by simpa using member)
  | single method message => exact unused s (by simpa using member)
  | @stream s' idle =>
    have ran := f.dispatcher.runSession_ran s' op.mode none
    simp only [Dispatcher.sessionAfter] at member
    generalize f.dispatcher.runSession s' op.mode none = came at ran member
    rw [← List.append_assoc] at member
    rcases List.mem_append.mp member with old | last
    · exact unused s old
    · cases ran with
      | turnedAway busy => exact absurd idle.state busy
      | run trace orderly =>
        obtain rfl := List.mem_singleton.mp last
        exact fun again =>
          absurd again (Session.Run.final_state (r := ⟨s'.started, trace⟩) orderly rfl)

private theorem Unused.perform {f : Flow τ} (unused : f.Unused) (order : Order) :
    (f.perform order).2.Unused := by
  have kept {s : Session} (new : s.received = 0) : (f.keep s).2.Unused := by
    refine unused.of_mem (s := s) (fun _ => new) ?_
    intro s' member
    simp only [keep, List.append_assoc, List.mem_append, List.mem_singleton] at member
    rw [List.mem_append]
    rcases member with inside | rfl | inside
    · exact .inl (.inl inside)
    · exact .inr rfl
    · exact .inl (.inr inside)
  have replaced {d : Dispatcher τ} {place : Nat} {s : Session}
      (new : s.state = .idle → s.received = 0) :
      ({ f with dispatcher := d, sessions := f.sessions.set place s } : Flow τ).Unused := by
    refine unused.of_mem (s := s) new ?_
    intro s' member
    rw [List.mem_append] at member ⊢
    rcases member with inside | inside
    · rcases List.mem_or_eq_of_mem_set inside with old | same
      · exact .inl (.inl old)
      · exact .inr same
    · exact .inl (.inr inside)
  cases order with
  | ping raw mode => exact unused.operate (by nofun)
  | unary method raw mode => exact unused.operate (by nofun)
  | submit id raw mode => exact unused.operate (by nofun)
  | pingStream id raw mode => exact unused.operate (by nofun)
  | newSession id count timestamp config => exact kept rfl
  | openStream id raw =>
    simp only [Flow.perform]
    cases made : f.dispatcher.newSession id raw with
    | error e => exact unused
    | ok s => exact kept (Session.Created.opened made).idle.received
  | runStream place mode cancelAt =>
    simp only [Flow.perform]
    cases found : f.sessions[place]? with
    | none => exact unused
    | some s =>
      have ran := f.dispatcher.runSession_ran s mode cancelAt
      simp only [run]
      generalize f.dispatcher.runSession s mode cancelAt = came at ran
      cases ran with
      | turnedAway busy => exact unused
      | run trace orderly =>
        exact replaced fun again =>
          absurd again (Session.Run.final_state (r := ⟨s.started, trace⟩) orderly rfl)
  | cancel place =>
    simp only [Flow.perform]
    cases found : f.sessions[place]? with
    | none => exact unused
    | some s =>
      have member : s ∈ f.sessions ++ f.spent :=
        List.mem_append_left _ (List.mem_of_getElem? found)
      exact replaced (d := f.dispatcher) (unused s member)

end Flow

/-! Logs. -/

namespace Dispatcher

variable {τ : Type} [Transport τ]

/-- A transport receives the calls in its own mode. -/
theorem receive_select (d : Dispatcher τ) (c : Mode × Call) (mode : Mode) :
    (d.receive c).transports.select mode =
      (callsIn mode [c]).foldl Transport.receive (d.transports.select mode) := by
  obtain ⟨used, call⟩ := c
  by_cases same : used = mode
  · simp [receive, update, callsIn, same]
  · simp [receive, update, callsIn, same]

private theorem receive_calls (t : Recorded τ) (call : Call) :
    (Transport.receive t call).calls = t.calls ++ [call] := by
  cases call <;> rfl

private theorem receive_callsOf (d : Dispatcher (Recorded τ)) (c : Mode × Call) (mode : Mode) :
    (d.receive c).callsOf mode = d.callsOf mode ++ callsIn mode [c] :=
  callsOf_update d (some c.2) (receive_calls _ c.2) mode

private theorem foldl_receive_select (d : Dispatcher τ) (cs : List (Mode × Call)) (mode : Mode) :
    (cs.foldl receive d).transports.select mode =
      (callsIn mode cs).foldl Transport.receive (d.transports.select mode) := by
  induction cs generalizing d with
  | nil => rfl
  | cons c cs ih =>
    rw [List.foldl_cons, ih, receive_select, ← List.foldl_append, ← callsIn_append]
    rfl

private theorem foldl_receive_callsOf (d : Dispatcher (Recorded τ)) (cs : List (Mode × Call))
    (mode : Mode) :
    (cs.foldl receive d).callsOf mode = d.callsOf mode ++ callsIn mode cs := by
  induction cs generalizing d with
  | nil => exact (List.append_nil _).symm
  | cons c cs ih =>
    rw [List.foldl_cons, ih, receive_callsOf, List.append_assoc, ← callsIn_append]
    rfl

private theorem foldl_receive_config (d : Dispatcher τ) (cs : List (Mode × Call)) :
    (cs.foldl receive d).config = d.config := by
  induction cs generalizing d with
  | nil => rfl
  | cons c cs ih => exact ih _

/-- What an operation comes to depends on the configuration, and on the transport of its mode. -/
theorem alone_congr {d e : Dispatcher τ} {op : Operation} (config : d.config = e.config)
    (transport : d.transports.select op.mode = e.transports.select op.mode) :
    (op.alone d).1 = (op.alone e).1 := by
  rw [op.alone_plan, op.alone_plan, op.plan_congr config]
  cases op.plan e with
  | nothing notices r => rfl
  | single method message =>
    simp only [Operation.Plan.course, Operation.callCourse, config, transport]
  | stream s =>
    simp only [Operation.Plan.course, Operation.runCourse, runSession, transport]
    rcases s.run (e.transports.select op.mode) none with ⟨run | run, t⟩ <;> rfl

/-- On transports whose answers depend only on the request it depends on the configuration alone. -/
theorem alone_steady {base d : Dispatcher τ} (steady : base.Steady) (reached : base.Reached d)
    (op : Operation) : (op.alone d).1 = (op.alone base).1 := by
  rw [← (Task.solo_alone op d).1, ← (Task.solo_alone op base).1]
  exact (Task.solo_same steady reached (.refl base)).course

private theorem Reached.receive {base d : Dispatcher τ} (reached : base.Reached d)
    (c : Mode × Call) : base.Reached (d.receive c) := by
  obtain ⟨mode, call⟩ := c
  cases call with
  | unary method ping headers => exact reached.update (.unary _ _ _ (reached.transports _))
  | stream ping headers => exact reached.update (.stream _ _ (reached.transports _))

private theorem Reached.foldl_receive {base d : Dispatcher τ} (reached : base.Reached d)
    (cs : List (Mode × Call)) : base.Reached (cs.foldl Dispatcher.receive d) := by
  induction cs generalizing d with
  | nil => exact reached
  | cons c cs ih => exact ih (reached.receive c)

end Dispatcher

namespace Flow

variable {τ : Type} [Transport τ]

/-- The calls that orders asked for, in their order. -/
def calls (entries : List (Entry τ)) : List (Mode × Call) := entries.filterMap (·.call?)

/-- What every flow keeps to: `first` is what it began with, and `last` what has become of that. -/
structure Follows (first : Flow τ) (entries : List (Entry τ)) (last : Flow τ) : Prop where
  dispatcher : last.dispatcher = (calls entries).foldl Dispatcher.receive first.dispatcher
  alarm : ∀ e ∈ entries,
    e.notices.countP (·.severity == .danger) = if e.result.fails then 1 else 0
  good : (entries.flatMap (·.notices)).countP (·.severity == .success) + first.received =
    entries.countP (·.result.isPong) + last.received
  unused : first.Unused → last.Unused

/-- Orders can be carried out in parts. -/
theorem completeAll_append {first middle last : Flow τ} {orders more : List Order}
    {entries later : List (Entry τ)} (begun : first.completeAll orders = some (entries, middle))
    (rest : middle.completeAll more = some (later, last)) :
    first.completeAll (orders ++ more) = some (entries ++ later, last) := by
  induction orders generalizing first entries with
  | nil =>
    cases begun
    exact rest
  | cons order orders ih =>
    obtain ⟨⟨e, next⟩, step, others⟩ := Option.bind_eq_some_iff.mp begun
    obtain ⟨⟨entries, _⟩, after, same⟩ := Option.map_eq_some_iff.mp others
    cases same
    rw [List.cons_append, completeAll, step, Option.bind_some, ih after]
    rfl

/-- What comes of all orders follows from what comes of each. -/
theorem completeAll_follows {first last : Flow τ} {orders : List Order} {entries : List (Entry τ)}
    (completed : first.completeAll orders = some (entries, last)) :
    first.Follows entries last := by
  induction orders generalizing first entries with
  | nil =>
    cases completed
    exact ⟨rfl, by simp, rfl, id⟩
  | cons order orders ih =>
    obtain ⟨⟨e, next⟩, step, rest⟩ := Option.bind_eq_some_iff.mp completed
    obtain ⟨⟨others, _⟩, later, same⟩ := Option.map_eq_some_iff.mp rest
    cases same
    have follows := ih later
    obtain ⟨begun, reached, obeys⟩ := completed_obeys step
    obtain ⟨pongs, grown, settles⟩ := obeys.settles
    have dispatcher := obeys.dispatcher
    rw [begun] at dispatcher grown
    constructor
    case dispatcher =>
      rw [follows.dispatcher, dispatcher, calls, calls, List.filterMap_cons]
      cases e.call? <;> rfl
    case alarm =>
      intro e' member
      rcases List.mem_cons.mp member with rfl | inside
      · exact settles.alarms
      · exact follows.alarm e' inside
    case good =>
      have good := follows.good
      rw [List.flatMap_cons, List.countP_append, List.countP_cons, settles.good]
      dsimp only at grown good ⊢
      omega
    case unused =>
      intro unused
      exact follows.unused (reached ▸ unused.perform order)

omit [Transport τ] in
/-- Each order asks for its call in the mode in which it was issued. -/
theorem call?_mode {f : Flow τ} {order : Order} {c : Mode × Call} (asked : f.call? order = some c) :
    order.mode? = some c.1 := by
  cases order with
  | openStream => cases asked
  | newSession => cases asked
  | cancel => cases asked
  | _ =>
    obtain ⟨call, -, rfl⟩ := Option.map_eq_some_iff.mp asked
    rfl

/-- Whether an order was issued in a mode, with an input that is valid, or for a session that was
idle and not told to stop: these are the orders that ask for a call. -/
def Entry.calls (e : Entry τ) (mode : Mode) : Bool := e.order.mode? = some mode && e.call?.isSome

omit [Transport τ] in
private theorem callsIn_calls (mode : Mode) (entries : List (Entry τ)) :
    (callsIn mode (calls entries)).length = entries.countP (·.calls mode) := by
  induction entries with
  | nil => rfl
  | cons e entries ih =>
    rw [List.countP_cons, ← ih, calls, List.filterMap_cons]
    cases asked : e.call? with
    | none => simp [Entry.calls, asked, calls]
    | some c =>
      have issued : e.order.mode? = some c.1 := call?_mode asked
      by_cases same : c.1 = mode
      · simp [Entry.calls, asked, issued, same, callsIn, calls]
      · simp [Entry.calls, asked, issued, same, callsIn, calls]

end Flow

/-- A failed order gets in nobody's way: `before` and `after` are the dispatcher before and after it,
and `call?` is the call that it made. -/
structure Spares {τ : Type} [Transport τ] (before : Dispatcher τ) (call? : Option (Mode × Call))
    (after : Dispatcher τ) : Prop where
  config : after.config = before.config
  /-- Later operations find the transports as the call has left them. -/
  later : ∀ op : Operation,
    (op.alone after).1 = (op.alone (call?.elim before before.receive)).1
  /-- Unless it made a call in their mode, they do not notice it. -/
  unnoticed : ∀ op : Operation, (∀ c ∈ call?, c.1 ≠ op.mode) →
    (op.alone after).1 = (op.alone before).1

/-- The accounts of a flow: `d` is the dispatcher as it was at first, and `last` what has become of
it. -/
structure Accounts {τ : Type} [Transport τ] (d : Dispatcher τ)
    (entries : List (Flow.Entry (Recorded τ))) (last : Flow (Recorded τ)) : Prop where
  /-- Each transport has received the calls that were asked for in its mode, in their order. -/
  log : ∀ mode, last.dispatcher.callsOf mode = callsIn mode (Flow.calls entries)
  calls : ∀ mode, (last.dispatcher.callsOf mode).length = entries.countP (·.calls mode)
  /-- Nothing else has touched a transport. -/
  transports : ∀ mode, last.dispatcher.transports.select mode =
    (last.dispatcher.callsOf mode).foldl Transport.receive (d.recorded.transports.select mode)
  /-- Each failure is told of once. An input that is ignored, a session that is turned away and a
  run that is cancelled are no failures. -/
  alarm : ∀ e ∈ entries,
    e.notices.countP (·.severity == .danger) = if e.result.fails then 1 else 0
  alarms : (entries.flatMap (·.notices)).countP (·.severity == .danger) =
    entries.countP (·.result.fails)
  good : (entries.flatMap (·.notices)).countP (·.severity == .success) =
    entries.countP (·.result.isPong) + Flow.pongs last.ran
  config : last.dispatcher.config = d.config
  /-- What a later operation comes to is up to the calls that its transport has received. That some
  of the orders failed makes no difference. -/
  later : ∀ op : Operation, (op.alone last.dispatcher).1 =
    (op.alone (((last.dispatcher.callsOf op.mode).map (op.mode, ·)).foldl
      Dispatcher.receive d.recorded)).1
  /-- Where the answers depend only on the request it is what it would have been at first. -/
  steady : d.Steady → ∀ op : Operation, (op.alone last.dispatcher).1 = (op.alone d.recorded).1
  /-- If the next order fails, that is no different. -/
  failed : ∀ order e next, last.complete order = some (e, next) → e.result.error?.isSome →
    Spares last.dispatcher e.call? next.dispatcher

namespace Flow

variable {τ : Type} [Transport τ]

private theorem Entry.Obeys.spares {e : Entry τ} {next : Flow τ} (obeys : e.Obeys next) :
    Spares e.before.dispatcher e.call? next.dispatcher := by
  rw [obeys.dispatcher]
  cases e.call? with
  | none => exact ⟨rfl, fun _ => rfl, fun _ _ => rfl⟩
  | some c =>
    refine ⟨rfl, fun _ => rfl, ?_⟩
    intro op apart
    refine Dispatcher.alone_congr rfl ?_
    rw [Option.elim_some, Dispatcher.receive_select]
    simp [callsIn, apart c rfl]

omit [Transport τ] in
/-- If each order tells of its failure once, all of them tell of as many failures as there are. -/
theorem countP_alarms {entries : List (Entry τ)}
    (alarm : ∀ e ∈ entries,
      e.notices.countP (·.severity == .danger) = if e.result.fails then 1 else 0) :
    (entries.flatMap (·.notices)).countP (·.severity == .danger) =
      entries.countP (·.result.fails) := by
  induction entries with
  | nil => rfl
  | cons e entries ih =>
    rw [List.flatMap_cons, List.countP_append, List.countP_cons, alarm e List.mem_cons_self,
      ih fun e' member => alarm e' (List.mem_cons_of_mem _ member), Nat.add_comm]

private theorem callsIn_own (mode : Mode) (calls : List Call) :
    callsIn mode (calls.map (mode, ·)) = calls := by
  induction calls with
  | nil => rfl
  | cons call calls ih => simpa [callsIn] using ih

/-- The accounts of calls and notifications: whatever orders are carried out to their ends, on
whatever transports. -/
theorem accounts (d : Dispatcher τ) {orders : List Order} {entries : List (Entry (Recorded τ))}
    {last : Flow (Recorded τ)}
    (completed : (start d.recorded).completeAll orders = some (entries, last)) :
    Accounts d entries last := by
  have follows := completeAll_follows completed
  have dispatcher : last.dispatcher = (Flow.calls entries).foldl Dispatcher.receive d.recorded :=
    follows.dispatcher
  have unused : last.Unused := follows.unused (by simp [Unused, start])
  have log (mode : Mode) : last.dispatcher.callsOf mode = callsIn mode (Flow.calls entries) := by
    rw [dispatcher, Dispatcher.foldl_receive_callsOf, Dispatcher.recorded_callsOf, List.nil_append]
  have transports (mode : Mode) : last.dispatcher.transports.select mode =
      (last.dispatcher.callsOf mode).foldl Transport.receive
        (d.recorded.transports.select mode) := by
    rw [log, dispatcher, Dispatcher.foldl_receive_select]
  have config : last.dispatcher.config = d.config := by
    rw [dispatcher, Dispatcher.foldl_receive_config]
    rfl
  constructor
  case log => exact log
  case calls =>
    intro mode
    rw [log, callsIn_calls]
  case transports => exact transports
  case alarm => exact follows.alarm
  case alarms => exact countP_alarms follows.alarm
  case good =>
    have good := follows.good
    rw [unused.pongs_ran]
    exact good
  case config => exact config
  case later =>
    intro op
    refine Dispatcher.alone_congr ?_ ?_
    · rw [config, Dispatcher.foldl_receive_config]
      rfl
    · rw [transports, Dispatcher.foldl_receive_select, callsIn_own]
  case steady =>
    intro steady op
    have recorded : d.recorded.Steady := by
      intro mode
      rw [Dispatcher.recorded_select]
      exact (steady mode).recorded []
    rw [dispatcher]
    exact Dispatcher.alone_steady recorded ((Dispatcher.Reached.refl _).foldl_receive _) op
  case failed =>
    intro order e next step _
    obtain ⟨begun, -, obeys⟩ := completed_obeys step
    exact begun ▸ obeys.spares

/-- A flow with a failure, a pong, and a session that is told to stop before it is run. -/
theorem accounts_stopped_session :
    let t : Rehearsal := ⟨.text, [(5, .pong none "svc-a")], []⟩
    let d : Dispatcher Rehearsal := ⟨⟨t, { t with mode := .binary }⟩, .default⟩
    let orders : List Order := [.ping "nope" .text, .ping "7" .text, .openStream ⟨0⟩ "2 9",
      .cancel 0, .runStream 0 .binary none]
    ∃ entries last, (start d.recorded).completeAll orders = some (entries, last) ∧
      Accounts d entries last := by
  intro t d orders
  obtain ⟨entries, f, prepared, kept⟩ : ∃ entries f,
      (start d.recorded).completeAll (orders.take 4) = some (entries, f) ∧
        f.sessions = [(Session.create 2 9 .default ⟨0⟩).cancel] := ⟨_, _, rfl, rfl⟩
  obtain ⟨e, last, run⟩ : ∃ e last, f.complete (.runStream 0 .binary none) = some (e, last) := by
    have stopped := Dispatcher.runSession_idle (s := (Session.create 2 9 .default ⟨0⟩).cancel) rfl
      f.dispatcher .binary none
    rw [Session.trace_stopped rfl rfl] at stopped
    simp only [complete, perform, kept, List.getElem?_cons_zero, Flow.run, stopped]
    exact ⟨_, _, rfl⟩
  have rest : f.completeAll [.runStream 0 .binary none] = some ([e], last) := by
    simp [completeAll, run]
  have completed : (start d.recorded).completeAll orders = some (entries ++ [e], last) :=
    completeAll_append prepared rest
  exact ⟨entries ++ [e], last, completed, accounts d completed⟩

end Flow
end GatewayPing
