import GatewayPing.Proofs.Concurrent.Independence
import GatewayPing.Proofs.Flow.Orders
import GatewayPing.Proofs.Input.Handling

/-! Single calls and their times. An operation that sends its input as a timestamp makes one call, or
none; a failure is told as soon as it is known, and a pong after the response delay. The operation
may be given up at any time, and what was not told by then is never told. What is preserved by every
move is how far the call has come, and that nothing that is due is past (`Task.Phase`). Main
statement: `Board.single_calls`. -/
namespace GatewayPing

open Operation (Result)
open Concurrent (Entry)

namespace Operation

/-- Operations that send an input as the timestamp of a single call. -/
inductive Sends : Operation → Method → String → Mode → Prop where
  | ping (raw : String) (mode : Mode) : Sends (.ping raw mode) .aPing raw mode
  | unary (method : Method) (raw : String) (mode : Mode) :
      Sends (.unary method raw mode) method raw mode

variable {τ : Type} {op : Operation} {method : Method} {raw : String} {mode : Mode}

private theorem Sends.plan_eq (sends : op.Sends method raw mode) (d : Dispatcher τ) :
    op.plan d = singlePlan method raw .pong := by
  cases sends <;> rfl

private theorem Sends.mode_eq (sends : op.Sends method raw mode) : op.mode = mode := by
  cases sends <;> rfl

private theorem Sends.ofPong_eq (sends : op.Sends method raw mode)
    (r : Except OperationError Pong) : op.ofPong r = .pong r := by
  cases sends <;> rfl

end Operation

namespace Dispatcher

variable {τ : Type} [Transport τ]

/-- What the transport of a mode answers to a single call. -/
def unaryAnswer (d : Dispatcher τ) (method : Method) (mode : Mode) (timestamp : Int64) :
    Eventual (Except CallError Pong) :=
  (Transport.unary (d.transports.select mode) method ⟨timestamp⟩ d.config.unaryHeaders).1

/-- How a single call ends: when, with what notification, and with what result. Times are counted
from the call. -/
inductive UnaryEnd (d : Dispatcher τ) (method : Method) (raw : String) (mode : Mode) :
    Nat → Notification → Except OperationError Pong → Prop where
  /-- The input is no timestamp. The error repeats it as it was given. -/
  | refused (bad : Input.timestamp? raw = none) :
      UnaryEnd d method raw mode 0 Expected.timestamp.told (.error (.invalidInput raw .timestamp))
  /-- A pong is told after the response delay. -/
  | pong {t : Int64} {delay : Nat} {p : Pong} (good : Input.timestamp? raw = some t)
      (answer : d.unaryAnswer method mode t = .after delay (.ok p)) :
      UnaryEnd d method raw mode (delay + d.config.responseDelay.toNat) p.told (.ok p)
  /-- A status is told at once. -/
  | rejected {t : Int64} {delay : Nat} {s : Status} (good : Input.timestamp? raw = some t)
      (answer : d.unaryAnswer method mode t = .after delay (.error (.status s))) :
      UnaryEnd d method raw mode delay (Failure.rejected s).told (.error (.failed (.rejected s)))
  /-- So is a service that is not ready, or a header that is malformed. -/
  | unsent {t : Int64} {delay : Nat} {e : RequestError} (good : Input.timestamp? raw = some t)
      (answer : d.unaryAnswer method mode t = .after delay (.error (.request e))) :
      UnaryEnd d method raw mode delay (Failure.unsent e).told (.error (.failed (.unsent e)))

variable {d : Dispatcher τ} {method : Method} {raw : String} {mode : Mode} {time time' : Nat}
  {n n' : Notification} {r r' : Except OperationError Pong}

/-- An error that is the answer to a call ends it. -/
theorem UnaryEnd.failed {t : Int64} {delay : Nat} {e : CallError}
    (good : Input.timestamp? raw = some t)
    (answer : d.unaryAnswer method mode t = .after delay (.error e)) :
    d.UnaryEnd method raw mode delay (Failure.ofCallError e).told
      (.error (.failed (.ofCallError e))) := by
  cases e with
  | status s => exact .rejected good answer
  | request e => exact .unsent good answer

/-- A call that was made does not end before it is answered. -/
theorem UnaryEnd.answered {t : Int64} (ends : d.UnaryEnd method raw mode time n r)
    (good : Input.timestamp? raw = some t) :
    ∃ delay x, d.unaryAnswer method mode t = .after delay x ∧ delay ≤ time := by
  cases ends with
  | refused bad => cases bad.symm.trans good
  | pong same answer =>
    cases same.symm.trans good
    exact ⟨_, _, answer, Nat.le_add_right _ _⟩
  | rejected same answer =>
    cases same.symm.trans good
    exact ⟨_, _, answer, Nat.le_refl _⟩
  | unsent same answer =>
    cases same.symm.trans good
    exact ⟨_, _, answer, Nat.le_refl _⟩

/-- A call does not end in two ways. -/
theorem UnaryEnd.unique (first : d.UnaryEnd method raw mode time n r)
    (second : d.UnaryEnd method raw mode time' n' r') : time = time' ∧ n = n' ∧ r = r' := by
  cases first <;> cases second <;> grind

end Dispatcher

namespace Task

variable {τ : Type} [Transport τ] {d : Dispatcher τ} {op : Operation} {method : Method}
  {raw : String} {mode : Mode} {clock time : Nat} {state : State}
  {log : List (Entry (Happening Result))}

/-- All that is seen of a single call. -/
def ended (time : Nat) (n : Notification) (r : Except OperationError Pong) :
    List (Entry (Happening Result)) :=
  [⟨time, 0, .notice n⟩, ⟨time, 0, .finished (.pong r)⟩]

/-- How far a single call that was begun has come, and what was seen of it. The clock is never past
what the call waits for. -/
inductive Phase (d : Dispatcher τ) (method : Method) (raw : String) (mode : Mode) (clock : Nat) :
    State → List (Entry (Happening Result)) → Prop where
  | calling {t : Int64} (good : Input.timestamp? raw = some t)
      (ahead : ∀ due x, d.unaryAnswer method mode t = .after due x → clock ≤ due) :
      Phase d method raw mode clock (.calling (d.unaryAnswer method mode t)) []
  | holding {t : Int64} {delay : Nat} {p : Pong} (good : Input.timestamp? raw = some t)
      (answer : d.unaryAnswer method mode t = .after delay (.ok p))
      (ahead : clock ≤ delay + d.config.responseDelay.toNat) :
      Phase d method raw mode clock (.holding (delay + d.config.responseDelay.toNat) p) []
  | ended {time : Nat} {n : Notification} {r : Except OperationError Pong}
      (ends : d.UnaryEnd method raw mode time n r) (passed : time ≤ clock) :
      Phase d method raw mode clock .finished (Task.ended time n r)

/-- The clock goes on only as far as the call allows it to. -/
theorem Phase.wait (phase : Phase d method raw mode clock state log)
    (allowed : ∀ due, (⟨op, state⟩ : Task).due? = some due → time ≤ due) :
    Phase d method raw mode (max clock time) state log := by
  cases phase with
  | ended ends passed => exact .ended ends (Nat.le_trans passed (Nat.le_max_left clock time))
  | holding good answer ahead => exact .holding good answer (Nat.max_le.mpr ⟨ahead, allowed _ rfl⟩)
  | @calling t good ahead =>
    refine .calling good fun due x answer => Nat.max_le.mpr ⟨ahead due x answer, allowed due ?_⟩
    rw [answer]
    rfl

/-- What comes of a poll of a single call. -/
theorem Phase.poll {σ : Type} [Transport σ] (sends : op.Sends method raw mode) {e : Dispatcher σ}
    (config : e.config = d.config) (phase : Phase d method raw mode clock state log) :
    ∃ next events,
      (⟨op, state⟩ : Task).poll clock e = { task := ⟨op, next⟩, dispatcher := e, events } ∧
        Phase d method raw mode clock next (log ++ events.map (⟨clock, 0, ·⟩)) := by
  have quiet (undue : ∀ due, (⟨op, state⟩ : Task).due? = some due → clock < due) :
      ∃ next events,
        (⟨op, state⟩ : Task).poll clock e = { task := ⟨op, next⟩, dispatcher := e, events } ∧
          Phase d method raw mode clock next (log ++ events.map (⟨clock, 0, ·⟩)) :=
    ⟨state, [], poll_undue e undue, (List.append_nil log).symm ▸ phase⟩
  -- The clock is never past what is due, so what is due at all is due now.
  cases phase with
  | ended ends passed => exact quiet nofun
  | @holding t delay p good answer ahead =>
    rcases Nat.lt_or_eq_of_le ahead with early | rfl
    · exact quiet fun due pending => by cases pending; exact early
    · refine ⟨.finished, _, poll_holding e (Nat.le_refl _), ?_⟩
      rw [sends.ofPong_eq, p.told_eq]
      exact .ended (.pong good answer) (Nat.le_refl _)
  | @calling t good ahead =>
    cases answer : d.unaryAnswer method mode t with
    | never =>
      rw [answer] at quiet
      exact quiet nofun
    | after due x =>
      rcases Nat.lt_or_eq_of_le (ahead due x answer) with early | rfl
      · rw [answer] at quiet
        exact quiet fun due pending => by cases pending; exact early
      · rw [poll_calling e (Nat.le_refl _)]
        cases x with
        | ok p =>
          refine ⟨_, [], rfl, ?_⟩
          rw [config]
          exact .holding good answer (Nat.le_add_right _ _)
        | error f =>
          refine ⟨.finished, _, rfl, ?_⟩
          rw [sends.ofPong_eq, Failure.told_eq]
          exact .ended (.failed good answer) (Nat.le_refl _)

/-- The first poll makes the call that the input asks for, or refuses the input. -/
theorem Phase.begin (sends : op.Sends method raw mode) (d : Dispatcher τ) :
    let turn := (⟨op, .fresh⟩ : Task).poll 0 d.recorded
    turn.call = (d.unaryCall? method raw).map (mode, ·) ∧ turn.dispatcher.config = d.config ∧
      ∃ next, turn.task = ⟨op, next⟩ ∧
        Phase d method raw mode 0 next (turn.events.map (⟨0, 0, ·⟩)) := by
  intro turn
  have planned : turn =
      (⟨op, .fresh⟩ : Task).start 0 d.recorded (Operation.singlePlan method raw .pong) :=
    sends.plan_eq d.recorded ▸ rfl
  rw [planned, Operation.singlePlan, Dispatcher.unaryCall?]
  cases read : Input.timestamp? raw with
  | none => exact ⟨rfl, rfl, .finished, rfl, .ended (.refused read) (Nat.le_refl 0)⟩
  | some t =>
    simp only [start, sends.mode_eq, Eventual.startingAt_zero]
    refine ⟨rfl, rfl, _, rfl, ?_⟩
    rw [Dispatcher.recorded_unary]
    exact .calling read fun due x _ => Nat.zero_le due

end Task

namespace Board

variable {τ : Type} {b : Board (Recorded τ)} {op : Operation} {method : Method} {raw : String}
  {mode : Mode}

/-- Gives operations up: none of them is polled any more. -/
def drop (b : Board τ) : Board τ := { b with tasks := [] }

variable [Transport τ] {d : Dispatcher τ}

/-- Of operations that were given up nothing is seen any more, and they make no calls. -/
theorem drop_after (b : Board τ) (moves : List Move) :
    ∃ clock, b.drop.after moves = { b with clock, tasks := [] } := by
  induction moves generalizing b with
  | nil => exact ⟨b.clock, rfl⟩
  | cons m moves ih =>
    cases m with
    | poll task => exact ih b
    | wait time => exact ih { b with clock := max b.clock time }

/-- A single call that was begun. -/
structure Underway (d : Dispatcher τ) (op : Operation) (method : Method) (raw : String)
    (mode : Mode) (b : Board (Recorded τ)) : Prop where
  config : b.dispatcher.config = d.config
  calls : b.calls = ((d.unaryCall? method raw).map (mode, ·)).toList.map (⟨0, 0, ·⟩)
  phase : ∃ state, b.tasks = [⟨op, state⟩] ∧ Task.Phase d method raw mode b.clock state b.log

/-- The first poll begins a single call. -/
theorem poll_underway (sends : op.Sends method raw mode) (d : Dispatcher τ) :
    ((start d.recorded [op]).poll 0).Underway d op method raw mode := by
  obtain ⟨called, config, next, came, phase⟩ := Task.Phase.begin sends d
  refine ⟨config, ?_, next, ?_, phase⟩
  · rw [← called]
    rfl
  · exact congrArg ([·]) came

private theorem Underway.poll (underway : b.Underway d op method raw mode)
    (sends : op.Sends method raw mode) (task : Nat) :
    (b.poll task).Underway d op method raw mode := by
  obtain ⟨config, calls, state, tasks, phase⟩ := underway
  cases task with
  | zero =>
    obtain ⟨next, events, polled, later⟩ := phase.poll sends config
    simp only [Board.poll, tasks, List.getElem?_cons_zero, polled]
    exact ⟨config, (List.append_nil _).trans calls, next, rfl, later⟩
  | succ i =>
    have absent : b.poll (i + 1) = b := by simp [Board.poll, tasks]
    exact absent.symm ▸ ⟨config, calls, state, tasks, phase⟩

private theorem Underway.wait (underway : b.Underway d op method raw mode) (time : Nat) :
    (b.wait time).Underway d op method raw mode := by
  obtain ⟨config, calls, state, tasks, phase⟩ := underway
  unfold Board.wait
  split
  · rename_i allowed
    simp only [tasks, List.all_cons, List.all_nil, Bool.and_true, Option.all_eq_true,
      decide_eq_true_eq] at allowed
    exact ⟨config, calls, state, tasks, phase.wait allowed⟩
  · exact ⟨config, calls, state, tasks, phase⟩

theorem Underway.after (underway : b.Underway d op method raw mode)
    (sends : op.Sends method raw mode) (moves : List Move) :
    (b.after moves).Underway d op method raw mode := by
  induction moves generalizing b with
  | nil => exact underway
  | cons m moves ih =>
    cases m with
    | poll task => exact ih (underway.poll sends task)
    | wait time => exact ih (underway.wait time)

/-- A single call is begun by the first poll, whatever was done before. -/
theorem start_after (sends : op.Sends method raw mode) (d : Dispatcher τ) (moves : List Move) :
    .poll 0 ∉ moves ∧ (start d.recorded [op]).after moves = start d.recorded [op] ∨
      .poll 0 ∈ moves ∧ ((start d.recorded [op]).after moves).Underway d op method raw mode := by
  induction moves with
  | nil => exact .inl ⟨List.not_mem_nil, rfl⟩
  | cons m moves ih =>
    rcases m with ⟨_ | i⟩ | time
    · exact .inr ⟨List.mem_cons_self, (poll_underway sends d).after sends moves⟩
    · have absent : (start d.recorded [op]).move (.poll (i + 1)) = start d.recorded [op] := rfl
      simpa [after, absent] using ih
    · have still : (start d.recorded [op]).move (.wait time) = start d.recorded [op] := by
        simp only [move, wait]
        split
        · rename_i allowed
          obtain rfl : time = 0 := by simpa [start, Task.due?] using allowed
          rfl
        · rfl
      simpa [after, still] using ih

/-- What is seen of a single call after moves, and what is still to come. -/
structure Single (d : Dispatcher τ) (method : Method) (raw : String) (mode : Mode)
    (moves : List Move) (b : Board (Recorded τ)) : Prop where
  /-- The call that the input asks for reaches the transport of its mode as soon as the operation is
  polled. No other call ever reaches a transport. -/
  reached : ∀ m, b.dispatcher.callsOf m =
    if .poll 0 ∈ moves ∧ m = mode then (d.unaryCall? method raw).toList else []
  /-- The call is made at the beginning. -/
  called : ∀ entry ∈ b.calls, entry.time = 0
  /-- Nothing is seen before the end of the call, and the end is seen at its time. -/
  seen : ∀ time n r, d.UnaryEnd method raw mode time n r →
    b.log = [] ∧ b.clock ≤ time ∨ b.log = Task.ended time n r ∧ time ≤ b.clock
  /-- Nothing is seen of a call that has no end. -/
  silent : (¬ ∃ time n r, d.UnaryEnd method raw mode time n r) → b.log = []
  /-- An input that is no timestamp is refused by the first poll. -/
  refused : .poll 0 ∈ moves → Input.timestamp? raw = none →
    b.log = Task.ended 0 Expected.timestamp.told (.error (.invalidInput raw .timestamp))
  /-- If the operation is given up, nothing more is seen of it, and no call is made. -/
  dropped : ∀ more, (b.drop.after more).log = b.log ∧
    ∀ m, (b.drop.after more).dispatcher.callsOf m = b.dispatcher.callsOf m
  /-- If it is not, a call that has an end gets there. -/
  completed : ∀ schedule polls time n r, d.UnaryEnd method raw mode time n r →
    (b.run schedule polls).log = Task.ended time n r

theorem Underway.seen (underway : b.Underway d op method raw mode) {time : Nat} {n : Notification}
    {r : Except OperationError Pong} (ends : d.UnaryEnd method raw mode time n r) :
    b.log = [] ∧ b.clock ≤ time ∨ b.log = Task.ended time n r ∧ time ≤ b.clock := by
  obtain ⟨-, -, state, -, phase⟩ := underway
  generalize b.log = log at *
  cases phase with
  | calling good ahead =>
    obtain ⟨delay, x, answer, reached⟩ := ends.answered good
    exact .inl ⟨rfl, Nat.le_trans (ahead delay x answer) reached⟩
  | holding good answer ahead =>
    obtain ⟨rfl, -, -⟩ := ends.unique (.pong good answer)
    exact .inl ⟨rfl, ahead⟩
  | ended other passed =>
    obtain ⟨rfl, rfl, rfl⟩ := ends.unique other
    exact .inr ⟨rfl, passed⟩

/-- Of a call that has no end nothing is seen. -/
theorem Underway.silent (underway : b.Underway d op method raw mode)
    (endless : ¬ ∃ time n r, d.UnaryEnd method raw mode time n r) : b.log = [] := by
  obtain ⟨-, -, state, -, phase⟩ := underway
  generalize b.log = log at *
  cases phase with
  | calling good ahead => rfl
  | holding good answer ahead => rfl
  | ended ends passed => exact absurd ⟨_, _, _, ends⟩ endless

/-- A call whose input is no timestamp has its end behind it. -/
theorem Underway.refused (underway : b.Underway d op method raw mode)
    (bad : Input.timestamp? raw = none) :
    b.log = Task.ended 0 Expected.timestamp.told (.error (.invalidInput raw .timestamp)) := by
  obtain ⟨-, -, state, -, phase⟩ := underway
  generalize b.log = log at *
  cases phase with
  | calling good ahead => cases good.symm.trans bad
  | holding good answer ahead => cases good.symm.trans bad
  | ended ends passed =>
    obtain ⟨rfl, rfl, rfl⟩ := ends.unique (.refused bad)
    rfl

/-- A call that has an end comes to rest only there. -/
theorem Underway.settled (underway : b.Underway d op method raw mode) (settled : b.Settled)
    {time : Nat} {n : Notification} {r : Except OperationError Pong}
    (ends : d.UnaryEnd method raw mode time n r) : b.log = Task.ended time n r := by
  obtain ⟨-, -, state, tasks, phase⟩ := underway
  have quiet : (⟨op, state⟩ : Task).due? = none := settled _ (tasks ▸ List.mem_singleton_self _)
  generalize b.log = log at *
  cases phase with
  | calling good ahead =>
    obtain ⟨delay, x, answer, -⟩ := ends.answered good
    rw [answer] at quiet
    cases quiet
  | holding good answer ahead => cases quiet
  | ended other passed =>
    obtain ⟨rfl, rfl, rfl⟩ := ends.unique other
    rfl

/-- An execution of a single call comes to rest at its end, if it has one. -/
theorem run_single (sends : op.Sends method raw mode) (d : Dispatcher τ) (moves : List Move)
    (schedule : Concurrent.Schedule) (polls : Nat) {time : Nat} {n : Notification}
    {r : Except OperationError Pong} (ends : d.UnaryEnd method raw mode time n r) :
    (((start d.recorded [op]).after moves).run schedule polls).log = Task.ended time n r := by
  obtain ⟨more, same⟩ := run_moves schedule polls ((start d.recorded [op]).after moves)
  have settled := run_settled schedule polls ((start d.recorded [op]).after moves)
  rw [same, after, after, ← List.foldl_append, ← after] at *
  rcases start_after sends d (moves ++ more) with ⟨-, still⟩ | ⟨-, underway⟩
  · rw [still] at settled
    cases settled ⟨op, .fresh⟩ (List.mem_singleton_self _)
  · exact underway.settled settled ends

private theorem callsIn_single (call? : Option Call) (m : Mode) :
    callsIn m (call?.map (mode, ·)).toList = if m = mode then call?.toList else [] := by
  by_cases same : m = mode
  · subst same
    cases call? <;> simp [callsIn]
  · cases call? <;> simp [callsIn, same, Ne.symm same]

/-- A single call is made, is seen and ends as `Single` says. -/
theorem single_after (sends : op.Sends method raw mode) (d : Dispatcher τ) (moves : List Move) :
    ((start d.recorded [op]).after moves).Single d method raw mode moves := by
  have logged (m : Mode) : ((start d.recorded [op]).after moves).dispatcher.callsOf m =
      callsIn m (((start d.recorded [op]).after moves).calls.map (·.event)) :=
    after_calls (d.recorded_callsOf m) moves
  have dropped (b : Board (Recorded τ)) (more : List Move) : (b.drop.after more).log = b.log ∧
      ∀ m, (b.drop.after more).dispatcher.callsOf m = b.dispatcher.callsOf m := by
    obtain ⟨clock, same⟩ := drop_after b more
    rw [same]
    exact ⟨rfl, fun _ => rfl⟩
  have completed (schedule : Concurrent.Schedule) (polls time : Nat) (n : Notification)
      (r : Except OperationError Pong) (ends : d.UnaryEnd method raw mode time n r) :=
    run_single sends d moves schedule polls ends
  -- Before the first poll nothing was done, whatever the moves were.
  rcases start_after sends d moves with ⟨unpolled, still⟩ | ⟨polled, underway⟩
  · rw [still] at logged completed ⊢
    refine ⟨?_, nofun, ?_, fun _ => rfl, fun polled => absurd polled unpolled, dropped _, completed⟩
    · intro m
      rw [logged, if_neg fun both => unpolled both.1]
      rfl
    · exact fun time n r _ => .inl ⟨rfl, Nat.zero_le time⟩
  · refine ⟨?_, ?_, fun _ _ _ => underway.seen, underway.silent, fun _ => underway.refused,
      dropped _, completed⟩
    · intro m
      rw [logged, underway.calls, List.map_map]
      simp only [Function.comp_def, List.map_id', callsIn_single, polled, true_and]
    · rw [underway.calls]
      intro entry member
      obtain ⟨call, -, rfl⟩ := List.mem_map.mp member
      rfl

/-- Single calls, whether the method is given or is the usual one, after any moves. -/
theorem single_calls (d : Dispatcher τ) (raw : String) (mode : Mode) (moves : List Move) :
    (∀ method, ((start d.recorded [.unary method raw mode]).after moves).Single d method raw mode
        moves) ∧
      ((start d.recorded [.ping raw mode]).after moves).Single d .aPing raw mode moves :=
  ⟨fun method => single_after (.unary method raw mode) d moves,
    single_after (.ping raw mode) d moves⟩

end Board
end GatewayPing
