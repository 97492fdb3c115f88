import GatewayPing.Proofs.Wording
import GatewayPing.Session

/-! Traces of runs. What a call brings is a timeline: pongs, each at its time, and at most one end
after them. A cancellation cuts it at its moment, unless the end comes before that. All traces that
come about like this are `Orderly`, and what is seen of an orderly trace follows from its pongs and
its end. -/
namespace GatewayPing

namespace Moment

variable {m : Moment} {time : Nat}

/-- A moment does not come before a time that it follows. -/
theorem le_time (early : m.follows time = true) : time ≤ m.time := by
  cases m with
  | before limit => exact Nat.le_of_lt (of_decide_eq_true early)
  | after limit => exact of_decide_eq_true early

/-- A moment follows all times before one that it follows. -/
theorem follows_of_le {earlier : Nat} (ordered : earlier ≤ time) (early : m.follows time = true) :
    m.follows earlier = true := by
  cases m with
  | before limit => exact decide_eq_true (Nat.lt_of_le_of_lt ordered (of_decide_eq_true early))
  | after limit => exact decide_eq_true (Nat.le_trans ordered (of_decide_eq_true early))

theorem late_of_le {later : Nat} (ordered : time ≤ later) (late : m.follows time = false) :
    m.follows later = false := by
  apply Bool.eq_false_iff.mpr
  intro early
  exact Bool.false_ne_true (late.symm.trans (follows_of_le ordered early))

/-- The only moment that comes before everything is the start itself. -/
theorem time_of_late_at_start (late : m.follows 0 = false) : m.time = 0 := by
  cases m with
  | before limit => exact Nat.le_zero.mp (Nat.not_lt.mp (of_decide_eq_false late))
  | after limit => exact absurd (Nat.zero_le limit) (of_decide_eq_false late)

end Moment

namespace Trace

/-- What a stream brings from a time on. Nothing that comes after a failure matters. -/
def ofItems (staysOpen : Bool) (time : Nat) : List (Nat × Except Status StreamPong) → Trace
  | [] => if staysOpen then [] else [(time, .ended .completed)]
  | (delay, .ok p) :: items => (time + delay, .pong p) :: ofItems staysOpen (time + delay) items
  | (delay, .error s) :: _ => [(time + delay, .ended (.failed (.broken s)))]

/-- What a call brings. -/
def ofReply : Eventual (Except CallError Feed) → Trace
  | .never => []
  | .after delay (.error e) => [(delay, .ended (.failed (.ofCallError e)))]
  | .after delay (.ok feed) => ofItems feed.staysOpen delay feed.items

/-- The pongs of a trace and their times. -/
def pongs (trace : Trace) : Timeline StreamPong :=
  trace.filterMap fun
    | (time, .pong p) => some (time, p)
    | (_, .ended _) => none

/-- When and how the session ends, if it does. -/
def ending? (trace : Trace) : Option (Nat × RunEnd) :=
  trace.findSome? fun
    | (_, .pong _) => none
    | (time, .ended e) => some (time, e)

section
variable {time : Nat} {trace : Trace}

@[simp] theorem pongs_nil : pongs [] = [] := rfl

@[simp] theorem pongs_pong {p : StreamPong} :
    pongs ((time, .pong p) :: trace) = (time, p) :: pongs trace := rfl

@[simp] theorem pongs_ended {e : RunEnd} : pongs ((time, .ended e) :: trace) = pongs trace := rfl

@[simp] theorem ending?_nil : ending? [] = none := rfl

@[simp] theorem ending?_pong {p : StreamPong} :
    ending? ((time, .pong p) :: trace) = ending? trace := rfl

@[simp] theorem ending?_ended {e : RunEnd} :
    ending? ((time, .ended e) :: trace) = some (time, e) := rfl

end

/-- A trace that is cut short by a cancellation, unless the session has ended by then. What is due
once the session was told to stop comes too late, even if it is due at the same time. -/
def cancelledAt (m : Moment) : Trace → Trace
  | [] => [(m.time, .ended .cancelled)]
  | (time, .pong p) :: trace =>
    if m.follows time then (time, .pong p) :: cancelledAt m trace
    else [(m.time, .ended .cancelled)]
  | (time, .ended e) :: _ =>
    if m.follows time then [(time, .ended e)] else [(m.time, .ended .cancelled)]

/-- A trace that may be cut short by a cancellation. -/
def cancelledWhen : Option Moment → Trace → Trace
  | none, trace => trace
  | some m, trace => cancelledAt m trace

section
variable {m : Moment} {cancelAt : Option Moment} {time : Nat} {trace : Trace}

theorem cancelledWhen_nil :
    cancelledWhen cancelAt [] = cancelAt.toList.map fun m => (m.time, .ended .cancelled) := by
  cases cancelAt <;> rfl

theorem cancelledWhen_pong {p : StreamPong} (early : ∀ m ∈ cancelAt, m.follows time = true) :
    cancelledWhen cancelAt ((time, .pong p) :: trace) =
      (time, .pong p) :: cancelledWhen cancelAt trace := by
  cases cancelAt with
  | none => rfl
  | some m => simp only [cancelledWhen, cancelledAt, early m rfl, ↓reduceIte]

theorem cancelledWhen_ended {e : RunEnd} (early : ∀ m ∈ cancelAt, m.follows time = true) :
    cancelledWhen cancelAt [(time, .ended e)] = [(time, .ended e)] := by
  cases cancelAt with
  | none => rfl
  | some m => simp only [cancelledWhen, cancelledAt, early m rfl, ↓reduceIte]

theorem cancelledAt_late {e : SessionEvent} (late : m.follows time = false) :
    cancelledAt m ((time, e) :: trace) = [(m.time, .ended .cancelled)] := by
  cases e <;> simp only [cancelledAt, late, Bool.false_eq_true, ↓reduceIte]

end

/-- A trace that goes forward in time, from a start on, and stops with the end of the session. -/
inductive Orderly : Nat → Trace → Prop where
  | nil {start : Nat} : Orderly start []
  | pong {start time : Nat} {p : StreamPong} {trace : Trace} (forward : start ≤ time)
      (rest : Orderly time trace) : Orderly start ((time, .pong p) :: trace)
  | ended {start time : Nat} {e : RunEnd} (forward : start ≤ time) :
      Orderly start [(time, .ended e)]

private theorem ofItems_orderly (staysOpen : Bool) (time : Nat)
    (items : List (Nat × Except Status StreamPong)) :
    Orderly time (ofItems staysOpen time items) := by
  induction items generalizing time with
  | nil =>
    cases staysOpen with
    | true => exact .nil
    | false => exact .ended (Nat.le_refl time)
  | cons item items ih =>
    obtain ⟨delay, item⟩ := item
    cases item with
    | error s => exact .ended (Nat.le_add_right time delay)
    | ok p => exact .pong (Nat.le_add_right time delay) (ih (time + delay))

private theorem Orderly.weaken {start earlier : Nat} {trace : Trace} (orderly : Orderly start trace)
    (ordered : earlier ≤ start) : Orderly earlier trace := by
  cases orderly with
  | nil => exact .nil
  | pong forward rest => exact .pong (Nat.le_trans ordered forward) rest
  | ended forward => exact .ended (Nat.le_trans ordered forward)

theorem ofReply_after_orderly (delay : Nat) (reply : Except CallError Feed) :
    Orderly delay (ofReply (.after delay reply)) := by
  cases reply with
  | error e => exact .ended (Nat.le_refl delay)
  | ok feed => exact ofItems_orderly _ _ _

theorem ofReply_orderly (reply : Eventual (Except CallError Feed)) :
    Orderly 0 (ofReply reply) := by
  cases reply with
  | never => exact .nil
  | after delay reply => exact (ofReply_after_orderly delay reply).weaken (Nat.zero_le delay)

/-- A cancellation before a trace begins leaves nothing of it. -/
theorem Orderly.cancelledAt_eq {m : Moment} {start : Nat} {trace : Trace}
    (orderly : Orderly start trace) (late : m.follows start = false) :
    cancelledAt m trace = [(m.time, .ended .cancelled)] := by
  cases orderly with
  | nil => rfl
  | pong forward rest => exact cancelledAt_late (Moment.late_of_le forward late)
  | ended forward => exact cancelledAt_late (Moment.late_of_le forward late)

theorem cancelledAt_orderly {m : Moment} {start : Nat} {trace : Trace}
    (orderly : Orderly start trace) (begun : start ≤ m.time) :
    Orderly start (cancelledAt m trace) := by
  induction orderly with
  | nil => exact .ended begun
  | @pong start time p trace forward rest ih =>
    by_cases early : m.follows time = true
    · simpa only [cancelledAt, early, ↓reduceIte] using
        .pong forward (ih (Moment.le_time early))
    · simpa only [cancelledAt, early, Bool.false_eq_true, ↓reduceIte] using .ended begun
  | @ended start time e forward =>
    by_cases early : m.follows time = true
    · simpa only [cancelledAt, early, ↓reduceIte] using .ended forward
    · simpa only [cancelledAt, early, Bool.false_eq_true, ↓reduceIte] using .ended begun

end Trace

namespace Session

variable {α : Type} {start : Nat} {trace : Trace}

@[simp] theorem after_nil (s : Session) : s.after [] = s := rfl

@[simp] theorem after_cons (s : Session) (e : Nat × SessionEvent) :
    s.after (e :: trace) = (s.apply e.2).after trace := rfl

/-- A session that was run has received the pongs of its trace, and it is in the state in which the
trace leaves it. -/
theorem after_eq (s : Session) (orderly : trace.Orderly start) :
    s.after trace =
      { s with
        state := (trace.ending?.map fun e => .done e.2.sessionEnd).getD s.state
        received := s.received + trace.pongs.length
        cancelled := s.cancelled || trace.ending?.any (·.2 == .cancelled) } := by
  induction orderly generalizing s with
  | nil => simp
  | pong forward rest ih =>
    simp only [after_cons, apply, ih, Trace.ending?_pong, Trace.pongs_pong, List.length_cons]
    simp only [Nat.add_assoc, Nat.add_comm 1]
  | ended forward => simp [apply]

/-- The user is told of each pong, and then of the end. -/
theorem course_notices (s : Session) (result : Session → Except OperationError Ending → α)
    (orderly : trace.Orderly start) :
    (s.course result trace).notices =
      trace.pongs.map (fun p => p.2.told) ++
        trace.ending?.toList.flatMap (·.2.notices) := by
  induction orderly generalizing s with
  | nil => rfl
  | pong forward rest ih =>
    simpa [course, Course.notices, StreamPong.told_eq] using ih _
  | @ended start time e forward =>
    cases e <;> rfl

/-- The course of a session ends with its trace. -/
theorem course_result? (s : Session) (result : Session → Except OperationError Ending → α)
    (orderly : trace.Orderly start) :
    (s.course result trace).result? =
      trace.ending?.map fun e => (e.1, result (s.after trace) e.2.result) := by
  induction orderly generalizing s with
  | nil => rfl
  | pong forward rest ih =>
    simpa [course, Course.result?] using ih _
  | @ended start time e forward =>
    cases e <;> rfl

end Session
end GatewayPing
