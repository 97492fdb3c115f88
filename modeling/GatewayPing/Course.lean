import GatewayPing.Notification

/-! Courses of events. Whatever takes time is written down as a list of events with their times, in
milliseconds from the start and in ascending order. What comes from outside happens at a moment
between the events. -/
namespace GatewayPing

/-- A moment: just before the events at a time, or just after them. -/
inductive Moment where
  | before (time : Nat)
  | after (time : Nat)
  deriving DecidableEq, Repr

namespace Moment

/-- What the clock shows at a moment. -/
def time : Moment → Nat
  | .before time => time
  | .after time => time

/-- Whether the events at a time come before a moment. -/
def follows : Moment → Nat → Bool
  | .before limit, time => time < limit
  | .after limit, time => time ≤ limit

end Moment

/-- Events and their times. -/
abbrev Timeline (ε : Type) := List (Nat × ε)

namespace Timeline

variable {ε : Type}

/-- The events up to a time, including those at it. -/
def upTo (time : Nat) (tl : Timeline ε) : Timeline ε := tl.takeWhile (·.1 ≤ time)

end Timeline

/-- What is seen of an operation: the user is told something, or the operation ends. -/
inductive Happening (α : Type) where
  | notice (n : Notification)
  | finished (result : α)
  deriving Repr

/-- The course of an operation. -/
abbrev Course (α : Type) := Timeline (Happening α)

namespace Course

variable {α β : Type}

/-- An operation that ends at a time, with notifications just before. -/
def ending (time : Nat) (notices : List Notification) (result : α) : Course α :=
  notices.map (fun n => (time, .notice n)) ++ [(time, .finished result)]

/-- The notifications of a course in their order. -/
def notices (c : Course α) : List Notification :=
  c.filterMap fun
    | (_, .notice n) => some n
    | (_, .finished _) => none

/-- When and how a course ends, if it does. -/
def result? (c : Course α) : Option (Nat × α) :=
  c.findSome? fun
    | (_, .notice _) => none
    | (time, .finished result) => some (time, result)

/-- Applies a function to the result. -/
def map (f : α → β) (c : Course α) : Course β :=
  List.map
    (fun
      | (time, .notice n) => (time, .notice n)
      | (time, .finished result) => (time, .finished (f result))) c

end Course
end GatewayPing
