/-! Values that are there after some time, or never. Times are in milliseconds. -/
namespace GatewayPing

/-- A value that is there after a delay, or never. -/
inductive Eventual (α : Type) where
  | after (delay : Nat) (value : α)
  | never
  deriving DecidableEq, Repr

namespace Eventual

/-- A value that is there at once. -/
def now {α : Type} (value : α) : Eventual α := .after 0 value

/-- Applies a function to the value. -/
def map {α β : Type} (f : α → β) : Eventual α → Eventual β
  | .after delay value => .after delay (f value)
  | .never => .never

/-- A value that is waited for from a time on: its delay is put after that time. -/
def startingAt {α : Type} (now : Nat) : Eventual α → Eventual α
  | .after delay value => .after (now + delay) value
  | .never => .never

theorem startingAt_zero {α : Type} (e : Eventual α) : e.startingAt 0 = e := by
  cases e <;> simp [startingAt]

/-- Gives up after a limit, if there is one, with another value. A value that is there just in time
is taken. -/
def within {α : Type} (limit : Option Nat) (late : α) (e : Eventual α) : Eventual α :=
  match limit, e with
  | none, e => e
  | some t, .after delay value => if delay ≤ t then .after delay value else .after t late
  | some t, .never => .after t late

end Eventual
end GatewayPing
