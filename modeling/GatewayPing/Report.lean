/-! What is seen of the program: what it prints, and its exit code. -/
namespace GatewayPing

/-- What the program printed, one text after the other, and its exit code. -/
structure Report where
  /-- What it printed as its output. -/
  output : List String
  /-- What it told its user apart from its output. The log, which is written to the same place, is
  left out. -/
  errors : List String
  /-- A program that waits for ever has none. -/
  exitCode : Option UInt32
  deriving DecidableEq, Repr

end GatewayPing
