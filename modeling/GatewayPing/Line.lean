import GatewayPing.Mode
import GatewayPing.Text.Blank

/-! Lines of an interactive run. A line may name its mode before a colon; what follows the first
colon is then the input, unchanged, and any later colon belongs to it. -/
namespace GatewayPing

open Text

/-- An input and the mode in which to send it. -/
structure Line where
  mode : Mode
  input : String
  deriving DecidableEq, Repr

/-- Reads a line. Only a known mode name, give or take blanks, is taken off it; any other line is
input as a whole, for the default mode. -/
def Line.read (default : Mode) (line : String) : Line :=
  match splitAtFirst (· == ':') line.toList with
  | none => ⟨default, line⟩
  | some (name, rest) =>
    match Mode.ofName? (String.ofList (trim name)) with
    | some mode => ⟨mode, String.ofList rest⟩
    | none => ⟨default, line⟩

end GatewayPing
