import GatewayPing.Text.Utf8

/-! Lines of text in a byte sequence. A line ends with a newline, which belongs to it; the last line
may go without. Cutting a sequence into lines loses nothing. Each line has to be UTF-8 by itself,
and reading stops at the first that is not. -/
namespace GatewayPing.Text

/-- The byte that ends a line. -/
def newline : UInt8 := 0x0A

/-- Cuts a byte sequence into lines, each with its newline. What was met of the current line is
given latest byte first. -/
def cutLinesFrom (line : Bytes) : Bytes → List Bytes
  | [] => if line.isEmpty then [] else [line.reverse]
  | b :: s =>
    if b = newline then (b :: line).reverse :: cutLinesFrom [] s else cutLinesFrom (b :: line) s

/-- Cuts a byte sequence into lines, each with its newline. -/
def cutLines (s : Bytes) : List Bytes := cutLinesFrom [] s

/-- A line without the newline at its end and without a carriage return before that. A carriage
return without a newline stays. -/
def withoutEnd (line : List Char) : List Char :=
  match line.reverse with
  | '\n' :: '\r' :: cs => cs.reverse
  | '\n' :: cs => cs.reverse
  | _ => line

/-- The lines that could be read, and why reading stopped if that was before the end. -/
structure Lines where
  texts : List String
  fault : Option Utf8.Fault
  deriving DecidableEq, Repr

/-- Reads lines up to the first that is no text. -/
def Lines.read : List Bytes → Lines
  | [] => ⟨[], none⟩
  | line :: rest =>
    match Utf8.decode line with
    | .error fault => ⟨[], some fault⟩
    | .ok text =>
      let later := read rest
      ⟨String.ofList (withoutEnd text.toList) :: later.texts, later.fault⟩

/-- The lines of a byte sequence. -/
def Lines.ofBytes (s : Bytes) : Lines := .read (cutLines s)

end GatewayPing.Text
