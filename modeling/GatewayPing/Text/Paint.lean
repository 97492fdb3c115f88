/-! Coloured text for terminals. A style is switched on before a text and everything is reset after
it. Where the text itself resets, the style is switched on again, so that all of it is styled. -/
namespace GatewayPing.Text

/-- The styles in use. -/
inductive Style where
  | green
  | boldRed
  deriving DecidableEq, Repr

/-- The escape sequence that switches a style on. -/
def Style.start : Style → List Char
  | .green => ['\x1b', '[', '3', '2', 'm']
  | .boldRed => ['\x1b', '[', '1', ';', '3', '1', 'm']

/-- Puts `mark` after every escape sequence that resets all styles. -/
def afterResets (mark : List Char) : List Char → List Char
  | '\x1b' :: '[' :: '0' :: 'm' :: rest =>
    ['\x1b', '[', '0', 'm'] ++ mark ++ afterResets mark rest
  | c :: rest => c :: afterResets mark rest
  | [] => []

/-- A text in a style. -/
def Style.paint (style : Style) (s : String) : String :=
  String.ofList
    (style.start ++ afterResets style.start s.toList ++ ['\x1b', '[', '0', 'm'])

/-- A text in a style if colours are wanted, and unchanged otherwise. -/
def painted (colour : Bool) (style : Style) (s : String) : String :=
  if colour then style.paint s else s

end GatewayPing.Text
