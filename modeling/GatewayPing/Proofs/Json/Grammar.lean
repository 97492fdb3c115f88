import GatewayPing.Json.Scan
import GatewayPing.Proofs.Json.Words

/-! JSON as it is written. A tree is a value together with all that the grammar leaves open: the
blanks inside it, the way in which each character of a string is written, and the digits of a
number. Its text (`Tree.chars`) is the value as the grammar writes it; what it means depends on what
is asked for (`Tree.text?`, `Tree.nat?`, `Tree.int?`, `Tree.list?`). -/
namespace GatewayPing.Json

/-! Words. -/

/-- A character without meaning between the words of a text. -/
inductive Space where
  | space
  | tab
  | lineFeed
  | carriageReturn
  deriving DecidableEq, Repr

def Space.char : Space → Char
  | .space => ' '
  | .tab => '\t'
  | .lineFeed => '\n'
  | .carriageReturn => '\r'

/-- The text of blanks. -/
def blanks (spaces : List Space) : List Char := spaces.map Space.char

/-- A digit of a character's number. Letters are written large or small. -/
inductive HexDigit where
  | decimal (n : Fin 10)
  | small (n : Fin 6)
  | large (n : Fin 6)
  deriving DecidableEq, Repr

namespace HexDigit

def value : HexDigit → Nat
  | .decimal n => n
  | .small n => 10 + n
  | .large n => 10 + n

def char : HexDigit → Char
  | .decimal n => Char.ofNat ('0'.toNat + n)
  | .small n => Char.ofNat ('a'.toNat + n)
  | .large n => Char.ofNat ('A'.toNat + n)

end HexDigit

/-- A character that is written as a backslash and one more character. -/
inductive Short where
  | quote
  | backslash
  | slash
  | backspace
  | formFeed
  | lineFeed
  | carriageReturn
  | tab
  deriving DecidableEq, Repr

namespace Short

/-- The character after the backslash. -/
def letter : Short → Char
  | .quote => '"'
  | .backslash => '\\'
  | .slash => '/'
  | .backspace => 'b'
  | .formFeed => 'f'
  | .lineFeed => 'n'
  | .carriageReturn => 'r'
  | .tab => 't'

/-- The character that is meant. -/
def char : Short → Char
  | .quote => '"'
  | .backslash => '\\'
  | .slash => '/'
  | .backspace => '\x08'
  | .formFeed => '\x0c'
  | .lineFeed => '\n'
  | .carriageReturn => '\r'
  | .tab => '\t'

end Short

/-- A part of a string: a character that stands for itself, or an escape. The four digits of an
escape are the number of a character, or one half of a surrogate pair. -/
inductive Item where
  | plain (c : Char) (plain : Plain c)
  | short (s : Short)
  | code (a b c d : HexDigit)

namespace Item

def chars : Item → List Char
  | .plain c _ => [c]
  | .short s => ['\\', s.letter]
  | .code a b c d => ['\\', 'u', a.char, b.char, c.char, d.char]

/-- The number that four digits write. -/
def number (a b c d : HexDigit) : Nat :=
  a.value * 4096 + b.value * 256 + c.value * 16 + d.value

end Item

/-- The text of a string without its quotes. -/
def itemChars (items : List Item) : List Char := items.flatMap Item.chars

/-- The character that a surrogate pair stands for. -/
def pairChar (lead trail : Nat) : Char :=
  Char.ofNat ((lead - 0xD800) * 1024 + (trail - 0xDC00) + 0x10000)

/-- The characters that a string means. A string in which half of a surrogate pair stands alone
means none. -/
def meant? : List Item → Option (List Char)
  | [] => some []
  | .plain c _ :: items => (meant? items).map (c :: ·)
  | .short s :: items => (meant? items).map (s.char :: ·)
  | .code a b c d :: items =>
    let n := Item.number a b c d
    if isTrailing n then none
    else if isLeading n then
      match items with
      | .code a' b' c' d' :: items =>
        let trail := Item.number a' b' c' d'
        if isTrailing trail then (meant? items).map (pairChar n trail :: ·) else none
      | _ => none
    else (meant? items).map (Char.ofNat n :: ·)

/-- One or more decimal digits. -/
structure Digits where
  first : Char
  rest : List Char
  decimal : ∀ c ∈ first :: rest, c.isDigit = true

def Digits.chars (ds : Digits) : List Char := ds.first :: ds.rest

/-- The exponent of a number. -/
structure Power where
  large : Bool
  sign : Option Bool
  digits : Digits

/-- The text of a sign, if there is one. -/
def signChars : Option Bool → List Char
  | none => []
  | some true => ['-']
  | some false => ['+']

def Power.chars (p : Power) : List Char :=
  (if p.large then 'E' else 'e') :: (signChars p.sign ++ p.digits.chars)

/-- A number. No zero stands before other digits. -/
structure Written where
  negative : Bool
  whole : Digits
  tight : whole.first = '0' → whole.rest = []
  fraction : Option Digits
  power : Option Power

namespace Written

/-- The point and the digits after it, if there is a point. -/
def fractionChars (n : Written) : List Char :=
  match n.fraction with
  | none => []
  | some digits => '.' :: digits.chars

/-- The exponent, if there is one. -/
def powerChars (n : Written) : List Char :=
  match n.power with
  | none => []
  | some power => power.chars

/-- The text of a number without its sign. -/
def unsignedChars (n : Written) : List Char := n.whole.chars ++ (n.fractionChars ++ n.powerChars)

def chars (n : Written) : List Char :=
  if n.negative then '-' :: n.unsignedChars else n.unsignedChars

/-- The natural number that is written with nothing but digits. -/
def nat? (n : Written) : Option Nat :=
  if n.negative || n.fraction.isSome || n.power.isSome then none
  else some (Nat.ofDigitChars 10 n.whole.chars 0)

/-- The integer that is written with nothing but a sign and digits. There is no minus zero. -/
def int? (n : Written) : Option Int :=
  let size := Nat.ofDigitChars 10 n.whole.chars 0
  if n.fraction.isSome || n.power.isSome then none
  else if n.negative then if size = 0 then none else some (-size)
  else some size

end Written

/-! Trees. -/

mutual

/-- A value as it is written. -/
inductive Tree where
  | null
  | boolean (b : Bool)
  | number (n : Written)
  | string (items : List Item)
  | emptyList (inside : List Space)
  | list (elements : Elements)
  | emptyObject (inside : List Space)
  | object (members : Members)

/-- The elements of a list, of which there is at least one, with the blanks around each. -/
inductive Elements where
  | last (before : List Space) (value : Tree) (after : List Space)
  | more (before : List Space) (value : Tree) (after : List Space) (later : Elements)

/-- The members of an object, of which there is at least one, with the blanks around the name and
the value of each. -/
inductive Members where
  | last (before : List Space) (name : List Item) (colon : List Space) (inner : List Space)
      (value : Tree) (after : List Space)
  | more (before : List Space) (name : List Item) (colon : List Space) (inner : List Space)
      (value : Tree) (after : List Space) (later : Members)

end

/-- A number of one digit. -/
def oneDigit (negative : Bool) (c : Char) (decimal : c.isDigit = true) : Tree :=
  .number ⟨negative, ⟨c, [], by simpa using decimal⟩, fun _ => rfl, none, none⟩

/-- The text of a string. -/
def quoted (items : List Item) : List Char := '"' :: itemChars items ++ ['"']

mutual

/-- The text of a value. -/
def Tree.chars : Tree → List Char
  | .null => ['n', 'u', 'l', 'l']
  | .boolean true => ['t', 'r', 'u', 'e']
  | .boolean false => ['f', 'a', 'l', 's', 'e']
  | .number n => n.chars
  | .string items => quoted items
  | .emptyList inside => '[' :: blanks inside ++ [']']
  | .list elements => '[' :: elements.chars ++ [']']
  | .emptyObject inside => '\x7b' :: blanks inside ++ ['\x7d']
  | .object members => '\x7b' :: members.chars ++ ['\x7d']

def Elements.chars : Elements → List Char
  | .last before value after => blanks before ++ value.chars ++ blanks after
  | .more before value after later =>
    blanks before ++ value.chars ++ blanks after ++ ',' :: later.chars

def Members.chars : Members → List Char
  | .last before name colon inner value after =>
    blanks before ++ quoted name ++ blanks colon ++ ':' :: blanks inner ++ value.chars ++
      blanks after
  | .more before name colon inner value after later =>
    blanks before ++ quoted name ++ blanks colon ++ ':' :: blanks inner ++ value.chars ++
      blanks after ++ ',' :: later.chars

end

/-- The elements of a list in their order. -/
def Elements.values : Elements → List Tree
  | .last _ value _ => [value]
  | .more _ value _ later => value :: later.values

/-- The names and values of an object in their order. -/
def Members.entries : Members → List (List Item × Tree)
  | .last _ name _ _ value _ => [(name, value)]
  | .more _ name _ _ value _ later => (name, value) :: later.entries

namespace Tree

/-- The text that a value is, if it is a string. -/
def text? : Tree → Option String
  | .string items => (meant? items).map String.ofList
  | _ => none

/-- The natural number that a value is, if it is one within a limit. -/
def nat? (most : Nat) : Tree → Option Nat
  | .number n => n.nat?.filter (· ≤ most)
  | _ => none

/-- The integer that a value is, if it is one between two bounds. -/
def int? (low high : Int) : Tree → Option Int
  | .number n => n.int?.filter fun v => low ≤ v && v ≤ high
  | _ => none

/-- What a value is that may be absent. -/
def optional? {α : Type} (meaning? : Tree → Option α) : Tree → Option (Option α)
  | .null => some none
  | t => (meaning? t).map some

/-- The elements of a value, if it is a list. -/
def elements? : Tree → Option (List Tree)
  | .emptyList _ => some []
  | .list elements => some elements.values
  | _ => none

/-- What a list of values is. -/
def list? {α : Type} (meaning? : Tree → Option α) (t : Tree) : Option (List α) :=
  t.elements?.bind fun elements => elements.mapM meaning?

/-- What a list of two values is. -/
def pair? {α β : Type} (first? : Tree → Option α) (second? : Tree → Option β) (t : Tree) :
    Option (α × β) :=
  match t.elements? with
  | some [a, b] => (first? a).bind fun a => (second? b).bind fun b => some (a, b)
  | _ => none

end Tree
end GatewayPing.Json
