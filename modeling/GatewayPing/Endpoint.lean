import GatewayPing.Text.Blank

/-! Addresses of gateways. An address may name a scheme and has an authority (user, host and number
of the service there), a path and a query. Only their form is checked here; no name is resolved. -/
namespace GatewayPing

/-- Why a text is no address. -/
inductive AddressFault where
  | tooLong
  | empty
  | invalidCharacter
  | invalidAuthority
  | invalidFormat
  | schemeTooLong
  deriving DecidableEq, Repr

/-- The wording of a fault. -/
def AddressFault.text : AddressFault → String
  | .tooLong => "uri too long"
  | .empty => "empty string"
  | .invalidCharacter => "invalid uri character"
  | .invalidAuthority => "invalid authority"
  | .invalidFormat => "invalid format"
  | .schemeTooLong => "scheme too long"

/-- An address whose form is right. -/
inductive Endpoint where
  /-- A socket in the file system. -/
  | socket (path : List Char)
  /-- An address in a network. Without a scheme or without an authority nothing can be called. -/
  | network (scheme authority : Option (List Char))
  deriving DecidableEq, Repr

namespace Endpoint

/-- The largest length of an address in bytes. -/
def maxLength : Nat := 65534

/-- The largest length of a scheme. -/
def maxSchemeLength : Nat := 64

/-- The most colons in a row of numbers between brackets and after it. -/
def maxColons : Nat := 8

/-- Letters and digits of ASCII. -/
def isAlphanumeric (c : Char) : Bool := c.isAlphanum

/-- The characters of a scheme. -/
def isSchemeChar (c : Char) : Bool :=
  isAlphanumeric c || c == '+' || c == '.' || c == '~' || c == '-'

/-- The characters that end an authority. -/
def endsAuthority (c : Char) : Bool := c == '/' || c == '?' || c == '#'

/-- The characters of an authority, apart from those with a meaning of their own. -/
def isAuthorityChar (c : Char) : Bool :=
  isAlphanumeric c ||
    ['!', '$', '&', '\'', '(', ')', '*', '+', ',', '-', '.', ';', '=', '_', '~'].contains c

/-- The characters of a path. Those outside ASCII are let through, and U+007F is taken not to be. -/
def isPathChar (c : Char) : Bool :=
  let n := c.toNat
  n == 0x21 || n == 0x22 || (0x24 ≤ n && n ≤ 0x3B) || n == 0x3D || (0x40 ≤ n && n ≤ 0x5F) ||
    (0x61 ≤ n && n ≤ 0x7E) || 0x80 ≤ n

/-- The characters of a query. Those outside ASCII are let through, and U+007F is taken not to be. -/
def isQueryChar (c : Char) : Bool :=
  let n := c.toNat
  n == 0x21 || (0x24 ≤ n && n ≤ 0x3B) || n == 0x3D || (0x3F ≤ n && n ≤ 0x7E) || 0x80 ≤ n

/-- Takes a scheme off the front of a text, if there is one. A text of three bytes has none. -/
def takeScheme (s : List Char) : Except AddressFault (Option (List Char) × List Char) :=
  match s.span isSchemeChar with
  | (name, ':' :: '/' :: '/' :: rest) =>
    if name.isEmpty && rest.isEmpty then .ok (none, s)
    else if maxSchemeLength < name.length then .error .schemeTooLong
    else .ok (some name, rest)
  | _ => .ok (none, s)

/-- What was met so far in an authority. Colons and percent signs count from the last `@` or closing
bracket on. -/
structure Progress where
  colons : Nat := 0
  opened : Bool := false
  closed : Bool := false
  percent : Bool := false
  afterAt : Bool := false

/-- Takes one character of an authority. -/
def Progress.step (p : Progress) (c : Char) : Except AddressFault Progress :=
  if c == ':' then
    if maxColons ≤ p.colons then .error .invalidAuthority
    else .ok { p with colons := p.colons + 1, afterAt := false }
  else if c == '[' then
    if p.percent || p.opened then .error .invalidAuthority
    else .ok { p with opened := true, afterAt := false }
  else if c == ']' then
    if !p.opened || p.closed then .error .invalidAuthority
    else .ok { p with closed := true, colons := 0, percent := false, afterAt := false }
  else if c == '@' then .ok { p with colons := 0, percent := false, afterAt := true }
  else if c == '%' then .ok { p with percent := true, afterAt := false }
  else if isAuthorityChar c then .ok { p with afterAt := false }
  else .error .invalidCharacter

/-- Whether an authority may end here: its bracket is closed, at most one colon is left for the
number of the service, nothing is encoded in the host, and something follows the user. -/
def Progress.complete (p : Progress) : Bool :=
  p.opened == p.closed && p.colons ≤ 1 && !p.afterAt && !p.percent

/-- Checks the authority at the front of a text and parts the text after it. -/
def takeAuthority (s : List Char) : Except AddressFault (List Char × List Char) := do
  let (authority, rest) := s.span fun c => !endsAuthority c
  let progress ← authority.foldlM Progress.step {}
  if progress.complete then .ok (authority, rest) else .error .invalidAuthority

/-- Checks a query. What follows `#` is not looked at. -/
def checkQuery : List Char → Except AddressFault Unit
  | [] => .ok ()
  | c :: s =>
    if c == '#' then .ok ()
    else if isQueryChar c then checkQuery s
    else .error .invalidCharacter

/-- Checks a path and the query after it. What follows `#` is not looked at. -/
def checkPath : List Char → Except AddressFault Unit
  | [] => .ok ()
  | c :: s =>
    if c == '?' then checkQuery s
    else if c == '#' then .ok ()
    else if isPathChar c then checkPath s
    else .error .invalidCharacter

/-- Reads an address that does not begin with its path. -/
def readFull (s : List Char) : Except AddressFault Endpoint := do
  let (scheme, rest) ← takeScheme s
  match scheme with
  | none =>
    let (authority, rest) ← takeAuthority rest
    if rest.isEmpty then .ok (.network none (some authority)) else .error .invalidFormat
  | some _ =>
    if rest.isEmpty then .error .empty
    else
      let (authority, rest) ← takeAuthority rest
      if authority.isEmpty then .error .invalidFormat
      else
        checkPath rest
        .ok (.network scheme (some authority))

/-- Reads an address of one character. -/
def readSingle (c : Char) : Except AddressFault Endpoint :=
  if c == '/' || c == '*' then .ok (.network none none)
  else if endsAuthority c then .error .invalidCharacter
  else readFull [c]

/-- Reads an address. -/
def read (address : String) : Except AddressFault Endpoint :=
  match address.toList with
  | 'u' :: 'n' :: 'i' :: 'x' :: ':' :: path => .ok (.socket path)
  | s =>
    if maxLength < address.utf8ByteSize then .error .tooLong
    else
      match s with
      | [] => .error .empty
      | [c] => readSingle c
      | '/' :: _ => (checkPath s).map fun _ => .network none none
      | s => readFull s

end Endpoint

/-- An address that is no address. -/
structure BadAddress where
  address : String
  fault : AddressFault
  deriving DecidableEq, Repr

/-- The causes of a refusal, the outermost first. -/
def BadAddress.causes (e : BadAddress) : List String :=
  ["transport error", "invalid URI", e.fault.text]

/-- The wording of a refusal. -/
def BadAddress.message (e : BadAddress) : String :=
  s!"Invalid URL '{e.address}': transport error"

end GatewayPing
