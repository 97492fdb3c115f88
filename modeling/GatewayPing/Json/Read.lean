import GatewayPing.Json.Number
import GatewayPing.Json.Skip

/-! Typed reading of JSON. A reader takes one value of its type off the front of the unread bytes.
Readers for integers, strings, optional values, lists and pairs are combined into readers for
records. A record is written as an object, with its members in any order among members of other
names, or as a list of its fields in their order; a field that is not written keeps its default. -/
namespace GatewayPing.Json

/-- A reader of values of one type. What it leaves unread is shorter than what it was given. -/
structure Reader (α : Type) where
  run : Bytes → Except Fault (α × Bytes)
  shorter : ∀ {s : Bytes} {a : α} {rest : Bytes}, run s = .ok (a, rest) → rest.length < s.length

namespace Reader

variable {α β : Type}

/-- Applies a function to what is read. -/
def map (f : α → β) (r : Reader α) : Reader β where
  run s :=
    match r.run s with
    | .error e => .error e
    | .ok (a, rest) => .ok (f a, rest)
  shorter := by
    intro s b rest done
    split at done
    · cases done
    · rename_i read
      cases done
      exact r.shorter read

end Reader

/-- The fault of a value of the wrong kind. A scalar is read to its end first, and has to be well
formed; a list or an object is refused before its bracket. -/
def mismatch (expected : String) : Bytes → Fault
  | [] => ⟨.endOfValue, 0⟩
  | b :: s =>
    let wrong (found : Found) (rest : Bytes) : Fault := ⟨.invalidType found expected, rest.length⟩
    let literal (letters : List Char) (found : Found) : Fault :=
      match takeLiteral letters s with
      | .error e => e
      | .ok rest => wrong found rest
    if b == byte 'n' then literal ['u', 'l', 'l'] .null
    else if b == byte 't' then literal ['r', 'u', 'e'] (.boolean true)
    else if b == byte 'f' then literal ['a', 'l', 's', 'e'] (.boolean false)
    else if b == byte '-' || isDigit b then
      match takeNumeral .endOfValue (b :: s) with
      | .error e => e
      | .ok (numeral, rest) =>
        match numeral.number rest.length with
        | .error e => e
        | .ok (.whole n) => wrong (.integer n) rest
        | .ok (.real f) => wrong (.real f) rest
    else if b == byte '"' then
      match takeChars [] s with
      | .error e => e
      | .ok (chars, rest) => wrong (.string (String.ofList chars)) rest
    else if b == byte '[' then wrong .list (b :: s)
    else if b == byte '\x7b' then wrong .object (b :: s)
    else ⟨.expectedValue, s.length⟩

/-- Reads an integer between two bounds. -/
def Reader.integer (low high : Int) (expected : String) : Reader Int where
  run s :=
    match skipBlank s with
    | [] => .error ⟨.endOfValue, 0⟩
    | b :: inner =>
      if b == byte '-' || isDigit b then
        match takeNumeral .endOfValue (b :: inner) with
        | .error e => .error e
        | .ok (numeral, rest) =>
          match numeral.number rest.length with
          | .error e => .error e
          | .ok (.whole n) =>
            if low ≤ n && n ≤ high then .ok (n, rest)
            else .error ⟨.invalidValue n expected, rest.length⟩
          | .ok (.real f) => .error ⟨.invalidType (.real f) expected, rest.length⟩
      else .error (mismatch expected (b :: inner))
  shorter := by
    intro s n rest done
    have bound := skipBlank_le s
    have numeral {t r m} (h : takeNumeral .endOfValue t = .ok (m, r)) := takeNumeral_lt h
    grind

/-- Reads a string. -/
def Reader.string : Reader String where
  run s :=
    match skipBlank s with
    | [] => .error ⟨.endOfValue, 0⟩
    | b :: inner =>
      if b == byte '"' then
        match takeChars [] inner with
        | .error e => .error e
        | .ok (chars, rest) => .ok (String.ofList chars, rest)
      else .error (mismatch "a string" (b :: inner))
  shorter := by
    intro s text rest done
    have bound := skipBlank_le s
    have chars {t r cs} (h : takeChars [] t = .ok (cs, r)) := takeChars_lt h
    grind

/-- Reads a value or, in its place, `null`. -/
def Reader.optional {α : Type} (r : Reader α) : Reader (Option α) where
  run s :=
    match skipBlank s with
    | [] => .error ⟨.endOfValue, 0⟩
    | b :: inner =>
      if b == byte 'n' then
        match takeLiteral ['u', 'l', 'l'] inner with
        | .error e => .error e
        | .ok rest => .ok (none, rest)
      else (r.map some).run (b :: inner)
  shorter := by
    intro s a rest done
    have bound := skipBlank_le s
    have literal {t r} (h : takeLiteral ['u', 'l', 'l'] t = .ok r) := takeLiteral_le h
    have inner {t a r'} (h : (r.map some).run t = .ok (a, r')) := (r.map some).shorter h
    grind

/-! Lists. -/

/-- What stands where an element may stand. -/
inductive NextElement where
  /-- The list was closed; the bytes after the bracket. -/
  | closed (rest : Bytes)
  /-- An element; the bytes from there on. -/
  | element (s : Bytes)

/-- Looks for the next element of a list, or its end. A comma stands before every element but the
first. -/
def nextElement (first : Bool) (s : Bytes) : Except Fault NextElement :=
  match skipBlank s with
  | [] => .error ⟨.endOfList, 0⟩
  | b :: rest =>
    if b == byte ']' then .ok (.closed rest)
    else if first then .ok (.element (b :: rest))
    else if b == byte ',' then
      match skipBlank rest with
      | [] => .error ⟨.endOfValue, 0⟩
      | c :: tail =>
        if c == byte ']' then .error ⟨.trailingComma, tail.length⟩ else .ok (.element (c :: tail))
    else .error ⟨.expectedListEnd, rest.length⟩

private theorem nextElement_closed {first : Bool} {s rest : Bytes}
    (found : nextElement first s = .ok (.closed rest)) : rest.length < s.length := by
  have blank {t tail b} (h : skipBlank t = b :: tail) := skipBlank_lt h
  unfold nextElement at found
  grind

private theorem nextElement_element {first : Bool} {s rest : Bytes}
    (found : nextElement first s = .ok (.element rest)) : rest.length ≤ s.length := by
  have blank {t tail b} (h : skipBlank t = b :: tail) := skipBlank_lt h
  unfold nextElement at found
  grind

/-- Closes a list of which no more elements are wanted. -/
def closeList (s : Bytes) : Except Fault Bytes :=
  match skipBlank s with
  | [] => .error ⟨.endOfList, 0⟩
  | b :: rest =>
    if b == byte ']' then .ok rest
    else if b == byte ',' then
      match skipBlank rest with
      | [] => .error ⟨.trailingCharacters, 0⟩
      | c :: tail =>
        if c == byte ']' then .error ⟨.trailingComma, tail.length⟩
        else .error ⟨.trailingCharacters, tail.length⟩
    else .error ⟨.trailingCharacters, rest.length⟩

private theorem closeList_lt {s rest : Bytes} (closed : closeList s = .ok rest) :
    rest.length < s.length := by
  have blank {t tail b} (h : skipBlank t = b :: tail) := skipBlank_lt h
  unfold closeList at closed
  grind

/-- Reads the elements of a list up to its end, after those already read, given latest first. -/
def readElements {α : Type} (r : Reader α) (read : List α) (s : Bytes) :
    Except Fault (List α × Bytes) :=
  match _ : nextElement read.isEmpty s with
  | .error e => .error e
  | .ok (.closed rest) => .ok (read.reverse, rest)
  | .ok (.element inner) =>
    match _ : r.run inner with
    | .error e => .error e
    | .ok (a, rest) => readElements r (a :: read) rest
termination_by s.length
decreasing_by
  exact Nat.lt_of_lt_of_le (r.shorter (by assumption)) (nextElement_element (by assumption))

private theorem readElements_lt {α : Type} {r : Reader α} {read all : List α} {s rest : Bytes}
    (done : readElements r read s = .ok (all, rest)) : rest.length < s.length := by
  fun_induction readElements r read s with
  | case1 => cases done
  | case2 read s tail found => cases done; exact nextElement_closed found
  | case3 => cases done
  | case4 read s inner found a tail value ih =>
    exact Nat.lt_of_lt_of_le (Nat.lt_trans (ih done) (r.shorter value)) (nextElement_element found)

/-- Reads a list. -/
def Reader.list {α : Type} (r : Reader α) : Reader (List α) where
  run s :=
    match skipBlank s with
    | [] => .error ⟨.endOfValue, 0⟩
    | b :: inner =>
      if b == byte '[' then readElements r [] inner
      else .error (mismatch "a sequence" (b :: inner))
  shorter := by
    intro s all rest done
    have bound := skipBlank_le s
    have elements {t all r'} (h : readElements r [] t = .ok (all, r')) := readElements_lt h
    grind

/-- The kind of value that a pair is written as. -/
def pairText : String := "a tuple of size 2"

/-- Reads the part of a pair that stands after `before` others. -/
def takePart {α : Type} (r : Reader α) (before : Nat) (s : Bytes) : Except Fault (α × Bytes) :=
  match nextElement (before == 0) s with
  | .error e => .error e
  | .ok (.closed rest) => .error ⟨.invalidLength before pairText, rest.length⟩
  | .ok (.element inner) => r.run inner

private theorem takePart_lt {α : Type} {r : Reader α} {before : Nat} {s rest : Bytes} {a : α}
    (taken : takePart r before s = .ok (a, rest)) : rest.length < s.length := by
  have element {f t u} (h : nextElement f t = .ok (.element u)) := nextElement_element h
  have value {t a u} (h : r.run t = .ok (a, u)) := r.shorter h
  unfold takePart at taken
  grind

/-- Reads the two parts of a pair and the end of the list that they stand in. -/
def takeParts {α β : Type} (first : Reader α) (second : Reader β) (s : Bytes) :
    Except Fault ((α × β) × Bytes) :=
  match takePart first 0 s with
  | .error e => .error e
  | .ok (a, s) =>
    match takePart second 1 s with
    | .error e => .error e
    | .ok (b, s) =>
      match closeList s with
      | .error e => .error e
      | .ok rest => .ok ((a, b), rest)

private theorem takeParts_lt {α β : Type} {first : Reader α} {second : Reader β} {s rest : Bytes}
    {p : α × β} (taken : takeParts first second s = .ok (p, rest)) : rest.length < s.length := by
  have left {t a u} (h : takePart first 0 t = .ok (a, u)) := takePart_lt h
  have right {t b u} (h : takePart second 1 t = .ok (b, u)) := takePart_lt h
  have close {t u} (h : closeList t = .ok u) := closeList_lt h
  unfold takeParts at taken
  grind

/-- Reads a list of exactly two elements. -/
def Reader.pair {α β : Type} (first : Reader α) (second : Reader β) : Reader (α × β) where
  run s :=
    match skipBlank s with
    | [] => .error ⟨.endOfValue, 0⟩
    | b :: inner =>
      if b == byte '[' then takeParts first second inner
      else .error (mismatch pairText (b :: inner))
  shorter := by
    intro s p rest done
    have bound := skipBlank_le s
    have parts {t p u} (h : takeParts first second t = .ok (p, u)) := takeParts_lt h
    grind

/-! Records. -/

/-- What stands where a member of an object may stand. -/
inductive NextMember where
  /-- The object was closed; the bytes after the bracket. -/
  | closed (rest : Bytes)
  /-- A member of this name; the bytes after the name. -/
  | member (name : List Char) (rest : Bytes)

/-- Takes the name of a member. -/
def takeName (s : Bytes) : Except Fault NextMember :=
  match takeChars [] s with
  | .error e => .error e
  | .ok (name, rest) => .ok (.member name rest)

/-- Looks for the next member of an object, or its end. A comma stands before every member but the
first. -/
def nextMember (first : Bool) (s : Bytes) : Except Fault NextMember :=
  match skipBlank s with
  | [] => .error ⟨.endOfObject, 0⟩
  | b :: rest =>
    if b == byte '\x7d' then .ok (.closed rest)
    else if first then
      if b == byte '"' then takeName rest else .error ⟨.keyNotString, rest.length⟩
    else if b == byte ',' then
      match skipBlank rest with
      | [] => .error ⟨.endOfValue, 0⟩
      | c :: tail =>
        if c == byte '"' then takeName tail
        else if c == byte '\x7d' then .error ⟨.trailingComma, tail.length⟩
        else .error ⟨.keyNotString, tail.length⟩
    else .error ⟨.expectedObjectEnd, rest.length⟩

private theorem takeName_lt {s rest : Bytes} {name : List Char}
    (taken : takeName s = .ok (.member name rest)) : rest.length < s.length := by
  have chars {t r cs} (h : takeChars [] t = .ok (cs, r)) := takeChars_lt h
  unfold takeName at taken
  grind

private theorem takeName_ne_closed {s rest : Bytes} : takeName s ≠ .ok (.closed rest) := by
  unfold takeName
  grind

private theorem nextMember_closed {first : Bool} {s rest : Bytes}
    (found : nextMember first s = .ok (.closed rest)) : rest.length < s.length := by
  have blank {t tail b} (h : skipBlank t = b :: tail) := skipBlank_lt h
  have name {t r} := @takeName_ne_closed t r
  unfold nextMember at found
  grind

private theorem nextMember_member {first : Bool} {s rest : Bytes} {name : List Char}
    (found : nextMember first s = .ok (.member name rest)) : rest.length < s.length := by
  have blank {t tail b} (h : skipBlank t = b :: tail) := skipBlank_lt h
  have taken {t r cs} (h : takeName t = .ok (.member cs r)) := takeName_lt h
  unfold nextMember at found
  grind

/-- A field of a record: its name, and a reader that tells how a value changes the record. -/
structure Field (σ : Type) where
  name : String
  update : Reader (σ → σ)

/-- The field with a name whose value is put into the record by `set`. -/
def Field.of {σ α : Type} (name : String) (value : Reader α) (set : α → σ → σ) : Field σ :=
  ⟨name, value.map set⟩

/-- The fault of a second member of one name. It is placed after the closing bracket when that
follows, and otherwise before whatever follows. -/
def repeated (name : String) (s : Bytes) : Fault :=
  match skipBlank s with
  | [] => ⟨.duplicateField name, 0⟩
  | b :: rest =>
    if b == byte '\x7d' then ⟨.duplicateField name, rest.length⟩
    else ⟨.duplicateField name, rest.length + 1⟩

/-- Reads the members of an object up to its end. `seen` holds the names of the fields that were
read already; `first` tells whether no member was read yet. -/
def readMembers {σ : Type} (fields : List (Field σ)) (first : Bool) (seen : List String)
    (value : σ) (s : Bytes) : Except Fault (σ × Bytes) :=
  match _ : nextMember first s with
  | .error e => .error e
  | .ok (.closed rest) => .ok (value, rest)
  | .ok (.member name rest) =>
    match fields.find? (·.name.toList == name) with
    | some field =>
      if seen.contains field.name then .error (repeated field.name rest)
      else
        match _ : takeColon rest with
        | .error e => .error e
        | .ok inner =>
          match _ : field.update.run inner with
          | .error e => .error e
          | .ok (change, rest) =>
            readMembers fields false (field.name :: seen) (change value) rest
    | none =>
      match _ : takeColon rest with
      | .error e => .error e
      | .ok inner =>
        match _ : skipValue inner with
        | .error e => .error e
        | .ok rest => readMembers fields false seen value rest
termination_by s.length
decreasing_by
  · exact Nat.lt_trans (field.update.shorter (by assumption))
      (Nat.lt_trans (takeColon_lt (by assumption)) (nextMember_member (by assumption)))
  · exact Nat.lt_trans (skipValue_lt (by assumption))
      (Nat.lt_trans (takeColon_lt (by assumption)) (nextMember_member (by assumption)))

private theorem readMembers_lt {σ : Type} {fields : List (Field σ)} {first : Bool}
    {seen : List String} {value result : σ} {s rest : Bytes}
    (done : readMembers fields first seen value s = .ok (result, rest)) :
    rest.length < s.length := by
  fun_induction readMembers fields first seen value s with
  | case1 => cases done
  | case2 first seen value s tail found => cases done; exact nextMember_closed found
  | case3 => cases done
  | case4 => cases done
  | case5 => cases done
  | case6 first seen value s name after found field _ _ inner colon change tail read ih =>
    exact Nat.lt_trans (ih done) (Nat.lt_trans (field.update.shorter read)
      (Nat.lt_trans (takeColon_lt colon) (nextMember_member found)))
  | case7 => cases done
  | case8 => cases done
  | case9 first seen value s name after found _ inner colon tail skipped ih =>
    exact Nat.lt_trans (ih done) (Nat.lt_trans (skipValue_lt skipped)
      (Nat.lt_trans (takeColon_lt colon) (nextMember_member found)))

/-- Reads the fields of a record in their order, up to the end of the list that they are written
as. The list may end early. -/
def readInOrder {σ : Type} : List (Field σ) → Bool → σ → Bytes → Except Fault (σ × Bytes)
  | [], _, value, s =>
    match closeList s with
    | .error e => .error e
    | .ok rest => .ok (value, rest)
  | field :: fields, first, value, s =>
    match nextElement first s with
    | .error e => .error e
    | .ok (.closed rest) => .ok (value, rest)
    | .ok (.element s) =>
      match field.update.run s with
      | .error e => .error e
      | .ok (change, rest) => readInOrder fields false (change value) rest

private theorem readInOrder_lt {σ : Type} {fields : List (Field σ)} {first : Bool}
    {value result : σ}
    {s rest : Bytes} (done : readInOrder fields first value s = .ok (result, rest)) :
    rest.length < s.length := by
  fun_induction readInOrder fields first value s with
  | case1 => cases done
  | case2 first value s tail closed => cases done; exact closeList_lt closed
  | case3 => cases done
  | case4 field fields first value s tail found => cases done; exact nextElement_closed found
  | case5 => cases done
  | case6 field fields first value s inner found change tail read ih =>
    exact Nat.lt_trans (ih done)
      (Nat.lt_of_lt_of_le (field.update.shorter read) (nextElement_element found))

/-- Reads a record of the given name, starting from its default. -/
def Reader.record {σ : Type} (name : String) (fields : List (Field σ)) (default : σ) :
    Reader σ where
  run s :=
    match skipBlank s with
    | [] => .error ⟨.endOfValue, 0⟩
    | b :: inner =>
      if b == byte '[' then readInOrder fields true default inner
      else if b == byte '\x7b' then readMembers fields true [] default inner
      else .error (mismatch s!"struct {name}" (b :: inner))
  shorter := by
    intro s value rest done
    have bound := skipBlank_le s
    have members {t v r} (h : readMembers fields true [] default t = .ok (v, r)) :=
      readMembers_lt h
    have order {t v r} (h : readInOrder fields true default t = .ok (v, r)) := readInOrder_lt h
    grind

/-- Reads a text that holds one value and nothing else but blanks. -/
def Reader.read {α : Type} (r : Reader α) (text : Bytes) : Except Error α :=
  match r.run text with
  | .error fault => .error (fault.locate text)
  | .ok (a, rest) =>
    match skipBlank rest with
    | [] => .ok a
    | _ :: tail => .error (Fault.locate text ⟨.trailingCharacters, tail.length⟩)

end GatewayPing.Json
