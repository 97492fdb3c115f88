import GatewayPing.Method
import GatewayPing.Mode

/-! The command line. There is one command word, `send` or `interactive`; the options for the
address and the configuration file may stand before or after it, the others after it only. An
option takes its value from after `=` or from the next word. Such a value is checked when the
next option or input comes, or at the end, so that a fault further on may be reported first. -/
namespace GatewayPing

/-- What the program is asked to do. -/
inductive Command where
  /-- Send one input. -/
  | send (input : String) (mode : Mode) (method : Method)
  /-- Send each line that is read, in this mode where the line names none. -/
  | interactive (mode : Mode)
  deriving DecidableEq, Repr

/-- An accepted command line. -/
structure Arguments where
  url : Option String
  config : Option String
  command : Command
  deriving DecidableEq, Repr

/-- Why the program does not start, asked for or not. -/
inductive Refusal where
  | help
  | version
  /-- There are no arguments. -/
  | nothingGiven
  | missingCommand
  | missingInput
  | unknownArgument
  | unknownCommand
  /-- An option is given twice in one place. -/
  | repeated
  /-- A flag is given a value. -/
  | unwantedValue
  /-- An option has no value, or a wrong one. -/
  | invalidValue
  deriving DecidableEq, Repr

/-- The exit code of a refusal. Help and version are what was asked for. -/
def Refusal.exitCode : Refusal → UInt32
  | .help | .version => 0
  | _ => 2

namespace Arguments

/-- The places of an argument: before the command word, or after one. -/
inductive Scope where
  | before
  | send
  | interactive
  deriving DecidableEq, Repr

/-- The command word that opens a scope. -/
def Scope.ofWord? (s : String) : Option Scope :=
  if s = "send" then some .send else if s = "interactive" then some .interactive else none

/-- The options that take a value. -/
inductive Valued where
  | url
  | config
  | method
  deriving DecidableEq, Repr

/-- The option of a name, where it may be given. -/
def Valued.ofName? (scope : Scope) (name : String) : Option Valued :=
  if name = "url" then some .url
  else if name = "config" then some .config
  else if name = "method" && scope = .send then some .method
  else none

/-- The flags. -/
inductive Flag where
  | binary
  | help
  | version
  deriving DecidableEq, Repr

/-- The flag of a name, where it may be given. -/
def Flag.ofName? (scope : Scope) (name : String) : Option Flag :=
  if name = "help" then some .help
  else if name = "version" && scope = .before then some .version
  else if name = "binary" && scope ≠ .before then some .binary
  else none

/-- The flag of a letter, where it may be given. -/
def Flag.ofLetter? (scope : Scope) (c : Char) : Option Flag :=
  if c = 'h' then some .help
  else if c = 'V' && scope = .before then some .version
  else none

/-- An argument by its form. -/
inductive Word where
  /-- Two hyphens: all that follows is plain. -/
  | separator
  /-- An option with a name, and the value after its first `=`. -/
  | long (name : String) (value : Option String)
  /-- A group of one-letter options, of which the first decides. -/
  | short (letter : Char)
  /-- Anything else; a single hyphen is plain. -/
  | plain
  deriving DecidableEq, Repr

/-- Splits the name of an option from its value. -/
def splitValue (cs : List Char) : String × Option String :=
  match cs.span (· != '=') with
  | (name, _ :: value) => (String.ofList name, some (String.ofList value))
  | (name, []) => (String.ofList name, none)

/-- The form of an argument. -/
def Word.ofArgument (arg : String) : Word :=
  match arg.toList with
  | ['-', '-'] => .separator
  | '-' :: '-' :: cs => let (name, value) := splitValue cs; .long name value
  | '-' :: c :: _ => .short c
  | _ => .plain

/-- What has been given in one scope. -/
structure Given where
  url : Option String := none
  config : Option String := none
  method : Option Method := none
  binary : Bool := false
  input : Option String := none
  deriving DecidableEq, Repr

/-- Gives an option its value. -/
def Given.set (g : Given) (option : Valued) (value : String) : Except Refusal Given :=
  match option with
  | .url => if g.url.isSome then .error .repeated else .ok { g with url := some value }
  | .config =>
    if g.config.isSome then .error .repeated
    else if value.isEmpty then .error .invalidValue
    else .ok { g with config := some value }
  | .method =>
    if g.method.isSome then .error .repeated
    else
      match Method.ofName? value with
      | some m => .ok { g with method := some m }
      | none => .error .invalidValue

/-- An option that was met last, with the word that was taken for its value. -/
structure Pending where
  option : Valued
  value : Option String
  deriving DecidableEq, Repr

/-- The state of reading one scope. -/
structure State where
  given : Given := {}
  pending : Option Pending := none
  /-- Whether two hyphens were met. -/
  plainOnly : Bool := false
  deriving DecidableEq, Repr

/-- Checks the value of the option that was met last. -/
def State.settle (st : State) : Except Refusal State :=
  match st.pending with
  | none => .ok st
  | some ⟨_, none⟩ => .error .invalidValue
  | some ⟨option, some value⟩ =>
    (st.given.set option value).map fun given => { st with given, pending := none }

/-- Takes a flag. -/
def State.flag (st : State) (f : Flag) : Except Refusal State := do
  let st ← st.settle
  match f with
  | .help => .error .help
  | .version => .error .version
  | .binary =>
    if st.given.binary then .error .repeated
    else .ok { st with given := { st.given with binary := true } }

/-- Takes a named option. -/
def State.long (st : State) (scope : Scope) (name : String) (value : Option String) :
    Except Refusal State :=
  match Valued.ofName? scope name with
  | some option => do
    let st ← st.settle
    match value with
    | some value => do
      let given ← st.given.set option value
      .ok { st with given }
    | none => .ok { st with pending := some ⟨option, none⟩ }
  | none =>
    match Flag.ofName? scope name with
    | none => .error .unknownArgument
    | some f => if value.isSome then .error .unwantedValue else st.flag f

/-- Takes a group of one-letter options. -/
def State.short (st : State) (scope : Scope) (letter : Char) : Except Refusal State :=
  match Flag.ofLetter? scope letter with
  | some f => st.flag f
  | none => .error .unknownArgument

/-- The words that ask for a command or for help. -/
def isCommandWord (s : String) : Bool := (Scope.ofWord? s).isSome || s == "help"

/-- Takes a word that is no option and no value of one. Only `send` wants one, and one only. -/
def State.plain (st : State) (scope : Scope) (text : String) : Except Refusal State :=
  match scope with
  | .before =>
    if st.plainOnly && isCommandWord text then .error .unknownArgument
    else .error .unknownCommand
  | .interactive => .error .unknownArgument
  | .send =>
    if st.given.input.isSome then .error .unknownArgument
    else do
      let st ← st.settle
      .ok { st with given := { st.given with input := some text } }

/-- The answer to a question for help about commands. Commands have no commands of their own. -/
def helpOn : List String → Refusal
  | [] => .help
  | [name] => if isCommandWord name then .help else .unknownCommand
  | _ => .unknownCommand

/-- Reads the arguments of one scope, up to a command word if that may still come. -/
def readScope (scope : Scope) (st : State) :
    List String → Except Refusal (State × Option (Scope × List String))
  | [] => .ok (st, none)
  | arg :: args =>
    if st.plainOnly then do
      let st ← st.plain scope arg
      readScope scope st args
    else
      match Word.ofArgument arg with
      | .separator => readScope scope { st with plainOnly := true } args
      | .long name value => do
        let st ← st.long scope name value
        readScope scope st args
      | .short letter => do
        let st ← st.short scope letter
        readScope scope st args
      | .plain =>
        match st.pending with
        | some ⟨option, none⟩ =>
          readScope scope { st with pending := some ⟨option, some arg⟩ } args
        | _ =>
          if scope = .before && arg == "help" then .error (helpOn args)
          else
            match if scope = .before then Scope.ofWord? arg else none with
            | some command => .ok (st, some (command, args))
            | none => do
              let st ← st.plain scope arg
              readScope scope st args

/-- The mode that a flag asks for. -/
def modeOf (binary : Bool) : Mode := if binary then .binary else .text

/-- Reads what follows a command word. -/
def readCommand (scope : Scope) (args : List String) : Except Refusal (Given × Command) := do
  let (st, _) ← readScope scope {} args
  let st ← st.settle
  let given := st.given
  match scope with
  | .send =>
    match given.input with
    | none => .error .missingInput
    | some input => .ok (given, .send input (modeOf given.binary) (given.method.getD .aPing))
  | _ => .ok (given, .interactive (modeOf given.binary))

/-- Reads a command line, without the name of the program. An option after the command word wins
over the same one before it. -/
def read (args : List String) : Except Refusal Arguments := do
  let (st, command) ← readScope .before {} args
  match command with
  | none =>
    let st ← st.settle
    if st.given = {} then .error .nothingGiven else .error .missingCommand
  | some (scope, args) =>
    let (inner, command) ← readCommand scope args
    let outer ← st.settle
    .ok ⟨inner.url.or outer.given.url, inner.config.or outer.given.config, command⟩

end Arguments
end GatewayPing
