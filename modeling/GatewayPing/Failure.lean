import GatewayPing.Client
import GatewayPing.Text.Quoted

/-! How operations fail. Every failure ends its own operation only. -/
namespace GatewayPing

/-- What an input should have been. -/
inductive Expected where
  | timestamp
  | stream
  deriving DecidableEq, Repr

/-- The wording of what was expected. -/
def Expected.text : Expected → String
  | .timestamp => "a non-negative integer timestamp"
  | .stream => "'<count> <timestamp>' with a positive count"

/-- What the user is told about an input that is not what it should be. -/
def Expected.complaint : Expected → String
  | .timestamp => "Error: timestamp invalid format"
  | .stream => "Error: stream input invalid format"

/-- How a call fails. -/
inductive Failure where
  /-- No request was made. -/
  | unsent (e : RequestError)
  /-- The call was answered by a status. -/
  | rejected (s : Status)
  /-- The stream broke off with a status. -/
  | broken (s : Status)
  deriving DecidableEq, Repr

/-- The failure of a call. -/
def Failure.ofCallError : CallError → Failure
  | .request e => .unsent e
  | .status s => .rejected s

/-- The status that is reported for a failure. -/
def Failure.status : Failure → Status
  | .unsent e => e.status
  | .rejected s => s
  | .broken s => s

/-- How an operation fails. -/
inductive OperationError where
  | invalidInput (input : String) (expected : Expected)
  | failed (f : Failure)
  | alreadyStarted
  deriving DecidableEq, Repr

/-- A status as error messages show it. -/
def Status.shown (s : Status) : String :=
  s!"code={s.code.name} message={Text.quoted s.message}"

/-- The wording of an error. -/
def OperationError.message : OperationError → String
  | .invalidInput input expected => s!"Invalid input '{input}': expected {expected.text}"
  | .failed (.unsent e) => s!"gRPC client request error: '{e.message}'"
  | .failed (.rejected s) => s!"Call failed: {s.shown}"
  | .failed (.broken s) => s!"Stream failed: {s.shown}"
  | .alreadyStarted => "Stream session was already started"

end GatewayPing
