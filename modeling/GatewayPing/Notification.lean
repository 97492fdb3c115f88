import GatewayPing.Endpoint
import GatewayPing.Message
import GatewayPing.Status
import GatewayPing.Text.Paint

/-! What the user is told. Every outcome of a call is a notification: good news for each pong, bad
news for each failure. -/
namespace GatewayPing

/-- Good or bad news. -/
inductive Severity where
  | success
  | danger
  deriving DecidableEq, Repr

namespace Severity

/-- The name of a severity. -/
def name : Severity → String
  | .success => "success"
  | .danger => "danger"

/-- The style in which a severity is shown. -/
def style : Severity → Text.Style
  | .success => .green
  | .danger => .boldRed

end Severity

/-- A message for the user. -/
structure Notification where
  severity : Severity
  message : String
  deriving DecidableEq, Repr

namespace Notification

/-- Tells of an answer. -/
def answer (timestamp : Int64) (serviceName : String) : Notification :=
  ⟨.success, s!"Resp: {timestamp.toInt} - {serviceName}"⟩

/-- Tells of the answer to a single call. -/
def ofPong (p : Pong) : Notification := answer p.timestamp p.serviceName

/-- Tells of an element of a stream. -/
def ofStreamPong (p : StreamPong) : Notification := answer p.timestamp p.serviceName

/-- Tells of a failure. -/
def ofStatus (s : Status) : Notification :=
  ⟨.danger, s!"Error code: {s.code.number} \"{s.message}\""⟩

/-- The notification as it is printed. -/
def render (colour : Bool) (n : Notification) : String :=
  Text.painted colour n.severity.style n.message

end Notification

/-- A failure of the program itself as it is printed: a headline, and the cause in quotes below. -/
def failureText (colour : Bool) (headline : String) (cause : String) : String :=
  Text.painted colour .boldRed headline ++ s!":\n\n'{cause}'"

/-- An address that is no address as it is printed. Here the colon belongs to the headline. -/
def BadAddress.render (colour : Bool) (e : BadAddress) : String :=
  Text.painted colour .boldRed "Connection Error:" ++ s!"\n\n'{e.message}'"

end GatewayPing
