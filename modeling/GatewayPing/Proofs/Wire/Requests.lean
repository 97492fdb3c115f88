import GatewayPing.Proofs.Wire.Metadata
import GatewayPing.Proofs.Wire.Modes

/-! What reaches a service of the headers of a call. Either nothing does, because the service is not
ready or a header is malformed, and then the first malformed header is the one that is complained
about; or one request does, in which each name stands once, with the value that was given last.
Main statement: `Client.call_sends`. -/
namespace GatewayPing

namespace Headers

variable {hs : Headers} {name : String}

/-- The value of the last header of a name, whatever the letter case in which it is given. -/
def last? (hs : Headers) (name : String) : Option String :=
  (hs.reverse.find? fun h => lower h.1 == name).map (·.2)

end Headers

namespace Metadata

variable {hs collected all : Headers} {h : String × String} {e : RequestError}

/-- What is wrong with a header: its key, or else its value. -/
inductive Fault : String × String → RequestError → Prop where
  | key {key value : String} (bad : isKey key = false) : Fault (key, value) (.invalidKey key)
  | value {key value : String} (good : isKey key = true) (bad : isValue value = false) :
      Fault (key, value) (.invalidValue key)

/-- What is wrong with headers is what is wrong with the first of them that is not valid. -/
inductive FirstFault : Headers → RequestError → Prop where
  | of {before after : Headers} {h : String × String} {e : RequestError}
      (valid : ∀ g ∈ before, Valid g) (fault : Fault h e) : FirstFault (before ++ h :: after) e

/-- A request carries headers. -/
structure Carried (hs wire : Headers) : Prop where
  /-- A name stands once if it was given, with the value that was given last; otherwise it does not
  occur. -/
  last : ∀ name, name ∉ reserved →
    wire.filter (·.1 == name) = (hs.last? name).toList.map (name, ·)
  te : wire.filter (·.1 == "te") = [("te", "trailers")]
  contentType : wire.filter (·.1 == "content-type") = [("content-type", "application/grpc")]
  /-- The headers by which the protocol talks about calls do not occur. -/
  silent : ∀ name ∈ ["grpc-message", "grpc-message-type", "grpc-status"],
    wire.filter (·.1 == name) = []

end Metadata

namespace Client

open Metadata (Carried FirstFault Valid)

variable {σ α β : Type} [Service σ] {c : Client (Observed σ)} {path : String} {hs : Headers}

/-- What becomes of a call: its result, and the client afterwards. -/
inductive Sends (c : Client (Observed σ)) (path : String) (hs : Headers) :
    Eventual (Except CallError α) × Client (Observed σ) → Prop where
  /-- A service that is not ready receives nothing, whatever the headers are. -/
  | unready {reason : String} (fault : Service.fault c.service = some reason) :
      Sends c path hs (.now (.error (.request (.notReady reason))), c)
  /-- Nor does any service if the headers cannot be sent. -/
  | malformed {e : RequestError} (ready : Service.fault c.service = none)
      (first : FirstFault hs e) : Sends c path hs (.now (.error (.request e)), c)
  /-- Otherwise the service receives one request, which is posted to the path, and what comes of the
  call is up to its answer. -/
  | sent {r : Request} {wire : Headers} {result : Eventual (Except CallError α)}
      (ready : Service.fault c.service = none) (valid : ∀ h ∈ hs, Valid h)
      (posted : r.envelope = ("POST", path, wire)) (carried : Carried hs wire)
      (answered : ∀ delay e, result ≠ .after delay (.error (.request e))) :
      Sends c path hs (result, { c with service :=
        ⟨(Service.call c.service.inner r).2, c.service.requests ++ [r]⟩ })

/-- A client does not take back that it sent a request, whatever it makes of the response. -/
theorem Sends.bind {made : Eventual (Except CallError α) × Client (Observed σ)}
    (sends : Sends c path hs made) {f : α → Except CallError β}
    (responds : ∀ a e, f a ≠ .error (.request e)) :
    Sends c path hs (made.1.map (·.bind f), made.2) := by
  cases sends with
  | unready fault => exact .unready fault
  | malformed ready first => exact .malformed ready first
  | @sent r wire result ready valid posted carried answered =>
    refine .sent ready valid posted carried ?_
    intro delay e same
    cases result with
    | never => cases same
    | after due reply =>
      cases reply with
      | error other =>
        cases same
        exact answered _ e rfl
      | ok a =>
        injection same with _ failed
        exact responds a e failed

end Client
end GatewayPing
