import GatewayPing.Body
import GatewayPing.Method
import GatewayPing.Service

/-! A client of the gateway that is bound to one wire encoding. It makes a request of a message and
headers, and a result of the response. A call fails before the request is made, because the
service is not ready or a header is malformed; or afterwards, with a status. -/
namespace GatewayPing

/-- Why no request was made. -/
inductive RequestError where
  | notReady (reason : String)
  | invalidKey (key : String)
  | invalidValue (key : String)
  deriving DecidableEq, Repr

/-- The wording of a failure. -/
def RequestError.message : RequestError → String
  | .notReady reason => s!"Internal error, the client was not ready: '{reason}'"
  | .invalidKey key =>
    s!"Invalid metadata (header) key '{key}': 'invalid gRPC metadata key name'"
  | .invalidValue key =>
    s!"Invalid metadata (header) value for key '{key}': 'failed to parse metadata value'"

/-- The status that is reported for a failure. -/
def RequestError.status (e : RequestError) : Status :=
  match e with
  | .notReady _ => ⟨.unavailable, e.message⟩
  | _ => ⟨.internal, e.message⟩

/-- Why a call failed: no request was made, or it came to nothing. -/
inductive CallError where
  | request (e : RequestError)
  | status (s : Status)
  deriving DecidableEq, Repr

namespace Metadata

/-- The characters of a header name. -/
def isNameChar (c : Char) : Bool :=
  c.isAlphanum ||
    ['!', '#', '$', '%', '&', '\'', '*', '+', '-', '.', '^', '_', '\x60', '|', '~'].contains c

/-- The ending of the names whose values are not text. -/
def binaryEnding : List Char := ['-', 'b', 'i', 'n']

/-- The greatest length of a header name. -/
def maxNameLength : Nat := 65535

/-- Whether a text names a header with a textual value. -/
def isKey (key : String) : Bool :=
  let name := (Headers.lower key).toList
  !name.isEmpty && name.length ≤ maxNameLength && name.all isNameChar &&
    !binaryEnding.isSuffixOf name

/-- Whether a character may stand in a header value. -/
def isValueChar (c : Char) : Bool := c == '\t' || (0x20 ≤ c.toNat && c.toNat != 0x7f)

/-- Whether a text is the value of a header. -/
def isValue (value : String) : Bool := value.toList.all isValueChar

/-- Checks headers in their order and collects them by name; a later value takes the place of an
earlier one. There are taken to be no more than 24576 names, for which there is room. -/
def collect (collected : Headers) : Headers → Except RequestError Headers
  | [] => .ok collected
  | (key, value) :: hs =>
    if !isKey key then .error (.invalidKey key)
    else if !isValue value then .error (.invalidValue key)
    else collect (collected.put (Headers.lower key) value) hs

/-- The names that the protocol keeps for itself. -/
def reserved : List String :=
  ["te", "content-type", "grpc-message", "grpc-message-type", "grpc-status"]

/-- The headers of a request: those of the protocol, and the collected ones that it does not keep
for itself. -/
def onWire (collected : Headers) : Headers :=
  [("te", "trailers"), ("content-type", "application/grpc")] ++
    collected.filter fun h => !reserved.contains h.1

end Metadata

/-- An answer, and the headers that came with it. -/
structure Answer (α : Type) where
  metadata : Headers
  body : α
  deriving Repr

/-- The result of a call that was answered by one message. -/
abbrev UnaryResult := Except CallError (Answer Pong)

/-- The result of a call that was answered by a stream. -/
abbrev StreamResult := Except CallError (Answer (List (Except Status StreamPong)))

/-- The response with all header names in lower case. -/
def Response.lowered (r : Response) : Response :=
  { r with
    headers := r.headers.lowered
    ending := match r.ending with
      | .trailers hs => .trailers hs.lowered
      | ending => ending }

/-- The header that names a compression. -/
def encodingHeader : String := "grpc-encoding"

/-- The failure of a body that is compressed. -/
def Status.compressed (encoding : String) : Status :=
  ⟨.unimplemented, s!"Content is compressed with `{encoding}` which isn't supported"⟩

/-- The failure that the headers of a message alone amount to, if its body is compressed. -/
def compression? (hs : Headers) : Option Status :=
  match hs.first? encodingHeader with
  | none => none
  | some encoding => if encoding = "identity" then none else some (.compressed encoding)

/-- What the headers of a response say: that the call failed, or how its body is to be read. A
status among the headers settles the outcome. -/
def Response.opening (r : Response) : Except Status Closing :=
  match compression? r.headers with
  | some s => .error s
  | none =>
    match Status.ofHeaders? r.headers with
    | none => .ok (.pending r.status)
    | some s => if s.code = .ok then .ok .settled else .error s

/-- The result of a response that should hold one message. The whole body has to be fine; of several
messages the first counts. -/
def Response.single (r : Response) (mode : Mode) : UnaryResult :=
  match r.opening with
  | .error s => .error (.status s)
  | .ok closing =>
    let received := r.read (Pong.schema.decode mode) closing
    match received.failure, received.messages with
    | some s, _ => .error (.status s)
    | none, [] => .error (.status ⟨.internal, "Missing response message."⟩)
    | none, m :: _ => .ok ⟨r.headers.merge received.trailers, m⟩

/-- The result of a response that holds a stream. -/
def Response.stream (r : Response) (mode : Mode) : StreamResult :=
  match r.opening with
  | .error s => .error (.status s)
  | .ok closing => .ok ⟨r.headers, (r.read (StreamPong.schema.decode mode) closing).items⟩

/-- A client: the service that it talks to, the encoding, and the longest time that it waits for a
response. -/
structure Client (σ : Type) where
  service : σ
  mode : Mode
  timeout : Option Nat := none
  deriving Repr

/-- The failure of a call that took too long. -/
def Status.tooLate : Status := ⟨.cancelled, "Timeout expired"⟩

namespace Client

variable {σ : Type}

/-- The request that carries a message. All of them are posted. -/
def request (path : String) (collected : Headers) (message : Bytes) : Request :=
  ⟨"POST", path, Metadata.onWire collected, Frame.wrap message⟩

/-- Makes a request, unless the service is not ready or a header is malformed. -/
def exchange [Service σ] (c : Client σ) (path : String) (headers : Headers) (message : Bytes) :
    Eventual (Except CallError Response) × Client σ :=
  match Service.fault c.service with
  | some reason => (.now (.error (.request (.notReady reason))), c)
  | none =>
    match Metadata.collect [] headers with
    | .error e => (.now (.error (.request e)), c)
    | .ok collected =>
      let (reply, service) := Service.call c.service (request path collected message)
      let reply := reply.within c.timeout (.error .tooLate)
      (reply.map fun r => (r.map Response.lowered).mapError .status, { c with service })

/-- Calls a method. -/
def unary [Service σ] (c : Client σ) (method : Method) (ping : Ping) (headers : Headers) :
    Eventual UnaryResult × Client σ :=
  let (reply, c') := c.exchange method.path headers (Ping.schema.encode c.mode ping)
  (reply.map fun r => r.bind (·.single c.mode), c')

/-- Calls the method that answers with a stream. -/
def stream [Service σ] (c : Client σ) (ping : StreamPing) (headers : Headers) :
    Eventual StreamResult × Client σ :=
  let (reply, c') := c.exchange streamingPath headers (StreamPing.schema.encode c.mode ping)
  (reply.map fun r => r.bind (·.stream c.mode), c')

end Client
end GatewayPing
