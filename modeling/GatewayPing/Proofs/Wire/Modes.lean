import GatewayPing.Gateway
import GatewayPing.Proofs.Message.Size
import GatewayPing.Proofs.Wire.Framing
import GatewayPing.Proofs.Wire.Metadata
import GatewayPing.Transport

/-! The encoding does not affect what is said. Two clients, one for each encoding, talk to two
gateways that speak these encodings (`Client.Twins`). Whatever call both make, they get the same
answer, and the gateways receive the same request apart from its body. Main statement:
`Client.modes_alike`. -/
namespace GatewayPing

/-! Responses. -/

/-- A response never says that there was no request. -/
theorem Response.single_ne_request (r : Response) (mode : Mode) (e : RequestError) :
    r.single mode ≠ .error (.request e) := by
  unfold single
  split
  · nofun
  · dsimp only
    split <;> nofun

theorem Response.stream_ne_request (r : Response) (mode : Mode) (e : RequestError) :
    r.stream mode ≠ .error (.request e) := by
  unfold stream
  split <;> nofun

/-- Two responses that say the same, each in its encoding: nothing but their bodies differs, and the
bodies hold the same messages. -/
structure Response.Twins {α : Type} (schema : Schema α) (text binary : Response) : Prop where
  status : text.status = binary.status
  headers : text.headers = binary.headers
  ending : text.ending = binary.ending
  messages : ∃ messages,
    text.Carries schema .text messages ∧ binary.Carries schema .binary messages

namespace Response.Twins

variable {α : Type} {schema : Schema α} {text binary : Response}

private theorem lowered (twins : Twins schema text binary) :
    Twins schema text.lowered binary.lowered := by
  obtain ⟨messages, inText, inBinary⟩ := twins.messages
  refine ⟨twins.status, ?_, ?_, messages, ⟨inText.frames, inText.short⟩,
    ⟨inBinary.frames, inBinary.short⟩⟩
  · simp only [Response.lowered, twins.headers]
  · simp only [Response.lowered, twins.ending]

private theorem opening (twins : Twins schema text binary) : text.opening = binary.opening := by
  simp only [Response.opening, twins.headers, twins.status]

/-- The same is read of both. -/
theorem read (lawful : schema.Lawful) (twins : Twins schema text binary) (closing : Closing) :
    text.read (schema.decode .text) closing = binary.read (schema.decode .binary) closing := by
  obtain ⟨messages, inText, inBinary⟩ := twins.messages
  rw [inText.read lawful, inBinary.read lawful, twins.ending]

private theorem single (twins : Twins Pong.schema text binary) :
    text.single .text = binary.single .binary := by
  simp only [Response.single, twins.opening, twins.headers, twins.read Pong.schema_lawful]

private theorem stream (twins : Twins StreamPong.schema text binary) :
    text.stream .text = binary.stream .binary := by
  simp only [Response.stream, twins.opening, twins.headers, twins.read StreamPong.schema_lawful]

end Response.Twins

/-! Gateways. -/

namespace Gateway

variable {α : Type} {schema : Schema α} {mode : Mode}

/-- A refusal says nothing in any encoding. -/
theorem refusal_twins (schema : Schema α) (s : Status) :
    Response.Twins schema (refusal s) (refusal s) :=
  ⟨rfl, rfl, rfl, [], ⟨rfl, by simp⟩, ⟨rfl, by simp⟩⟩

theorem delivery_carries {metadata : Headers} {messages : List α} {s : Status}
    (short : ∀ m ∈ messages, (schema.encode mode m).length ≤ Frame.maxLength) :
    (delivery metadata (messages.map (schema.encode mode)) s).Carries schema mode messages := by
  refine ⟨?_, short⟩
  simp only [delivery, List.map_map, List.flatMap_def]
  rfl

private theorem delivery_twins {metadata : Headers} {messages : List α} {s : Status}
    (short : ∀ m ∈ messages, ∀ mode, (schema.encode mode m).length ≤ Frame.maxLength) :
    Response.Twins schema (delivery metadata (messages.map (schema.encode .text)) s)
      (delivery metadata (messages.map (schema.encode .binary)) s) :=
  ⟨rfl, rfl, rfl, messages, delivery_carries fun m member => short m member .text,
    delivery_carries fun m member => short m member .binary⟩

/-- What a gateway makes of a request in its encoding: only the headers can stand against the
message. -/
theorem received_request (lawful : schema.Lawful) {m : α}
    (short : (schema.encode mode m).length ≤ Frame.maxLength) (verb path : String)
    (headers : Headers) :
    received schema mode ⟨verb, path, headers, Frame.wrap (schema.encode mode m)⟩ =
      match compression? headers with
      | some s => .error s
      | none => .ok m := by
  have carries : Response.Carries schema mode
      ⟨Response.fine, [], [Frame.wrap (schema.encode mode m)], .bare⟩ [m] :=
    ⟨by simp, by simpa using short⟩
  have read : Response.read ⟨Response.fine, [], [Frame.wrap (schema.encode mode m)], .bare⟩
      (schema.decode mode) .settled = ⟨[m], none, []⟩ := carries.read lawful .settled
  unfold received
  cases compression? headers with
  | some s => rfl
  | none => simp only [read]

private theorem echo_twins {name : String} (named : name.length ≤ 100) (ping : Ping)
    (verb path : String) (headers : Headers) : Response.Twins Pong.schema
      ((⟨.text⟩ : Gateway).echo name
        ⟨verb, path, headers, Frame.wrap (Ping.schema.encode .text ping)⟩)
      ((⟨.binary⟩ : Gateway).echo name
        ⟨verb, path, headers, Frame.wrap (Ping.schema.encode .binary ping)⟩) := by
  unfold echo
  rw [received_request Ping.schema_lawful (ping.short .text),
    received_request Ping.schema_lawful (ping.short .binary)]
  cases compression? headers with
  | some s => exact refusal_twins Pong.schema s
  | none =>
    have short : ∀ m ∈ [(⟨ping.timestamp, name⟩ : Pong)], ∀ mode,
        (Pong.schema.encode mode m).length ≤ Frame.maxLength := by
      intro m member mode
      obtain rfl := List.mem_singleton.mp member
      exact Pong.short named mode
    exact delivery_twins short

/-- The names in a stream are short. -/
theorem pong_named (timestamp : Int64) :
    ∀ index < mostPongs, (pong timestamp index).serviceName.length ≤ 100 := by
  have names : ∀ index < mostPongs, s!"ServiceExtra: streaming ping => {index}".length ≤ 100 := by
    decide
  simpa only [pong] using names

private theorem stream_twins (ping : StreamPing) (verb path : String) (headers : Headers) :
    Response.Twins StreamPong.schema
      ((⟨.text⟩ : Gateway).stream
        ⟨verb, path, headers, Frame.wrap (StreamPing.schema.encode .text ping)⟩)
      ((⟨.binary⟩ : Gateway).stream
        ⟨verb, path, headers, Frame.wrap (StreamPing.schema.encode .binary ping)⟩) := by
  unfold stream
  rw [received_request StreamPing.schema_lawful (ping.short .text),
    received_request StreamPing.schema_lawful (ping.short .binary)]
  cases compression? headers with
  | some s => exact refusal_twins StreamPong.schema s
  | none =>
    simp only
    split
    · exact refusal_twins StreamPong.schema _
    · refine delivery_twins fun m member mode => ?_
      obtain ⟨index, inside, rfl⟩ := List.mem_map.mp member
      have below := List.mem_range.mp inside
      exact StreamPong.short (pong_named _ index (by omega)) mode

/-- Every method is answered by an echo. -/
theorem respond_method (method : Method) :
    ∃ name : String, name.length ≤ 100 ∧
      ∀ (g : Gateway) (verb : String) (headers : Headers) (body : Bytes),
        g.respond ⟨verb, method.path, headers, body⟩ =
          g.echo name ⟨verb, method.path, headers, body⟩ := by
  cases method with
  | aPing => exact ⟨"ServiceA: ping", by decide, fun _ _ _ _ => rfl⟩
  | aPost => exact ⟨"ServiceA: post", by decide, fun _ _ _ _ => rfl⟩
  | extraPing => exact ⟨"ServiceExtra: ping", by decide, fun _ _ _ _ => rfl⟩
  | extraPost => exact ⟨"ServiceExtra: post", by decide, fun _ _ _ _ => rfl⟩

theorem respond_stream (g : Gateway) (verb : String) (headers : Headers) (body : Bytes) :
    g.respond ⟨verb, streamingPath, headers, body⟩ =
      g.stream ⟨verb, streamingPath, headers, body⟩ := rfl

end Gateway

/-! Clients. -/

/-- A request without its body. -/
def Request.envelope (r : Request) : String × String × Headers := (r.verb, r.path, r.headers)

namespace Client

/-- A client that talks to a gateway in the encoding of both. -/
def meeting (mode : Mode) (timeout : Option Nat) : Client (Observed Gateway) :=
  ⟨⟨⟨mode⟩, []⟩, mode, timeout⟩

/-- A client after a call. -/
def made {σ : Type} [Service σ] (c : Client σ) : Call → Client σ
  | .unary method ping headers => (c.unary method ping headers).2
  | .stream ping headers => (c.stream ping headers).2

/-- Two clients, one for each encoding, whose gateways have received the same requests apart from
their bodies. -/
structure Twins (c c' : Client (Observed Gateway)) : Prop where
  text : c.mode = .text ∧ c.service.inner = ⟨.text⟩
  binary : c'.mode = .binary ∧ c'.service.inner = ⟨.binary⟩
  timeout : c.timeout = c'.timeout
  requests : c.service.requests.map Request.envelope = c'.service.requests.map Request.envelope

/-- A call by which one request reached the gateway, and to which there is an answer: `called` is what
came of it. -/
structure Reaches {α : Type} (c : Client (Observed Gateway)) (path : String) (wire : Headers)
    (called : Eventual (Except CallError α) × Client (Observed Gateway)) : Prop where
  request : ∃ r : Request, called.2.service.requests = c.service.requests ++ [r] ∧
    r.envelope = ("POST", path, wire)
  answer : ∃ reply, called.1 = .now reply ∧ ∀ e, reply ≠ .error (.request e)

/-- The same call of two clients: it is answered alike, and afterwards their gateways have received
the same requests apart from their bodies. -/
structure Alike {α : Type} (c c' : Client (Observed Gateway)) (path : String) (headers : Headers)
    (text binary : Eventual (Except CallError α) × Client (Observed Gateway)) : Prop where
  answer : text.1 = binary.1
  requests : text.2.service.requests.map Request.envelope =
    binary.2.service.requests.map Request.envelope
  /-- Headers that can be sent are sent, the same by both clients. -/
  sent : (∀ h ∈ headers, Metadata.Valid h) →
    ∃ wire, c.Reaches path wire text ∧ c'.Reaches path wire binary

variable {c c' : Client (Observed Gateway)} {headers : Headers}

private theorem meeting_twins (timeout : Option Nat) :
    Twins (meeting .text timeout) (meeting .binary timeout) := ⟨⟨rfl, rfl⟩, ⟨rfl, rfl⟩, rfl, rfl⟩

/-- A gateway answers at once, so that a client that makes a request never gives up. -/
theorem exchange_gateway (c : Client (Observed Gateway)) (path : String) (message : Bytes)
    {collected : Headers} (valid : Metadata.collect [] headers = .ok collected) :
    c.exchange path headers message =
      (.now (.ok (c.service.inner.respond (request path collected message)).lowered),
        { c with service :=
          ⟨c.service.inner, c.service.requests ++ [request path collected message]⟩ }) := by
  have atOnce (reply : Except Status Response) :
      (Eventual.now reply).within c.timeout (.error .tooLate) = .now reply := by
    cases c.timeout with
    | none => rfl
    | some limit => simp [Eventual.now, Eventual.within]
  simp only [exchange, Service.fault, Service.call, valid, atOnce]
  rfl

/-- Headers that can be sent reach the gateway, by any client and with any message. -/
theorem exchange_reaches (path : String) (valid : ∀ h ∈ headers, Metadata.Valid h) :
    ∃ wire, ∀ (c : Client (Observed Gateway)) (message : Bytes) {α : Type}
      (result : Response → Except CallError α), (∀ r e, result r ≠ .error (.request e)) →
      c.Reaches path wire ((c.exchange path headers message).1.map (·.bind result),
        (c.exchange path headers message).2) := by
  obtain ⟨all, collected, -⟩ := Metadata.collect_ok [] valid
  refine ⟨Metadata.onWire all, fun c message _ result responds => ?_⟩
  rw [exchange_gateway c path message collected]
  exact ⟨⟨_, rfl, rfl⟩, _, rfl, responds _⟩

/-- A malformed header is found before the gateway is asked. -/
theorem exchange_malformed (c : Client (Observed Gateway)) (path : String) (message : Bytes)
    {e : RequestError} (malformed : Metadata.collect [] headers = .error e) :
    c.exchange path headers message = (.now (.error (.request e)), c) := by
  simp only [exchange, Service.fault, malformed]

namespace Twins

/-- The clients stay twins when both make a request that their gateways answer alike, and they come
to the same result if they make the same of responses that say the same. -/
theorem exchange (twins : Twins c c') {α β : Type} (schema : Schema α) (path : String)
    (headers : Headers) {message message' : Bytes} {result result' : Response → Except CallError β}
    (answered : ∀ collected, Response.Twins schema
      ((⟨.text⟩ : Gateway).respond (request path collected message))
      ((⟨.binary⟩ : Gateway).respond (request path collected message')))
    (understood : ∀ r r', Response.Twins schema r r' → result r = result' r') :
    Twins (c.exchange path headers message).2 (c'.exchange path headers message').2 ∧
      (c.exchange path headers message).1.map (·.bind result) =
        (c'.exchange path headers message').1.map (·.bind result') := by
  cases collection : Metadata.collect [] headers with
  | error e =>
    rw [exchange_malformed c path message collection,
      exchange_malformed c' path message' collection]
    exact ⟨twins, rfl⟩
  | ok collected =>
    rw [exchange_gateway c path message collection, exchange_gateway c' path message' collection,
      twins.text.2, twins.binary.2]
    refine ⟨⟨⟨twins.text.1, rfl⟩, ⟨twins.binary.1, rfl⟩, twins.timeout, ?_⟩, ?_⟩
    · simp only [List.map_append, twins.requests, List.map_cons, List.map_nil]
      rfl
    · exact congrArg Eventual.now (understood _ _ (answered collected).lowered)

/-- The clients stay twins, whichever method they call, and the answers are the same. -/
theorem unary (twins : Twins c c') (method : Method) (ping : Ping) (headers : Headers) :
    Twins (c.unary method ping headers).2 (c'.unary method ping headers).2 ∧
      (c.unary method ping headers).1 = (c'.unary method ping headers).1 := by
  obtain ⟨name, named, echoes⟩ := Gateway.respond_method method
  simp only [Client.unary, twins.text.1, twins.binary.1]
  refine twins.exchange Pong.schema method.path headers (fun collected => ?_) fun _ _ same =>
    same.single
  simp only [request, echoes]
  exact Gateway.echo_twins named ping _ method.path (Metadata.onWire collected)

/-- The clients stay twins when they ask for a stream, and the answers are the same. -/
theorem stream (twins : Twins c c') (ping : StreamPing) (headers : Headers) :
    Twins (c.stream ping headers).2 (c'.stream ping headers).2 ∧
      (c.stream ping headers).1 = (c'.stream ping headers).1 := by
  simp only [Client.stream, twins.text.1, twins.binary.1]
  refine twins.exchange StreamPong.schema streamingPath headers (fun collected => ?_)
    fun _ _ same => same.stream
  simp only [request, Gateway.respond_stream]
  exact Gateway.stream_twins ping _ streamingPath (Metadata.onWire collected)

private theorem made (twins : Twins c c') (call : Call) : Twins (c.made call) (c'.made call) := by
  cases call with
  | unary method ping headers => exact (twins.unary method ping headers).1
  | stream ping headers => exact (twins.stream ping headers).1

/-- The clients stay twins through all their calls. -/
theorem foldl_made (twins : Twins c c') (calls : List Call) :
    Twins (calls.foldl Client.made c) (calls.foldl Client.made c') := by
  induction calls generalizing c c' with
  | nil => exact twins
  | cons call calls ih => exact ih (twins.made call)

end Twins

/-- The encoding does not affect what is said. A client in text mode that talks to a gateway in text
mode and a client in binary mode that talks to a gateway in binary mode are answered alike, whatever
they call, and after any calls that both have made before. -/
theorem modes_alike (timeout : Option Nat) (earlier : List Call) :
    let c := earlier.foldl made (meeting .text timeout)
    let c' := earlier.foldl made (meeting .binary timeout)
    (∀ method ping headers, Alike c c' method.path headers (c.unary method ping headers)
      (c'.unary method ping headers)) ∧
      ∀ ping headers, Alike c c' streamingPath headers (c.stream ping headers)
        (c'.stream ping headers) := by
  intro c c'
  have twins : Twins c c' := (meeting_twins timeout).foldl_made earlier
  constructor
  · intro method ping headers
    obtain ⟨stay, answer⟩ := twins.unary method ping headers
    refine ⟨answer, stay.requests, fun valid => ?_⟩
    obtain ⟨wire, reaches⟩ := exchange_reaches method.path valid
    exact ⟨wire, reaches c _ _ fun r => r.single_ne_request c.mode,
      reaches c' _ _ fun r => r.single_ne_request c'.mode⟩
  · intro ping headers
    obtain ⟨stay, answer⟩ := twins.stream ping headers
    refine ⟨answer, stay.requests, fun valid => ?_⟩
    obtain ⟨wire, reaches⟩ := exchange_reaches streamingPath valid
    exact ⟨wire, reaches c _ _ fun r => r.stream_ne_request c.mode,
      reaches c' _ _ fun r => r.stream_ne_request c'.mode⟩

end Client
end GatewayPing
