import GatewayPing.Client
import GatewayPing.Text.Blank

/-! A gateway that speaks one encoding. It echoes timestamps, answers at most a handful of pongs in
a stream, and refuses a stream that does not identify itself. -/
namespace GatewayPing

/-- A gateway, by the encoding that it speaks. -/
structure Gateway where
  mode : Mode
  deriving DecidableEq, Repr

namespace Gateway

/-- The kind of content that the gateway sends. -/
def contentType : String × String := ("content-type", "application/grpc")

/-- The headers of a request that the gateway sends back. -/
def echoedHeader : String := "custom-header-1"

/-- The header by which a stream identifies itself. -/
def identityHeader : String := "x-request-id"

/-- The most pongs that a stream delivers. -/
def mostPongs : Nat := 5

/-- A status as headers. An empty message is left out. -/
def statusHeaders (s : Status) : Headers :=
  (statusHeader, toString s.code.number) ::
    if s.message.isEmpty then []
    else [(messageHeader, String.ofList ((Text.Percent.encode (Text.Utf8.encode s.message)).map
      fun b => Char.ofNat b.toNat))]

/-- The response to a call that is refused. -/
def refusal (s : Status) : Response :=
  ⟨Response.fine, contentType :: statusHeaders s, [], .bare⟩

/-- The response that delivers messages and ends with a status. -/
def delivery (metadata : Headers) (messages : List Bytes) (s : Status) : Response :=
  ⟨Response.fine, contentType :: metadata, messages.map Frame.wrap, .trailers (statusHeaders s)⟩

/-- The status of a call that went well. -/
def fine : Status := ⟨.ok, ""⟩

/-- The message in the body of a request. -/
def received {α : Type} (schema : Schema α) (mode : Mode) (r : Request) : Except Status α :=
  match compression? r.headers with
  | some s => .error s
  | none =>
    let body := Response.read ⟨Response.fine, [], [r.body], .bare⟩ (schema.decode mode) .settled
    match body.failure, body.messages with
    | some s, _ => .error s
    | none, [] => .error ⟨.internal, "Missing request message."⟩
    | none, m :: _ => .ok m

/-- Answers a call by its timestamp and the name of the service. -/
def echo (g : Gateway) (serviceName : String) (r : Request) : Response :=
  match received Ping.schema g.mode r with
  | .error s => refusal s
  | .ok ping =>
    let metadata := match r.headers.first? echoedHeader with
      | some value => [(echoedHeader, value)]
      | none => []
    delivery metadata [Pong.schema.encode g.mode ⟨ping.timestamp, serviceName⟩] fine

/-- Whether a text identifies a request: it is visible ASCII and not blank. -/
def identifies (id : String) : Bool :=
  id.toList.all (fun c => c == '\t' || (0x20 ≤ c.toNat && c.toNat < 0x7f)) &&
    !(Text.trim id.toList).isEmpty

/-- The pong of a stream at an index. -/
def pong (timestamp : Int64) (index : Nat) : StreamPong :=
  ⟨timestamp, s!"ServiceExtra: streaming ping => {index}"⟩

/-- Answers a stream: as many pongs as were asked for, up to the limit. A stream that asked for more
fails after them. -/
def stream (g : Gateway) (r : Request) : Response :=
  match received StreamPing.schema g.mode r with
  | .error s => refusal s
  | .ok ping =>
    if !((r.headers.first? identityHeader).any identifies) then
      refusal ⟨.invalidArgument, "missing 'x-request-id' header"⟩
    else
      let count := ping.messageCount.toInt.toNat
      let pongs := (List.range (min count mostPongs)).map (pong ping.timestamp)
      delivery [] (pongs.map (StreamPong.schema.encode g.mode))
        (if mostPongs < count then ⟨.resourceExhausted, "stream limit reached"⟩ else fine)

/-- Answers a request by its path. -/
def respond (g : Gateway) (r : Request) : Response :=
  if r.path = Method.aPing.path then g.echo "ServiceA: ping" r
  else if r.path = Method.aPost.path then g.echo "ServiceA: post" r
  else if r.path = Method.extraPing.path then g.echo "ServiceExtra: ping" r
  else if r.path = Method.extraPost.path then g.echo "ServiceExtra: post" r
  else if r.path = streamingPath then g.stream r
  else
    match received Ping.schema g.mode r with
    | .error s => refusal s
    | .ok _ => refusal ⟨.unimplemented, "Unknown method"⟩

end Gateway

instance : Service Gateway where
  fault _ := none
  call g r := (.now (.ok (g.respond r)), g)

end GatewayPing
