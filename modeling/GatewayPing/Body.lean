import GatewayPing.Frame
import GatewayPing.Http
import GatewayPing.Message
import GatewayPing.Status
import GatewayPing.Text.Percent

/-! Reading the body of a response. Its frames are read up to the first fault or the end; at the end
the trailers say how the call went, and if they say nothing the response status has to do. -/
namespace GatewayPing

/-- The code of a number in decimal, without leading zeros. Any other text is unknown. -/
def Code.ofText (s : String) : Code :=
  match ([0, 1, 2, 3, 4, 5, 6, 7, 8, 9, 10, 11, 12, 13, 14, 15, 16] : List Nat).find?
      (fun n => toString n == s) with
  | some n => .ofNumber n
  | none => .unknown

/-- The header that holds a status code. -/
def statusHeader : String := "grpc-status"

/-- The header that holds the message of a status. -/
def messageHeader : String := "grpc-message"

/-- The status that headers tell of, if they do. A message that is no text takes the place of the
status. The status is taken to come without details (`grpc-status-details-bin`). -/
def Status.ofHeaders? (hs : Headers) : Option Status :=
  (hs.first? statusHeader).map fun code =>
    match Text.Utf8.decode (Text.Percent.decode (Text.Utf8.encode
        ((hs.first? messageHeader).getD ""))) with
    | .ok message => ⟨.ofText code, message⟩
    | .error fault => ⟨.unknown, s!"Error deserializing status message header: {fault.message}"⟩

/-- The status that a response status stands for, where nothing else tells how the call went. -/
def Status.ofHttp (status : Nat) : Status :=
  let mapped (code : Code) : Status :=
    ⟨code, s!"grpc-status header missing, mapped from HTTP status code {status}"⟩
  if status = 200 then
    ⟨.unknown, "protocol error: missing grpc-status trailer, stream was terminated without a " ++
      "final status (possible truncation by a proxy or load balancer)"⟩
  else if status = 400 then mapped .internal
  else if status = 401 then mapped .unauthenticated
  else if status = 403 then mapped .permissionDenied
  else if status = 404 then mapped .unimplemented
  else if status = 429 || status = 502 || status = 503 || status = 504 then mapped .unavailable
  else mapped .unknown

/-- What the reader of a body knows of the call. -/
inductive Closing where
  /-- The outcome is still open; the response had this status. -/
  | pending (status : Nat)
  /-- The outcome is known, and what follows the body does not matter. -/
  | settled
  deriving DecidableEq, Repr

/-- The status of a call whose body holds something that is no frame. -/
def Frame.Fault.status (closing : Closing) : Frame.Fault → Status
  | .compressed =>
    ⟨.internal, "protocol error: received message with compressed-flag but no grpc-encoding " ++
      "was specified"⟩
  | .invalidFlag flag =>
    let context := match closing with
      | .pending status => s!" while receiving response with status: {statusLine status}"
      | .settled => ", while sending request"
    ⟨.internal, s!"protocol error: received message with invalid compression flag: {flag.toNat} " ++
      s!"(valid flags are 0 and 1){context}"⟩
  | .tooLong length =>
    ⟨.outOfRange, s!"Error, decoded message length too large: found {length} bytes, " ++
      s!"the limit is: {Frame.maxLength} bytes"⟩

/-- The wording of bytes that are no message, as part of a call. -/
def DecodeError.statusMessage : DecodeError → String
  | .json e => s!"Failed to decode JSON message: {e.message}"
  | .binary e => e.message

/-- The status of a call that brought bytes which are no message. -/
def DecodeError.status (e : DecodeError) : Status := ⟨.internal, e.statusMessage⟩

/-- What was read of a body: the messages, the failure that ended them, if it was not the normal
end, and the trailers. -/
structure Received (α : Type) where
  messages : List α
  failure : Option Status
  trailers : Headers
  deriving Repr

/-- The elements of a stream: the messages, then the failure. -/
def Received.items {α : Type} (r : Received α) : List (Except Status α) :=
  r.messages.map .ok ++ r.failure.toList.map .error

/-- A body that is being read: the reader of its frames, the chunks that have not arrived yet, and
what follows them. -/
structure Body where
  reader : Frame.Reader
  chunks : List Bytes
  ending : BodyEnd

namespace Body

/-- The failure that trailers, or their absence, amount to. -/
def verdict (closing : Closing) (trailers : Headers) : Option Status :=
  match closing with
  | .settled => none
  | .pending status =>
    match Status.ofHeaders? trailers with
    | none => some (.ofHttp status)
    | some s => if s.code = .ok then none else some s

/-- The end of a body, after all of its messages. -/
def conclude {α : Type} (closing : Closing) (reader : Frame.Reader) (ending : BodyEnd)
    (messages : List α) : Received α :=
  match ending with
  | .failed reason => ⟨messages, some ⟨.unknown, reason⟩, []⟩
  | .trailers hs => ⟨messages, verdict closing hs, hs⟩
  | .bare =>
    if reader.buffer.isEmpty then ⟨messages, verdict closing [], []⟩
    else ⟨messages, some ⟨.internal, "Unexpected EOF decoding stream."⟩, []⟩

/-- The bytes that have not arrived yet. -/
def outstanding (b : Body) : Nat := b.chunks.flatten.length

/-- Reads the messages of a body, after those already read, given latest first. -/
def readFrom {α : Type} (decode : Bytes → Except DecodeError α) (closing : Closing)
    (read : List α) (b : Body) : Received α :=
  match _ : b.reader.next with
  | .broken fault => ⟨read.reverse, some (fault.status closing), []⟩
  | .message bytes reader =>
    match decode bytes with
    | .error e => ⟨read.reverse, some e.status, []⟩
    | .ok m => readFrom decode closing (m :: read) { b with reader }
  | .hungry reader =>
    match _ : b.chunks with
    | [] => conclude closing reader b.ending read.reverse
    | chunk :: chunks => readFrom decode closing read { b with reader := reader.feed chunk, chunks }
termination_by (b.outstanding + b.reader.weight, b.chunks.length)
decreasing_by
  · have lighter := Frame.Reader.next_message_weight_lt (by assumption)
    exact .left _ _ (Nat.add_lt_add_left lighter _)
  · have lighter := Frame.Reader.next_hungry_weight_le (by assumption)
    rename_i whole
    have same : ({ b with reader := reader.feed chunk, chunks } : Body).outstanding +
        (reader.feed chunk).weight ≤ b.outstanding + b.reader.weight := by
      simp only [outstanding, whole, List.flatten_cons, List.length_append,
        Frame.Reader.feed_weight]
      omega
    rcases Nat.lt_or_eq_of_le same with less | equal
    · exact .left _ _ less
    · rw [equal, whole]
      exact .right _ (Nat.lt_succ_self _)

end Body

/-- Reads the messages in the body of a response. -/
def Response.read {α : Type} (r : Response) (decode : Bytes → Except DecodeError α)
    (closing : Closing) : Received α :=
  Body.readFrom decode closing [] ⟨{}, r.chunks, r.ending⟩

end GatewayPing
