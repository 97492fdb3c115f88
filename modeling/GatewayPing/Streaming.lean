import GatewayPing.Client

/-! Streams, poll by poll. A body gives its messages one at a time, as it is asked for them
(`Body.seek`), and whoever asks again after a failure may get anything. So a stream that is handed
out is guarded: it asks no more after the first failure (`Guarded.next`). -/
namespace GatewayPing

/-- Something that can be asked for messages, and for the headers that come after them. -/
class Source (σ : Type) (α : outParam Type) where
  /-- The next message, none at the end, or a failure. -/
  message : σ → Except Status (Option α) × σ
  trailers : σ → Except Status Headers × σ

/-- A stream that lets go of its source when the source fails. -/
structure Guarded (σ : Type) where
  source : Option σ

namespace Guarded

variable {σ α : Type} [Source σ α]

/-- The next element, and the stream after it. A stream is over once there is none. At the end the
source is asked for its trailers, which may fail as well. -/
def next (g : Guarded σ) : Option (Except Status α × Guarded σ) :=
  match g.source with
  | none => none
  | some s =>
    match Source.message s with
    | (.ok (some m), s) => some (.ok m, ⟨some s⟩)
    | (.error e, _) => some (.error e, ⟨none⟩)
    | (.ok none, s) =>
      match Source.trailers s with
      | (.ok _, _) => none
      | (.error e, _) => some (.error e, ⟨none⟩)

/-- Asks for elements a number of times, unless the stream is over before: the elements, and the
stream if it goes on. -/
def take : Nat → Guarded σ → List (Except Status α) × Option (Guarded σ)
  | 0, g => ([], some g)
  | n + 1, g =>
    match g.next with
    | none => ([], none)
    | some (item, g) =>
      let (items, rest) := take n g
      (item :: items, rest)

end Guarded

namespace Body

/-- What comes of asking a body for its next message. -/
inductive Found (α : Type) where
  | message (m : α) (b : Body)
  | ended (trailers : Headers)
  | failed (s : Status)

/-- Takes in chunks until the next message is there, or until it is clear that there is none. -/
def seek {α : Type} (decode : Bytes → Except DecodeError α) (closing : Closing) (ending : BodyEnd)
    (reader : Frame.Reader) (chunks : List Bytes) : Found α :=
  match reader.next with
  | .broken fault => .failed (fault.status closing)
  | .message bytes reader =>
    match decode bytes with
    | .error e => .failed e.status
    | .ok m => .message m ⟨reader, chunks, ending⟩
  | .hungry reader =>
    match chunks with
    | chunk :: chunks => seek decode closing ending (reader.feed chunk) chunks
    | [] =>
      let whole : Received α := conclude closing reader ending []
      match whole.failure with
      | none => .ended whole.trailers
      | some s => .failed s

end Body

/-- What a download is at. -/
inductive Download.State (ρ : Type) where
  | reading (b : Body)
  | ended (trailers : Headers)
  /-- It failed, and goes on in some way. -/
  | broken (rest : ρ)

/-- A body of which the messages are asked for one by one. -/
structure Download (α ρ : Type) where
  decode : Bytes → Except DecodeError α
  closing : Closing
  /-- What is left after a failure. -/
  beyond : Status → ρ
  state : Download.State ρ

namespace Download

variable {α ρ : Type} [Source ρ α]

/-- The next message. -/
def message (d : Download α ρ) : Except Status (Option α) × Download α ρ :=
  match d.state with
  | .ended _ => (.ok none, d)
  | .broken rest =>
    let (found, rest) := Source.message rest
    (found, { d with state := .broken rest })
  | .reading b =>
    match Body.seek d.decode d.closing b.ending b.reader b.chunks with
    | .message m b => (.ok (some m), { d with state := .reading b })
    | .ended trailers => (.ok none, { d with state := .ended trailers })
    | .failed s => (.error s, { d with state := .broken (d.beyond s) })

/-- The trailers. Messages that were not asked for are passed over. -/
def trailers (d : Download α ρ) : Except Status Headers × Download α ρ :=
  match d.state with
  | .ended hs => (.ok hs, d)
  | .broken rest =>
    let (found, rest) := Source.trailers rest
    (found, { d with state := .broken rest })
  | .reading b =>
    let received := Body.readFrom d.decode d.closing [] b
    match received.failure with
    | none => (.ok received.trailers, { d with state := .ended received.trailers })
    | some s => (.error s, { d with state := .broken (d.beyond s) })

instance : Source (Download α ρ) α where
  message := message
  trailers := trailers

end Download

/-- The result of a call that is answered by a stream, to be polled. -/
abbrev DownloadResult (ρ : Type) := Except CallError (Answer (Guarded (Download StreamPong ρ)))

variable {ρ : Type}

/-- The stream that a response holds. -/
def Response.download (r : Response) (mode : Mode) (beyond : Status → ρ) : DownloadResult ρ :=
  match r.opening with
  | .error s => .error (.status s)
  | .ok closing =>
    let body : Body := ⟨{}, r.chunks, r.ending⟩
    .ok ⟨r.headers, ⟨some ⟨StreamPong.schema.decode mode, closing, beyond, .reading body⟩⟩⟩

/-- Calls the method that answers with a stream, and hands the stream out. -/
def Client.download {σ : Type} [Service σ] (beyond : Status → ρ) (c : Client σ) (ping : StreamPing)
    (headers : Headers) : Eventual (DownloadResult ρ) × Client σ :=
  let (reply, c') := c.exchange streamingPath headers (StreamPing.schema.encode c.mode ping)
  (reply.map fun r => r.bind (·.download c.mode beyond), c')

end GatewayPing
