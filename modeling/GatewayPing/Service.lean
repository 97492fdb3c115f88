import GatewayPing.Eventual
import GatewayPing.Http
import GatewayPing.Status

/-! Services. A service is whatever answers requests: a gateway, a network on the way to one, or a
list of answers laid down beforehand. -/
namespace GatewayPing

/-- Something that answers requests, and may change as it does. -/
class Service (σ : Type) where
  /-- Why no request can be made, if none can. -/
  fault : σ → Option String
  call : σ → Request → Eventual (Except Status Response) × σ

/-- A service together with the requests that it received, in their order. -/
structure Observed (σ : Type) where
  inner : σ
  requests : List Request := []
  deriving Repr

instance {σ : Type} [Service σ] : Service (Observed σ) where
  fault s := Service.fault s.inner
  call s r :=
    let (reply, inner) := Service.call s.inner r
    (reply, ⟨inner, s.requests ++ [r]⟩)

/-- A list from which an entry is taken at each call. The last entry is never used up. -/
def takeTurn {α : Type} (otherwise : α) : List α → α × List α
  | [] => (otherwise, [])
  | [a] => (a, [a])
  | a :: rest => (a, rest)

/-- An answer laid down beforehand. -/
inductive Reply where
  | response (r : Response)
  /-- The request gets lost, for this reason. -/
  | failure (reason : String)
  /-- No answer ever comes. -/
  | silence
  deriving Repr

/-- What is observed of an answer. -/
def Reply.play : Reply → Eventual (Except Status Response)
  | .response r => .now (.ok r)
  | .failure reason => .now (.error ⟨.unknown, reason⟩)
  | .silence => .never

/-- An answer without anything in it. -/
def Reply.blank : Reply := .response ⟨Response.fine, [], [], .bare⟩

/-- A service that plays answers laid down beforehand, or is never ready. -/
structure Playback where
  notReady : Option String
  replies : List Reply
  deriving Repr

instance : Service Playback where
  fault p := p.notReady
  call p _ :=
    let (reply, replies) := takeTurn .blank p.replies
    (reply.play, { p with replies })

end GatewayPing
