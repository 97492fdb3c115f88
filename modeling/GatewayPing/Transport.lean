import GatewayPing.Client

/-! Transports. A transport makes the calls that the gateway offers; what comes of a call may take
time. The client keeps two of them, one for each encoding, and each call goes to one of the two. -/
namespace GatewayPing

/-- What a stream will bring: elements, each with the time since the one before it, and whether the
stream stays open after the last. -/
structure Feed where
  items : List (Nat × Except Status StreamPong)
  staysOpen : Bool
  deriving Repr

/-- Something that makes calls, and may change as it does. -/
class Transport (τ : Type) where
  /-- The encoding that the transport is bound to. -/
  mode : τ → Mode
  unary : τ → Method → Ping → Headers → Eventual (Except CallError Pong) × τ
  stream : τ → StreamPing → Headers → Eventual (Except CallError Feed) × τ

/-- A stream all of whose elements are there at once. -/
def Feed.ofItems (items : List (Except Status StreamPong)) : Feed :=
  ⟨items.map fun item => (0, item), false⟩

instance {σ : Type} [Service σ] : Transport (Client σ) where
  mode c := c.mode
  unary c method ping headers :=
    let (reply, c) := c.unary method ping headers
    (reply.map (·.map (·.body)), c)
  stream c ping headers :=
    let (reply, c) := c.stream ping headers
    (reply.map (·.map fun answer => .ofItems answer.body), c)

/-- A call as it reaches a transport. -/
inductive Call where
  | unary (method : Method) (ping : Ping) (headers : Headers)
  | stream (ping : StreamPing) (headers : Headers)
  deriving DecidableEq, Repr

/-- A transport together with the calls that reached it, in their order. -/
structure Recorded (τ : Type) where
  inner : τ
  calls : List Call := []
  deriving Repr

instance {τ : Type} [Transport τ] : Transport (Recorded τ) where
  mode r := Transport.mode r.inner
  unary r method ping headers :=
    let (reply, inner) := Transport.unary r.inner method ping headers
    (reply, ⟨inner, r.calls ++ [.unary method ping headers]⟩)
  stream r ping headers :=
    let (reply, inner) := Transport.stream r.inner ping headers
    (reply, ⟨inner, r.calls ++ [.stream ping headers]⟩)

/-- What a single call is answered in a rehearsal. A pong without a timestamp repeats that of the
request. -/
inductive UnaryCue where
  | notReady (reason : String)
  | failure (s : Status)
  | pong (timestamp : Option Int64) (serviceName : String)
  deriving Repr

/-- What a stream is answered in a rehearsal. -/
inductive StreamCue where
  | notReady (reason : String)
  | failure (s : Status)
  | feed (f : Feed)
  deriving Repr

/-- A transport that plays answers laid down beforehand, each after a delay. -/
structure Rehearsal where
  mode : Mode
  unary : List (Nat × UnaryCue)
  streams : List (Nat × StreamCue)
  deriving Repr

/-- The answer to a single call. -/
def UnaryCue.play (ping : Ping) : UnaryCue → Except CallError Pong
  | .notReady reason => .error (.request (.notReady reason))
  | .failure s => .error (.status s)
  | .pong timestamp serviceName => .ok ⟨timestamp.getD ping.timestamp, serviceName⟩

/-- The answer to a stream. -/
def StreamCue.play : StreamCue → Except CallError Feed
  | .notReady reason => .error (.request (.notReady reason))
  | .failure s => .error (.status s)
  | .feed f => .ok f

/-- The name of the service that answers where a rehearsal names none. -/
def Rehearsal.serviceName : String := "svc-a"

instance : Transport Rehearsal where
  mode r := r.mode
  unary r _ ping _ :=
    let ((delay, cue), unary) := takeTurn (0, .pong none Rehearsal.serviceName) r.unary
    (.after delay (cue.play ping), { r with unary })
  stream r _ _ :=
    let ((delay, cue), streams) := takeTurn (0, .feed ⟨[], false⟩) r.streams
    (.after delay cue.play, { r with streams })

/-- The two transports of a client. -/
structure TransportPair (τ : Type) where
  text : τ
  binary : τ
  deriving Repr

namespace TransportPair

variable {τ : Type}

/-- The transport for calls in a mode. -/
def select (ts : TransportPair τ) : Mode → τ
  | .text => ts.text
  | .binary => ts.binary

/-- The transports after one of them changed. -/
def update (ts : TransportPair τ) (mode : Mode) (t : τ) : TransportPair τ :=
  match mode with
  | .text => { ts with text := t }
  | .binary => { ts with binary := t }

@[simp] theorem select_update (ts : TransportPair τ) (m n : Mode) (t : τ) :
    (ts.update m t).select n = if m = n then t else ts.select n := by
  cases m <;> cases n <;> rfl

end TransportPair
end GatewayPing
