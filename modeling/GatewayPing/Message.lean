import GatewayPing.Message.Schema

/-! The messages of the gateway, and their schemas. A call sends a ping and is answered by a pong;
a stream sends one ping and is answered by any number of pongs. -/
namespace GatewayPing

/-- The request of a single call. -/
structure Ping where
  timestamp : Int64
  deriving DecidableEq, Repr

/-- The answer to a single call: the timestamp of the request and the name of the service. -/
structure Pong where
  timestamp : Int64
  serviceName : String
  deriving DecidableEq, Repr

/-- The request of a stream: how many pongs are asked for, and how many milliseconds the gateway is
asked to leave between them. -/
structure StreamPing where
  timestamp : Int64
  messageCount : Int32
  messageInterval : Int32
  deriving DecidableEq, Repr

/-- An element of a stream. -/
structure StreamPong where
  timestamp : Int64
  serviceName : String
  deriving DecidableEq, Repr

/-- The schema of the request of a single call. -/
def Ping.schema : Schema Ping where
  name := "MessagePing"
  blank := ⟨0⟩
  fields :=
    [⟨.int64, 1, "timestamp", "timestamp", (·.timestamp), fun v m => { m with timestamp := v }⟩]

/-- The schema of the answer to a single call. -/
def Pong.schema : Schema Pong where
  name := "MessagePong"
  blank := ⟨0, ""⟩
  fields :=
    [⟨.int64, 1, "timestamp", "timestamp", (·.timestamp), fun v m => { m with timestamp := v }⟩,
      ⟨.string, 2, "service_name", "serviceName", (·.serviceName),
        fun v m => { m with serviceName := v }⟩]

/-- The schema of the request of a stream. -/
def StreamPing.schema : Schema StreamPing where
  name := "StreamingMessagePing"
  blank := ⟨0, 0, 0⟩
  fields :=
    [⟨.int64, 1, "timestamp", "timestamp", (·.timestamp), fun v m => { m with timestamp := v }⟩,
      ⟨.int32, 2, "message_count", "messageCount", (·.messageCount),
        fun v m => { m with messageCount := v }⟩,
      ⟨.int32, 3, "message_interval", "messageInterval", (·.messageInterval),
        fun v m => { m with messageInterval := v }⟩]

/-- The schema of an element of a stream. -/
def StreamPong.schema : Schema StreamPong where
  name := "StreamingMessagePong"
  blank := ⟨0, ""⟩
  fields :=
    [⟨.int64, 1, "timestamp", "timestamp", (·.timestamp), fun v m => { m with timestamp := v }⟩,
      ⟨.string, 2, "service_name", "serviceName", (·.serviceName),
        fun v m => { m with serviceName := v }⟩]

end GatewayPing
