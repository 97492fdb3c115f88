import GatewayPing.Headers
import GatewayPing.Json.Read
import GatewayPing.Json.Write
import GatewayPing.Text.Utf8

/-! The configuration of the client. It is kept in a JSON file; a field that the file does not
mention keeps its default, and a file with a wrong field is refused as a whole. -/
namespace GatewayPing

/-- The settings of the client. Times are in milliseconds. -/
structure Config where
  /-- The address of the gateway. -/
  endpoint : String
  /-- The longest time that a call may take. -/
  timeout : Option UInt64
  /-- The largest number of messages asked of a stream. -/
  maxStreamMessages : UInt32
  /-- The pause that the gateway is asked to leave between messages. -/
  messageInterval : UInt32
  /-- How long a successful single call is held back before it is reported. -/
  responseDelay : UInt64
  unaryHeaders : Headers
  streamingHeaders : Headers
  deriving DecidableEq, Repr

namespace Config

/-- The settings where nothing else is configured. -/
def default : Config where
  endpoint := "http://localhost:7070"
  timeout := none
  maxStreamMessages := 10
  messageInterval := 500
  responseDelay := 500
  unaryHeaders := [("custom-header-1", "value1")]
  streamingHeaders := [("custom-header-1", "value2")]

/-- Reads an unsigned 32-bit integer. -/
def uint32 : Json.Reader UInt32 :=
  (Json.Reader.integer 0 0xFFFFFFFF "u32").map fun n => UInt32.ofNat n.toNat

/-- Reads an unsigned 64-bit integer. -/
def uint64 : Json.Reader UInt64 :=
  (Json.Reader.integer 0 0xFFFFFFFFFFFFFFFF "u64").map fun n => UInt64.ofNat n.toNat

/-- Reads headers, written as a list of pairs. -/
def headers : Json.Reader Headers := .list (.pair .string .string)

/-- The fields of a configuration in their order. -/
def fields : List (Json.Field Config) :=
  [.of "endpoint" .string fun v c => { c with endpoint := v },
    .of "timeout_ms" (.optional uint64) fun v c => { c with timeout := v },
    .of "max_stream_messages" uint32 fun v c => { c with maxStreamMessages := v },
    .of "message_interval_ms" uint32 fun v c => { c with messageInterval := v },
    .of "response_delay_ms" uint64 fun v c => { c with responseDelay := v },
    .of "unary_headers" headers fun v c => { c with unaryHeaders := v },
    .of "streaming_headers" headers fun v c => { c with streamingHeaders := v }]

/-- Reads the text of a configuration file. -/
def ofJson (text : Bytes) : Except Json.Error Config :=
  (Json.Reader.record "ClientConfig" fields default).read text

/-- Headers as JSON. -/
def headersJson (hs : Headers) : Bytes :=
  Json.writeList (hs.map fun (name, value) =>
    Json.writeList [Json.writeString name, Json.writeString value])

/-- A configuration as JSON, with all its fields in their order. -/
def toJson (c : Config) : Bytes :=
  Json.writeObject
    [("endpoint", Json.writeString c.endpoint),
      ("timeout_ms", match c.timeout with
        | none => Json.writeNull
        | some t => Json.writeNat t.toNat),
      ("max_stream_messages", Json.writeNat c.maxStreamMessages.toNat),
      ("message_interval_ms", Json.writeNat c.messageInterval.toNat),
      ("response_delay_ms", Json.writeNat c.responseDelay.toNat),
      ("unary_headers", headersJson c.unaryHeaders),
      ("streaming_headers", headersJson c.streamingHeaders)]

/-- What stands at a path. -/
inductive File where
  | contents (bytes : Bytes)
  | missing
  | directory
  /-- The path leads through something that is no directory. -/
  | insideFile
  /-- The user may not read it. -/
  | denied
  deriving DecidableEq, Repr

/-- Why a file cannot be read as text. -/
inductive ReadFault where
  | missing
  | directory
  | insideFile
  | denied
  | notText
  deriving DecidableEq, Repr

/-- The wording of a fault, with the number of the operating system's error. -/
def ReadFault.text : ReadFault → String
  | .missing => "No such file or directory (os error 2)"
  | .directory => "Is a directory (os error 21)"
  | .insideFile => "Not a directory (os error 20)"
  | .denied => "Permission denied (os error 13)"
  | .notText => "stream did not contain valid UTF-8"

/-- Reads a file as text, which has to be UTF-8. -/
def File.read : File → Except ReadFault Bytes
  | .contents bytes =>
    match Text.Utf8.decode bytes with
    | .ok _ => .ok bytes
    | .error _ => .error .notText
  | .missing => .error .missing
  | .directory => .error .directory
  | .insideFile => .error .insideFile
  | .denied => .error .denied

/-- Whether anything stands at the path. -/
def File.present : File → Bool
  | .contents _ | .directory | .denied => true
  | .missing | .insideFile => false

/-- Why no configuration was loaded. -/
inductive LoadError where
  | read (path : String) (cause : ReadFault)
  | parse (path : String) (cause : Json.Error)
  deriving Repr

/-- The wording of the cause alone. -/
def LoadError.cause : LoadError → String
  | .read _ cause => cause.text
  | .parse _ cause => cause.message

/-- The wording of a failure, which includes its cause. -/
def LoadError.message : LoadError → String
  | .read path cause => s!"Failed to read config file '{path}': {cause.text}"
  | .parse path cause => s!"Invalid config file '{path}': {cause.message}"

/-- Loads the file at a path. -/
def load (path : String) (file : File) : Except LoadError Config :=
  match file.read with
  | .error cause => .error (.read path cause)
  | .ok text => (ofJson text).mapError (.parse path)

/-- Loads the file at a path if there is one. -/
def loadIfPresent (path : String) (file : File) : Except LoadError Config :=
  if file.present then load path file else .ok default

end Config
end GatewayPing
