import GatewayPing.Arguments
import GatewayPing.Body
import GatewayPing.Bytes
import GatewayPing.Client
import GatewayPing.Concurrent
import GatewayPing.Config
import GatewayPing.Console
import GatewayPing.Course
import GatewayPing.Dispatcher
import GatewayPing.Endpoint
import GatewayPing.Environment
import GatewayPing.Eventual
import GatewayPing.Failure
import GatewayPing.Frame
import GatewayPing.Gateway
import GatewayPing.Headers
import GatewayPing.Http
import GatewayPing.Input
import GatewayPing.Json.Fault
import GatewayPing.Json.Number
import GatewayPing.Json.Read
import GatewayPing.Json.Scan
import GatewayPing.Json.Skip
import GatewayPing.Json.Write
import GatewayPing.Line
import GatewayPing.Main
import GatewayPing.Message
import GatewayPing.Message.Schema
import GatewayPing.Method
import GatewayPing.Mode
import GatewayPing.Notification
import GatewayPing.Operation
import GatewayPing.Program
import GatewayPing.Protobuf.Fault
import GatewayPing.Protobuf.Skip
import GatewayPing.Protobuf.Wire
import GatewayPing.Report
import GatewayPing.RequestId
import GatewayPing.Run
import GatewayPing.Sending
import GatewayPing.Service
import GatewayPing.Session
import GatewayPing.Status
import GatewayPing.Streaming
import GatewayPing.Text.Blank
import GatewayPing.Text.Hidden
import GatewayPing.Text.Lines
import GatewayPing.Text.Paint
import GatewayPing.Text.Percent
import GatewayPing.Text.Quoted
import GatewayPing.Text.Shortest
import GatewayPing.Text.Utf8
import GatewayPing.Transport
import GatewayPing.Unreachable
import GatewayPing.Usage
import GatewayPing.Proofs.Arguments.Entries
import GatewayPing.Proofs.Arguments.Order
import GatewayPing.Proofs.Arguments.Outcome
import GatewayPing.Proofs.Arguments.Reading
import GatewayPing.Proofs.Arguments.Soundness
import GatewayPing.Proofs.Arguments.Spelling
import GatewayPing.Proofs.Concurrent.Alone
import GatewayPing.Proofs.Concurrent.Answering
import GatewayPing.Proofs.Concurrent.Calls
import GatewayPing.Proofs.Concurrent.Delay
import GatewayPing.Proofs.Concurrent.Independence
import GatewayPing.Proofs.Concurrent.Joining
import GatewayPing.Proofs.Concurrent.Late
import GatewayPing.Proofs.Concurrent.Polling
import GatewayPing.Proofs.Concurrent.Settling
import GatewayPing.Proofs.Concurrent.Single
import GatewayPing.Proofs.Concurrent.Solo
import GatewayPing.Proofs.Concurrent.Steady
import GatewayPing.Proofs.Config.Choice
import GatewayPing.Proofs.Config.Loading
import GatewayPing.Proofs.Config.Settings
import GatewayPing.Proofs.Console.Exit
import GatewayPing.Proofs.Console.Lossless
import GatewayPing.Proofs.Console.Performing
import GatewayPing.Proofs.Console.Soundness
import GatewayPing.Proofs.Flow.Accounts
import GatewayPing.Proofs.Flow.Orders
import GatewayPing.Proofs.Input.Grammar
import GatewayPing.Proofs.Input.Handling
import GatewayPing.Proofs.Input.Methods
import GatewayPing.Proofs.Input.Prefixes
import GatewayPing.Proofs.Json.Grammar
import GatewayPing.Proofs.Json.Numerals
import GatewayPing.Proofs.Json.Objects
import GatewayPing.Proofs.Json.Passing
import GatewayPing.Proofs.Json.Records
import GatewayPing.Proofs.Json.Scanning
import GatewayPing.Proofs.Json.Texts
import GatewayPing.Proofs.Json.Typed
import GatewayPing.Proofs.Json.Words
import GatewayPing.Proofs.Message.Lossless
import GatewayPing.Proofs.Message.Members
import GatewayPing.Proofs.Message.Rows
import GatewayPing.Proofs.Message.Size
import GatewayPing.Proofs.Pace
import GatewayPing.Proofs.Protobuf.Grammar
import GatewayPing.Proofs.Protobuf.Wire
import GatewayPing.Proofs.Sending.Exit
import GatewayPing.Proofs.Sending.Law
import GatewayPing.Proofs.Sending.Soundness
import GatewayPing.Proofs.Session.Cancellation
import GatewayPing.Proofs.Session.Lifecycle
import GatewayPing.Proofs.Session.Outcome
import GatewayPing.Proofs.Session.Polling
import GatewayPing.Proofs.Session.Trace
import GatewayPing.Proofs.Text.Lines
import GatewayPing.Proofs.Text.Percent
import GatewayPing.Proofs.Text.Trim
import GatewayPing.Proofs.Text.Utf8
import GatewayPing.Proofs.Wire.Asking
import GatewayPing.Proofs.Wire.Completion
import GatewayPing.Proofs.Wire.Delivery
import GatewayPing.Proofs.Wire.Framing
import GatewayPing.Proofs.Wire.Leftovers
import GatewayPing.Proofs.Wire.Limits
import GatewayPing.Proofs.Wire.Metadata
import GatewayPing.Proofs.Wire.Mismatch
import GatewayPing.Proofs.Wire.Modes
import GatewayPing.Proofs.Wire.Requests
import GatewayPing.Proofs.Wire.Statuses
import GatewayPing.Proofs.Wire.Streams
import GatewayPing.Proofs.Wire.Verbatim
import GatewayPing.Proofs.Wording
