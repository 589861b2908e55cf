import WebSocket.Address
import WebSocket.Admission.Client
import WebSocket.Admission.Controller
import WebSocket.Admission.Decision
import WebSocket.Admission.History
import WebSocket.Admission.Holding
import WebSocket.Admission.Table
import WebSocket.Base64
import WebSocket.Bytes
import WebSocket.CloseCode
import WebSocket.Config
import WebSocket.Config.Limits
import WebSocket.Connection
import WebSocket.Connection.Handler
import WebSocket.Connection.Interpreter
import WebSocket.Connection.Progress
import WebSocket.Connection.Run
import WebSocket.Connection.State
import WebSocket.Connection.Step
import WebSocket.Connection.Tenancy
import WebSocket.Digest.Sha1
import WebSocket.Error
import WebSocket.Frame
import WebSocket.Frame.Decoder
import WebSocket.Frame.Encoder
import WebSocket.Frame.Incoming
import WebSocket.Frame.LengthForm
import WebSocket.Frame.Stream
import WebSocket.Http.Chunked
import WebSocket.Http.Client
import WebSocket.Http.Field
import WebSocket.Http.Forwarded
import WebSocket.Http.Guarded
import WebSocket.Http.Head
import WebSocket.Http.Headers
import WebSocket.Http.OneShot
import WebSocket.Http.Response
import WebSocket.Http.Status
import WebSocket.Mask
import WebSocket.Message
import WebSocket.Network
import WebSocket.Network.Resolver
import WebSocket.Network.Socket
import WebSocket.Network.SocketError
import WebSocket.Opcode
import WebSocket.Proofs.Admission.Accounting
import WebSocket.Proofs.Admission.Entries
import WebSocket.Proofs.Admission.Isolation
import WebSocket.Proofs.Admission.Rate
import WebSocket.Proofs.Admission.Total
import WebSocket.Proofs.Admission.Transfer
import WebSocket.Proofs.Admission.Window
import WebSocket.Proofs.Connection.Answer
import WebSocket.Proofs.Connection.Arrival
import WebSocket.Proofs.Connection.Calls
import WebSocket.Proofs.Connection.Course
import WebSocket.Proofs.Connection.Deadline
import WebSocket.Proofs.Connection.Failure
import WebSocket.Proofs.Connection.Idleness
import WebSocket.Proofs.Connection.Interpretation
import WebSocket.Proofs.Connection.Lifecycle
import WebSocket.Proofs.Connection.Output
import WebSocket.Proofs.Connection.Refinement
import WebSocket.Proofs.Connection.Shown
import WebSocket.Proofs.Connection.Tenancy
import WebSocket.Proofs.Connection.Tenure
import WebSocket.Proofs.Connection.Withdrawal
import WebSocket.Proofs.Frame.Agreement
import WebSocket.Proofs.Frame.Exactness
import WebSocket.Proofs.Frame.Faults
import WebSocket.Proofs.Frame.Forms
import WebSocket.Proofs.Frame.Masking
import WebSocket.Proofs.Frame.Prefix
import WebSocket.Proofs.Frame.RoundTrip
import WebSocket.Proofs.Frame.Writing
import WebSocket.Proofs.Http.Agreement
import WebSocket.Proofs.Http.Client
import WebSocket.Proofs.Http.Complete
import WebSocket.Proofs.Http.Entries
import WebSocket.Proofs.Http.Fields
import WebSocket.Proofs.Http.Forwarding
import WebSocket.Proofs.Http.Head
import WebSocket.Proofs.Http.Reply
import WebSocket.Proofs.Http.Request
import WebSocket.Proofs.Http.Response
import WebSocket.Proofs.Message.Classification
import WebSocket.Proofs.Message.RoundTrip
import WebSocket.Proofs.Network.Closing
import WebSocket.Proofs.Network.Receiving
import WebSocket.Proofs.Server.Acceptance
import WebSocket.Proofs.Server.Accounting
import WebSocket.Proofs.Server.Progress
import WebSocket.Proofs.Server.Run
import WebSocket.Proofs.Server.Settling
import WebSocket.Proofs.Server.Stopping
import WebSocket.Proofs.Server.Supervision
import WebSocket.Proofs.Text.Base64
import WebSocket.Proofs.Text.Clipping
import WebSocket.Proofs.Text.Lines
import WebSocket.Proofs.Text.Numeral
import WebSocket.Proofs.Text.Pieces
import WebSocket.Proofs.Transport.Buffering
import WebSocket.Proofs.Transport.Reading
import WebSocket.Proofs.Transport.Scan
import WebSocket.Proofs.Upgrade.Acceptance
import WebSocket.Proofs.Upgrade.Refusal
import WebSocket.Proofs.Upgrade.Response
import WebSocket.Sequence
import WebSocket.Server
import WebSocket.Server.Session
import WebSocket.Server.Visitor
import WebSocket.System
import WebSocket.System.Errno
import WebSocket.Text
import WebSocket.Text.Blank
import WebSocket.Text.CodePoints
import WebSocket.Text.Interval
import WebSocket.Text.Mark
import WebSocket.Text.Normal
import WebSocket.Text.Normal.Tables
import WebSocket.Text.Numeral
import WebSocket.Text.Percent
import WebSocket.Text.Printable
import WebSocket.Text.Punycode
import WebSocket.Text.Quoted
import WebSocket.Transport.Codec
import WebSocket.Transport.Inbox
import WebSocket.Transport.Intake
import WebSocket.Transport.Outbox
import WebSocket.Upgrade.Key
import WebSocket.Upgrade.Policy
import WebSocket.Upgrade.Proposal
import WebSocket.Upgrade.Request
import WebSocket.Url
import WebSocket.Url.Domain
import WebSocket.Url.Domain.Direction
import WebSocket.Url.Domain.Joiner
import WebSocket.Url.Domain.Mapping
import WebSocket.Url.Fault
import WebSocket.Url.Host
import WebSocket.Proofs.Text.Trimming
import WebSocket.Proofs.Http.History
import WebSocket.Proofs.Http.Identity
import WebSocket.Proofs.Http.Listing
import WebSocket.Proofs.Server.Control
import WebSocket.Proofs.Server.Configuration
