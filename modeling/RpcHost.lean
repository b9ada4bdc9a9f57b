import RpcHost.CommandLine.Basic
import RpcHost.CommandLine.Level
import RpcHost.CommandLine.Reader
import RpcHost.Commands.Manage
import RpcHost.Commands.Serve
import RpcHost.Config.Basic
import RpcHost.Config.Document
import RpcHost.Config.Storage
import RpcHost.Decimal.Shortest
import RpcHost.Entries
import RpcHost.Files.FileSystem
import RpcHost.Files.Path
import RpcHost.Http.Body
import RpcHost.Http.Chunks
import RpcHost.Http.Exchange
import RpcHost.Http.Fields
import RpcHost.Http.Message
import RpcHost.Http.Opening
import RpcHost.Http.Routes
import RpcHost.Http.Status
import RpcHost.Http.Target
import RpcHost.Json.Amount
import RpcHost.Json.Printer
import RpcHost.Json.Reader
import RpcHost.Json.Record
import RpcHost.Json.Scan
import RpcHost.Json.Skip
import RpcHost.Json.Value
import RpcHost.Log.Directive
import RpcHost.Log.Filter
import RpcHost.Log.Line
import RpcHost.Log.Pattern
import RpcHost.Log.Pattern.Basic
import RpcHost.Log.Pattern.Class
import RpcHost.Log.Pattern.Escape
import RpcHost.Main
import RpcHost.Net.Endpoint
import RpcHost.Net.Host
import RpcHost.Net.IpAddress
import RpcHost.Product
import RpcHost.Program
import RpcHost.Proofs.Entries
import RpcHost.Proofs.Results
import RpcHost.Proofs.Json.Ordered
import RpcHost.Proofs.Json.Steps
import RpcHost.Rpc.Decode
import RpcHost.Rpc.Dispatcher
import RpcHost.Rpc.Envelope
import RpcHost.Rpc.MethodTable
import RpcHost.Rpc.Processing
import RpcHost.Rpc.Validity
import RpcHost.Server.Calls
import RpcHost.Server.Carrier
import RpcHost.Server.Lifecycle
import RpcHost.Server.Settings
import RpcHost.Server.WorkerPool
import RpcHost.Text.Alphanumeric
import RpcHost.Text.Blank
import RpcHost.Text.Printable
import RpcHost.Text.Quoted
import RpcHost.Text.Ranges
import RpcHost.Text.Utf8
import RpcHost.Toml.Reader
import RpcHost.Toml.Scan
import RpcHost.Toml.StringForm
import RpcHost.Toml.Value
import RpcHost.Toml.Writer
import RpcHost.Proofs.Rpc.Envelope
import RpcHost.Proofs.Rpc.Decoding
import RpcHost.Proofs.Rpc.Serving
import RpcHost.Proofs.Rpc.Batch
import RpcHost.Proofs.Rpc.Answers
import RpcHost.Proofs.Commands.Overriding
import RpcHost.Proofs.Program.Configuration
import RpcHost.Proofs.Server.Lifecycle
import RpcHost.Proofs.Json.Further
import RpcHost.Proofs.Text.Utf8
import RpcHost.Proofs.Text.Order
import RpcHost.Proofs.Rpc.Truncation
import RpcHost.Json.Spelling
import RpcHost.Proofs.Json.Spelling
import RpcHost.Proofs.Rpc.Spelling
import RpcHost.Proofs.Toml.Scalars
import RpcHost.Proofs.Toml.Documents
import RpcHost.Proofs.Toml.Words
import RpcHost.Proofs.Config.Saving
import RpcHost.Proofs.Config.Writing
import RpcHost.Proofs.Program.Showing
import RpcHost.Proofs.Server.WorkerPool
import RpcHost.Proofs.Rpc.Separation
import RpcHost.Proofs.Rpc.Registration
import RpcHost.Json.Parts
import RpcHost.Proofs.Json.Passing
import RpcHost.Proofs.Json.Parts
import RpcHost.Proofs.Json.Filling
import RpcHost.Proofs.Json.Record
import RpcHost.Proofs.Rpc.Reading
import RpcHost.Proofs.Json.SpelledParts
import RpcHost.Proofs.Rpc.RoundTrip
import RpcHost.Proofs.Json.Depth
import RpcHost.Proofs.Rpc.Builtin
import RpcHost.Proofs.Rpc.Nesting
import RpcHost.Proofs.Http.Replies
import RpcHost.Proofs.Http.Target
import RpcHost.Proofs.Http.Delivery
import RpcHost.Proofs.Files.Above
import RpcHost.Proofs.Files.Making
import RpcHost.Proofs.Files.Saving
import RpcHost.Proofs.Program.Initialising
import RpcHost.Proofs.Config.Discovery
import RpcHost.Proofs.Http.Routes
import RpcHost.Proofs.Http.CrossOrigin
import RpcHost.Proofs.Net.IpText
import RpcHost.Proofs.Net.ListenAddress
import RpcHost.Proofs.Net.Endpoint
import RpcHost.CommandLine.Spelling
import RpcHost.Proofs.CommandLine.Settings
import RpcHost.Proofs.CommandLine.Steps
import RpcHost.Proofs.CommandLine.Reading
import RpcHost.Toml.Statements
import RpcHost.Proofs.Toml.Places
import RpcHost.Proofs.Toml.Statements
import RpcHost.Config.Partial
import RpcHost.Proofs.Config.Partial
import RpcHost.Proofs.Commands.Managing
import RpcHost.Proofs.Commands.Serving
import RpcHost.Proofs.Rpc.Echo
