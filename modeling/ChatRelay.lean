import ChatRelay.Text.Utf8
import ChatRelay.Text.Blank
import ChatRelay.Text.Quoted
import ChatRelay.Number.Double
import ChatRelay.Number.Shortest
import ChatRelay.Number.Numeral
import ChatRelay.Json.Basic
import ChatRelay.Json.Printer
import ChatRelay.Json.Reader
import ChatRelay.Json.Fault
import ChatRelay.Stream.Relay
import ChatRelay.Chat.Answer
import ChatRelay.Chat.Request
import ChatRelay.Chat.Parameters
import ChatRelay.Unicode.Normalization
import ChatRelay.Unicode.LabelProperties
import ChatRelay.Url.Host
import ChatRelay.Url.Replace
import ChatRelay.Gate.Backend
import ChatRelay.Http.Header
import ChatRelay.Http.Response
import ChatRelay.Failure
import ChatRelay.Rag.Sessions
import ChatRelay.Rag.Question
import ChatRelay.Endpoint.Basic
import ChatRelay.Chat.Payload
import ChatRelay.Endpoint.Payload
import ChatRelay.Text.CodePage
import ChatRelay.Text.Charset
import ChatRelay.Http.MediaType
import ChatRelay.Http.Status
import ChatRelay.Endpoint.Answer
import ChatRelay.Toml.Reader
import ChatRelay.Config.Reader
import ChatRelay.Relay.Basic
import ChatRelay.Http.Handshake
import ChatRelay.Url.Form
import ChatRelay.Text.Cut
import ChatRelay.Relay.Router
import ChatRelay.CommandLine.Run
import ChatRelay.Main
import ChatRelay.Proofs.Utf8.Character
import ChatRelay.Proofs.Utf8.Decoder
import ChatRelay.Proofs.Utf8.Decoding
import ChatRelay.Proofs.Stream.Lines
import ChatRelay.Proofs.Stream.Chunking
import ChatRelay.Proofs.Stream.Writes
import ChatRelay.Proofs.Json.Text
import ChatRelay.Proofs.Json.Strings
import ChatRelay.Proofs.Json.RoundTrip
import ChatRelay.Proofs.Stream.Lossless
import ChatRelay.Proofs.Url.Host
import ChatRelay.Proofs.Url.Authority
import ChatRelay.Proofs.Url.Extension
import ChatRelay.Proofs.Url.Origin
import ChatRelay.Proofs.Gate.Allowlist
import ChatRelay.Proofs.Gate.Confinement
import ChatRelay.Proofs.Utf8.Outline
import ChatRelay.Proofs.Url.Escape
import ChatRelay.Proofs.Gate.Traversal
import ChatRelay.Proofs.Text.Split
import ChatRelay.Proofs.Url.Percent
import ChatRelay.Proofs.Url.Path
import ChatRelay.Proofs.Url.HostText
import ChatRelay.Proofs.Url.Standard
import ChatRelay.Proofs.Url.Written
import ChatRelay.Proofs.Gate.Fidelity
import ChatRelay.Proofs.Rag.Question
import ChatRelay.Proofs.Rag.Run
import ChatRelay.Proofs.Relay.Calls
import ChatRelay.Proofs.Success
import ChatRelay.Proofs.Json.Members
import ChatRelay.Proofs.Json.Reading
import ChatRelay.Proofs.Json.Locality
import ChatRelay.Proofs.Chat.Payload
import ChatRelay.Proofs.Json.Numerals
import ChatRelay.Proofs.Json.Skipping
import ChatRelay.Proofs.Json.Brackets
import ChatRelay.Proofs.Json.Written
import ChatRelay.Proofs.Json.Records
import ChatRelay.Proofs.Stream.Markers
import ChatRelay.Proofs.Stream.Decodable
import ChatRelay.Proofs.Rag.Overlap
import ChatRelay.Proofs.Json.Numbers
import ChatRelay.Proofs.Text.Search
import ChatRelay.Proofs.Stream.Scanning
import ChatRelay.Proofs.Stream.Inline
import ChatRelay.Proofs.Utf8.Length
import ChatRelay.Proofs.Stream.Lifecycle
import ChatRelay.Proofs.Url.Replace
import ChatRelay.Proofs.Gate.Socket
import ChatRelay.Proofs.Text.Cut
import ChatRelay.Proofs.Relay.Routing
import ChatRelay.Proofs.Relay.Upgrade
import ChatRelay.Proofs.Endpoint.Failure
import ChatRelay.Proofs.Url.Continuation
import ChatRelay.Proofs.Gate.Enforcement
import ChatRelay.Proofs.Chat.Pairs
import ChatRelay.Proofs.Number.Numeral
import ChatRelay.Proofs.Chat.Parameters
import ChatRelay.Proofs.Chat.Formats
import ChatRelay.Proofs.Gate.Stability
import ChatRelay.Proofs.Url.Pieces
import ChatRelay.Proofs.Config.Check
import ChatRelay.Proofs.Gate.Listing
import ChatRelay.Proofs.Stream.Faithful
import ChatRelay.Proofs.Chat.Conversation
import ChatRelay.Proofs.Json.Lookup
import ChatRelay.Proofs.Chat.Answer
import ChatRelay.Proofs.Url.Form
import ChatRelay.Proofs.Url.Query
import ChatRelay.Proofs.Relay.Naming
import ChatRelay.Proofs.Relay.Conversation
import ChatRelay.Proofs.Relay.Headers
import ChatRelay.Proofs.Gate.Segments
import ChatRelay.Proofs.Gate.Passes
import ChatRelay.Proofs.Url.Trimmed
import ChatRelay.Proofs.Gate.Appended
import ChatRelay.Proofs.CommandLine.CheckPath
