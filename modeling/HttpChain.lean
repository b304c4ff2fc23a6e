import HttpChain.Assertion
import HttpChain.Assoc
import HttpChain.Chain.Basic
import HttpChain.Chain.Build
import HttpChain.CommandLine
import HttpChain.Comparison
import HttpChain.Config.Basic
import HttpChain.Config.Document
import HttpChain.Config.Store
import HttpChain.Console.Progress
import HttpChain.Console.Response
import HttpChain.Console.Style
import HttpChain.Console.Table
import HttpChain.Console.Width
import HttpChain.Decimal.Binary64
import HttpChain.Decimal.Layout
import HttpChain.Decimal.Shortest
import HttpChain.Dict
import HttpChain.Error
import HttpChain.Files
import HttpChain.Http.Method
import HttpChain.Http.Request
import HttpChain.Http.Response
import HttpChain.Http.Status
import HttpChain.Http.Transfer
import HttpChain.Http.Wire
import HttpChain.Json.Basic
import HttpChain.Json.Number
import HttpChain.Json.Reader
import HttpChain.Json.Writer
import HttpChain.JsonPath.Basic
import HttpChain.JsonPath.Eval
import HttpChain.JsonPath.Parser
import HttpChain.Log
import HttpChain.Main
import HttpChain.Program
import HttpChain.Prompt
import HttpChain.Resolve
import HttpChain.Run.Basic
import HttpChain.Run.Chain
import HttpChain.Setup
import HttpChain.Text.Ascii
import HttpChain.Text.Base64
import HttpChain.Text.Blank
import HttpChain.Text.Category
import HttpChain.Text.Charset
import HttpChain.Text.Direction
import HttpChain.Text.Joining
import HttpChain.Text.Normalization
import HttpChain.Text.Regex
import HttpChain.Text.RunTable
import HttpChain.Text.Utf8
import HttpChain.Toml.Basic
import HttpChain.Toml.Reader
import HttpChain.Toml.Scalar
import HttpChain.Toml.Writer
import HttpChain.Url.Address
import HttpChain.Url.Basic
import HttpChain.Url.International
import HttpChain.Url.Mapping
import HttpChain.Url.Parser
import HttpChain.Url.Punycode
import HttpChain.Usage
import HttpChain.Variable.Capture
import HttpChain.Variable.Context
import HttpChain.Variable.Encoding
import HttpChain.Variable.Environment
import HttpChain.Variable.Substitution
import HttpChain.Variable.Template
import HttpChain.WriteBack
import HttpChain.Proofs.Run.Agenda
import HttpChain.Proofs.Run.Turn
import HttpChain.Proofs.Run.DataFlow
import HttpChain.Proofs.Run.Unwinding
import HttpChain.Proofs.Run.Report
import HttpChain.Proofs.Run.Flattening
import HttpChain.Proofs.Chain.Validation
import HttpChain.Proofs.Run.Cancellation
import HttpChain.Proofs.Run.Noninterference
import HttpChain.Proofs.Toml.Strings
import HttpChain.Proofs.Toml.Sections
import HttpChain.Proofs.Toml.RoundTrip
import HttpChain.Proofs.Toml.Reordering
import HttpChain.Proofs.Config.Reading
import HttpChain.Proofs.Files
import HttpChain.Proofs.Config.Reachable
import HttpChain.Proofs.Config.RoundTrip
import HttpChain.Proofs.Config.Omission
import HttpChain.Proofs.Variable.References
import HttpChain.Proofs.Variable.Placeholder
import HttpChain.Proofs.Variable.Substitution
import HttpChain.Proofs.Variable.QueryForm
import HttpChain.Proofs.Chain.Branches
import HttpChain.Proofs.Request.Resolution
import HttpChain.Proofs.Url.Authority
import HttpChain.Proofs.Variable.Front
import HttpChain.Proofs.Request.Destination
import HttpChain.Proofs.Request.Attachment
import HttpChain.Proofs.Http.Headers
import HttpChain.Proofs.Variable.Environment
import HttpChain.Proofs.Config.WriteBack
import HttpChain.Proofs.Request.CommonHeaders
import HttpChain.Proofs.Request.EnvironmentReads
import HttpChain.Proofs.Writes
import HttpChain.Proofs.Request.Permission
import HttpChain.Proofs.Http.HeaderLine
import HttpChain.Proofs.Request.HeaderNames
import HttpChain.Proofs.Config.Store
import HttpChain.Proofs.Program.Effects
import HttpChain.Proofs.Program.SavedRequest
import HttpChain.Proofs.Request.Composition
import HttpChain.Proofs.Comparison
import HttpChain.Proofs.Variable.Extraction
import HttpChain.Proofs.Config.Stored
import HttpChain.Proofs.Run.Locals
import HttpChain.Proofs.Run.Gate
import HttpChain.Proofs.Variable.Integers
import HttpChain.Proofs.Variable.Draft
import HttpChain.Proofs.Config.Scalars
import HttpChain.Proofs.Request.BaseUrl
import HttpChain.Proofs.Json.Pretty
import HttpChain.Proofs.Config.Discovery
import HttpChain.Proofs.Http.HeaderCalls
import HttpChain.Proofs.Http.MethodName
