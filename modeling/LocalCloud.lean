import LocalCloud.Access.Policy
import LocalCloud.Bytes
import LocalCloud.Client.Basic
import LocalCloud.Client.CoreService
import LocalCloud.Client.Identity
import LocalCloud.Client.Operations
import LocalCloud.Client.Request
import LocalCloud.Client.Run
import LocalCloud.Codec.Asn1
import LocalCloud.Codec.Asn1.Time
import LocalCloud.Codec.Asn1.Tree
import LocalCloud.Codec.Base64
import LocalCloud.Codec.Pem
import LocalCloud.Codec.Percent
import LocalCloud.CommandLine
import LocalCloud.Config.Basic
import LocalCloud.Config.File
import LocalCloud.Config.JsonFile
import LocalCloud.Config.Overlay
import LocalCloud.Config.Setting
import LocalCloud.Config.TomlFile
import LocalCloud.Config.YamlFile
import LocalCloud.Consumer.Basic
import LocalCloud.Consumer.HttpCall
import LocalCloud.Consumer.Registry
import LocalCloud.Consumer.WebSocketCall
import LocalCloud.Crypto.Aes
import LocalCloud.Crypto.Cbc
import LocalCloud.Crypto.Gcm
import LocalCloud.Crypto.Rsa
import LocalCloud.Crypto.Sha2
import LocalCloud.Decimal.Shortest
import LocalCloud.Dict
import LocalCloud.Error
import LocalCloud.Flags
import LocalCloud.Http.Header
import LocalCloud.Http.Message
import LocalCloud.Http.Url
import LocalCloud.Interface
import LocalCloud.Json.Basic
import LocalCloud.Json.Decode
import LocalCloud.Json.Document
import LocalCloud.Json.Number
import LocalCloud.Json.Printer
import LocalCloud.Json.Token
import LocalCloud.Key.Certificate
import LocalCloud.Key.Rsa
import LocalCloud.Main
import LocalCloud.Message.ErrorBody
import LocalCloud.Message.Event
import LocalCloud.Message.Orchestration
import LocalCloud.Message.Registry
import LocalCloud.Orchestration.Rule
import LocalCloud.Orchestration.Store
import LocalCloud.PolicyKind
import LocalCloud.Proofs.Access.ConsumerBinding
import LocalCloud.Proofs.Access.Evidence
import LocalCloud.Proofs.Access.TokenDecision
import LocalCloud.Proofs.Client.Building
import LocalCloud.Proofs.Client.BulkCourses
import LocalCloud.Proofs.Client.BulkOperations
import LocalCloud.Proofs.Client.CoreCalls
import LocalCloud.Proofs.Client.CoreIsolation
import LocalCloud.Proofs.Client.EventHandlerMirror
import LocalCloud.Proofs.Client.FlagPrecedence
import LocalCloud.Proofs.Client.Operations
import LocalCloud.Proofs.Client.Orchestrating
import LocalCloud.Proofs.Client.Publishing
import LocalCloud.Proofs.Client.RegistryMirror
import LocalCloud.Proofs.Client.RunOrder
import LocalCloud.Proofs.Client.Watching
import LocalCloud.Proofs.Codec.Asn1
import LocalCloud.Proofs.Codec.Base64
import LocalCloud.Proofs.Codec.Numeral
import LocalCloud.Proofs.Codec.Pem
import LocalCloud.Proofs.Codec.Percent
import LocalCloud.Proofs.Consumer.PresentedToken
import LocalCloud.Proofs.Consumer.QueryTransport
import LocalCloud.Proofs.Crypto.Aes
import LocalCloud.Proofs.Crypto.Modes
import LocalCloud.Proofs.Crypto.Rsa
import LocalCloud.Proofs.Crypto.Sha2
import LocalCloud.Proofs.Crypto.Signing
import LocalCloud.Proofs.Dict.Spelling
import LocalCloud.Proofs.Flags.Known
import LocalCloud.Proofs.Flags.Wire
import LocalCloud.Proofs.Http.HeaderValues
import LocalCloud.Proofs.Http.Location
import LocalCloud.Proofs.Json.Canonical
import LocalCloud.Proofs.Json.Nulls
import LocalCloud.Proofs.Json.Reading
import LocalCloud.Proofs.Key.PemWrapping
import LocalCloud.Proofs.Key.SubjectName
import LocalCloud.Proofs.Message.Endpoint
import LocalCloud.Proofs.Message.Forwarding
import LocalCloud.Proofs.Message.Interface
import LocalCloud.Proofs.Message.Nulls
import LocalCloud.Proofs.Message.RoundTrip
import LocalCloud.Proofs.Message.Spelling
import LocalCloud.Proofs.Orchestration.Destination
import LocalCloud.Proofs.Orchestration.EntryRules
import LocalCloud.Proofs.Orchestration.Failover
import LocalCloud.Proofs.Orchestration.Interleaving
import LocalCloud.Proofs.Orchestration.Numbering
import LocalCloud.Proofs.Orchestration.ResolverSafety
import LocalCloud.Proofs.Orchestration.RuleLists
import LocalCloud.Proofs.Orchestration.TokenTransport
import LocalCloud.Proofs.Provider.Delivery
import LocalCloud.Proofs.Provider.EventTypes
import LocalCloud.Proofs.Provider.Grouping
import LocalCloud.Proofs.Provider.Mediation
import LocalCloud.Proofs.Provider.Mirror
import LocalCloud.Proofs.Provider.NotifyUris
import LocalCloud.Proofs.Provider.Routing
import LocalCloud.Proofs.Provider.SeenCredentials
import LocalCloud.Proofs.Provider.Wiring
import LocalCloud.Proofs.Text.Case
import LocalCloud.Proofs.Text.Decimal
import LocalCloud.Proofs.Text.Folding
import LocalCloud.Proofs.Text.Frame
import LocalCloud.Proofs.Text.Identifier
import LocalCloud.Proofs.Text.Segments
import LocalCloud.Proofs.Text.Trimming
import LocalCloud.Proofs.Text.Utf8
import LocalCloud.Proofs.Token.Bearer
import LocalCloud.Proofs.Token.Envelope
import LocalCloud.Proofs.Token.EnvelopeRoundTrip
import LocalCloud.Proofs.Token.EnvelopeTag
import LocalCloud.Proofs.Token.Issuing
import LocalCloud.Proofs.Token.SafeOpening
import LocalCloud.Proofs.Token.Validity
import LocalCloud.Provider.Exchange
import LocalCloud.Provider.Lifecycle
import LocalCloud.Provider.ProvidedService
import LocalCloud.Provider.Router
import LocalCloud.Provider.Serve
import LocalCloud.Provider.Subscription
import LocalCloud.Provider.Wiring
import LocalCloud.Service
import LocalCloud.Summary.Access
import LocalCloud.Summary.Basic
import LocalCloud.Summary.Client
import LocalCloud.Summary.Message
import LocalCloud.Summary.Provider
import LocalCloud.Summary.Rule
import LocalCloud.System
import LocalCloud.Text.Ascii
import LocalCloud.Text.Case
import LocalCloud.Text.CaseTable
import LocalCloud.Text.Identifier
import LocalCloud.Text.Split
import LocalCloud.Text.Utf8
import LocalCloud.Text.Whitespace
import LocalCloud.TimeStamp
import LocalCloud.Token.Basic
import LocalCloud.Token.Bearer
import LocalCloud.Token.Claims
import LocalCloud.Token.Envelope
import LocalCloud.Token.Signature
import LocalCloud.Token.WebKey
import LocalCloud.Toml.Basic
import LocalCloud.Toml.Document
import LocalCloud.Toml.Lexeme
import LocalCloud.Toml.Scalar
import LocalCloud.Yaml.Cursor
import LocalCloud.Yaml.Node
import LocalCloud.Yaml.Property
import LocalCloud.Yaml.Scalar
import LocalCloud.Yaml.Schema
import LocalCloud.Yaml.Token
