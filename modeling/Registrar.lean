import Registrar.Abi.Codec
import Registrar.Abi.Interface
import Registrar.Abi.Param
import Registrar.Abi.Type
import Registrar.Abi.Value
import Registrar.Address
import Registrar.Assoc
import Registrar.Builtin
import Registrar.Builtin.Arguments
import Registrar.Builtin.Chain
import Registrar.Builtin.Keys
import Registrar.Bytes
import Registrar.Cache
import Registrar.Chain
import Registrar.Coding
import Registrar.CommandLine.Arguments
import Registrar.CommandLine.EnvironmentFile
import Registrar.CommandLine.Help
import Registrar.CommandLine.LogFormat
import Registrar.CommandLine.Run
import Registrar.Contract
import Registrar.Conversion
import Registrar.Conversion.Error
import Registrar.Conversion.Integer
import Registrar.Crypto.Aes
import Registrar.Crypto.Hmac
import Registrar.Crypto.Keccak
import Registrar.Crypto.KeyDerivation
import Registrar.Crypto.Secp256k1
import Registrar.Crypto.Sha256
import Registrar.Decimal
import Registrar.Domain
import Registrar.Domain.Composition
import Registrar.Domain.Direction
import Registrar.Domain.Joining
import Registrar.Domain.Mapping
import Registrar.Domain.Mark
import Registrar.Domain.Punycode
import Registrar.Double
import Registrar.Double.Notation
import Registrar.Error
import Registrar.Files
import Registrar.Hex
import Registrar.Interaction
import Registrar.Json.Basic
import Registrar.Json.Members
import Registrar.Json.Number
import Registrar.Json.Reader
import Registrar.Json.Writer
import Registrar.Key
import Registrar.Key.Invocation
import Registrar.Keystore
import Registrar.Kind
import Registrar.Main
import Registrar.Power
import Registrar.Proofs.Answering
import Registrar.Proofs.Arguments
import Registrar.Proofs.Codec
import Registrar.Proofs.Codec.Text
import Registrar.Proofs.Coding
import Registrar.Proofs.Conduct
import Registrar.Proofs.Conduct.Builtin
import Registrar.Proofs.Conduct.Invariant
import Registrar.Proofs.Conduct.Load
import Registrar.Proofs.Conduct.Operation
import Registrar.Proofs.Conduct.Reading
import Registrar.Proofs.Decimal
import Registrar.Proofs.Delegation
import Registrar.Proofs.Destination
import Registrar.Proofs.Discretion
import Registrar.Proofs.Discretion.Builtin
import Registrar.Proofs.Discretion.Call
import Registrar.Proofs.Discretion.Load
import Registrar.Proofs.Document
import Registrar.Proofs.Document.Number
import Registrar.Proofs.Document.Numeral
import Registrar.Proofs.Document.Order
import Registrar.Proofs.Document.Text
import Registrar.Proofs.Entry
import Registrar.Proofs.Establishment
import Registrar.Proofs.Exchange
import Registrar.Proofs.Execution
import Registrar.Proofs.Expiry
import Registrar.Proofs.Failure
import Registrar.Proofs.Fitting
import Registrar.Proofs.Flattening
import Registrar.Proofs.Grammar
import Registrar.Proofs.Grammar.Word
import Registrar.Proofs.Inquiry
import Registrar.Proofs.Insertion
import Registrar.Proofs.Latest
import Registrar.Proofs.Leaves
import Registrar.Proofs.Listing
import Registrar.Proofs.Literal
import Registrar.Proofs.Matching
import Registrar.Proofs.Memory
import Registrar.Proofs.Message
import Registrar.Proofs.Message.Builtin
import Registrar.Proofs.Message.Session
import Registrar.Proofs.Namespace
import Registrar.Proofs.Nesting
import Registrar.Proofs.Number
import Registrar.Proofs.Number.Address
import Registrar.Proofs.Numeral
import Registrar.Proofs.Packaging
import Registrar.Proofs.Padding
import Registrar.Proofs.Pairing
import Registrar.Proofs.Part
import Registrar.Proofs.Point
import Registrar.Proofs.Projection
import Registrar.Proofs.Provenance
import Registrar.Proofs.Reconversion
import Registrar.Proofs.Repetition
import Registrar.Proofs.Resolution
import Registrar.Proofs.Retention
import Registrar.Proofs.Run
import Registrar.Proofs.Seeding
import Registrar.Proofs.Separation
import Registrar.Proofs.Separation.Comma
import Registrar.Proofs.Signature
import Registrar.Proofs.Storage
import Registrar.Proofs.Submission
import Registrar.Proofs.Termination
import Registrar.Proofs.Verbatim
import Registrar.Proofs.Violation
import Registrar.Repository
import Registrar.Rlp
import Registrar.Rpc
import Registrar.Rpc.Client
import Registrar.Rpc.Message
import Registrar.Rpc.Reading
import Registrar.Rpc.Submission
import Registrar.Session
import Registrar.Session.Binding
import Registrar.Session.Call
import Registrar.Session.Load
import Registrar.Session.Operation
import Registrar.Settings
import Registrar.Settings.Layer
import Registrar.Settings.Literal
import Registrar.Signing
import Registrar.SortedMap
import Registrar.Spec.Basic
import Registrar.Spec.Document
import Registrar.Spec.Error
import Registrar.Spec.Validation
import Registrar.Text.Alphanumeric
import Registrar.Text.Blank
import Registrar.Text.CharTable
import Registrar.Text.Cut
import Registrar.Text.Utf8
import Registrar.Transaction
import Registrar.Transaction.Envelope
import Registrar.Transform
import Registrar.Url
import Registrar.Url.Authority
import Registrar.Url.Host
import Registrar.Url.Path
import Registrar.Url.Percent
import Registrar.Url.Scheme
import Registrar.Value
import Registrar.Value.Document
import Registrar.Wallet
import Registrar.World
