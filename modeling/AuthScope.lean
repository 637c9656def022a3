import AuthScope.Foundation.EffectLog
import AuthScope.Foundation.ByteText
import AuthScope.Foundation.Base64Url
import AuthScope.Foundation.ByteStream
import AuthScope.Foundation.CompactJson
import AuthScope.Foundation.JsonPrefix
import AuthScope.Foundation.Triple
import AuthScope.Foundation.Ledger
import AuthScope.Foundation.StateMachine
import AuthScope.Foundation.StringMap
import AuthScope.Foundation.Records
import AuthScope.Foundation.Calendar
import AuthScope.Foundation.ObjectIdentifier
import AuthScope.Proto.Messages
import AuthScope.Proto.Codec
import AuthScope.Proto.JsonForms
import AuthScope.Proto.Framing
import AuthScope.Proto.FrameLimit
import AuthScope.Proto.PartialFrames
import AuthScope.Libraries
import AuthScope.Reference.Certificates
import AuthScope.Reference.Instance
import AuthScope.Ca.Authority
import AuthScope.Ca.Jwt
import AuthScope.Ca.Signing
import AuthScope.Ca.Validity
import AuthScope.Ca.History
import AuthScope.Evaluator.Grants
import AuthScope.Evaluator.Rust
import AuthScope.Evaluator.Go
import AuthScope.Evaluator.OctetString
import AuthScope.Evaluator.Issued
import AuthScope.Reference.Scenario
import AuthScope.Reference.Sizes
import AuthScope.Evaluator.Decisions
import AuthScope.Evaluator.Readability
import AuthScope.Evaluator.Authenticity
import AuthScope.Evaluator.Agreement
import AuthScope.Evaluator.Expiry
import AuthScope.Evaluator.HostileInput
import AuthScope.Evaluator.Wrapping
import AuthScope.Evaluator.MethodGrants
import AuthScope.Server.Policy
import AuthScope.Server.Handler
import AuthScope.Server.Replies
import AuthScope.Server.Listener
import AuthScope.Server.Issuance
import AuthScope.Server.SingleResponse
import AuthScope.Server.SubjectName
import AuthScope.Server.PolicyPrivacy
import AuthScope.Server.GuestIdentity
import AuthScope.Server.ValidityRange
import AuthScope.Foundation.FileSystem
import AuthScope.Agent.Store
import AuthScope.Agent.OctalMode
import AuthScope.Agent.StoreFailure
import AuthScope.Agent.Client
import AuthScope.Agent.Loop
import AuthScope.Agent.OwnFiles
import AuthScope.Agent.Sockets
import AuthScope.Config.Documents
import AuthScope.Ca.Storage
import AuthScope.Ca.InitFailure
import AuthScope.Evaluator.LoadedAuthority
import AuthScope.Ca.StoredAuthority
import AuthScope.Agent.KeyExposure
import AuthScope.Network.Machine
import AuthScope.Network.Exchange
import AuthScope.Network.Credentials
import AuthScope.Network.Separation
import AuthScope.Network.Policy
import AuthScope.Foundation.Interleaving
import AuthScope.Server.Isolation
import AuthScope.Config.RoundTrip
import AuthScope.Server.Main
import AuthScope.Server.Lives
import AuthScope.Server.Rotation
import AuthScope.Network.Liveness
import AuthScope.Foundation.JsonPrintable
import AuthScope.Proto.Splices
import AuthScope.Server.Received
import AuthScope.Agent.Main
import AuthScope.Agent.Renewals
import AuthScope.Foundation.Joining
import AuthScope.Evaluator.Comparison
import AuthScope.Agent.Interruption
