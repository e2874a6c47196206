import Negotiation.BuildInfo
import Negotiation.Connection.Scripted
import Negotiation.Feature.Registry
import Negotiation.Handshake
import Negotiation.Reply
import Negotiation.Proofs.Rank
import Negotiation.Proofs.VersionOrder
import Negotiation.Proofs.ConversationRuns
import Negotiation.Proofs.AuthenticationRuns
import Negotiation.Proofs.DigitRuns
import Negotiation.Proofs.VersionText
import Negotiation.Proofs.BuildText
import Negotiation.Proofs.ParserAgreement
import Negotiation.Proofs.BuildOrder
import Negotiation.Proofs.Keys
import Negotiation.Proofs.WireFields
import Negotiation.Proofs.HandshakeRuns
import Negotiation.Proofs.NonceUse
import Negotiation.Proofs.Secrecy
import Negotiation.Proofs.ServerAgreement
import Negotiation.Proofs.ByteOrder
import Negotiation.Proofs.NameTables
import Negotiation.Proofs.Registrations
import Negotiation.Proofs.FeatureDecisions
import Negotiation.Proofs.RoundTrip
import Negotiation.Proofs.BuildLanguage
import Negotiation.Proofs.ReleaseGates
import Negotiation.Proofs.TypedFields
import Negotiation.Proofs.Refusals
import Negotiation.Proofs.NumberValues
import Negotiation.Proofs.HelloAnnotations
import Negotiation.Proofs.VersionLookup
import Negotiation.Proofs.CheckedNumbers
import Negotiation.Proofs.ClientSetup
import Negotiation.Proofs.ReportedEvents
import Negotiation.Proofs.SourceDefaults
