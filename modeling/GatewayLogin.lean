import GatewayLogin.Client.Rehearsal
import GatewayLogin.Fault.Record
import GatewayLogin.Link.Stream
import GatewayLogin.Link.WebSocket
import GatewayLogin.Logging
import GatewayLogin.Session.Describe
import GatewayLogin.Session.Host
import GatewayLogin.Settings.Document
import GatewayLogin.Settings.Environment
import GatewayLogin.Wire.Script
import GatewayLogin.Proofs.Client.Closing
import GatewayLogin.Proofs.Client.Conclusion
import GatewayLogin.Proofs.Client.Isolation
import GatewayLogin.Proofs.Client.Stream
import GatewayLogin.Proofs.Client.Token
import GatewayLogin.Proofs.Compatibility
import GatewayLogin.Proofs.Framing.Carried
import GatewayLogin.Proofs.Framing.Chunks
import GatewayLogin.Proofs.Framing.Offsets
import GatewayLogin.Proofs.Framing.RoundTrip
import GatewayLogin.Proofs.Framing.Tail
import GatewayLogin.Proofs.Link.Stream
import GatewayLogin.Proofs.Outbox.Channel
import GatewayLogin.Proofs.Packet.Fields
import GatewayLogin.Proofs.Packet.RoundTrip
import GatewayLogin.Proofs.Packet.Truncation
import GatewayLogin.Proofs.Session.Alike
import GatewayLogin.Proofs.Session.Attempts
import GatewayLogin.Proofs.Session.Awaited
import GatewayLogin.Proofs.Session.Connections
import GatewayLogin.Proofs.Session.Counters
import GatewayLogin.Proofs.Session.Custody
import GatewayLogin.Proofs.Session.Echo
import GatewayLogin.Proofs.Session.Identity
import GatewayLogin.Proofs.Session.Judgement
import GatewayLogin.Proofs.Session.Losses
import GatewayLogin.Proofs.Session.Notices
import GatewayLogin.Proofs.Session.Phase
import GatewayLogin.Proofs.Session.Reachable
import GatewayLogin.Proofs.Session.Request
import GatewayLogin.Proofs.Session.Retry
import GatewayLogin.Proofs.Session.Token
import GatewayLogin.Proofs.Session.Told
import GatewayLogin.Proofs.Session.Unsent
import GatewayLogin.Proofs.Settings.Document
import GatewayLogin.Proofs.Settings.Ranges
import GatewayLogin.Proofs.SignInRequest.RoundTrip
import GatewayLogin.Proofs.Text.Lossy
import GatewayLogin.Proofs.Text.Utf8
import GatewayLogin.Proofs.Toml.Document
import GatewayLogin.Proofs.Toml.Number
import GatewayLogin.Proofs.Toml.Text
import GatewayLogin.Proofs.Wire.Cut
import GatewayLogin.Proofs.Wire.Digits
import GatewayLogin.Proofs.Wire.Field
import GatewayLogin.Proofs.Wire.Local
import GatewayLogin.Proofs.Wire.Message
import GatewayLogin.Proofs.Wire.Offsets
import GatewayLogin.Proofs.Wire.Script
