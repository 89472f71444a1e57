import DuplexRpc.Event.Script
import DuplexRpc.Rehearsal.Session
import DuplexRpc.Proofs.Backoff.Jitter
import DuplexRpc.Proofs.Channel.Announcements
import DuplexRpc.Proofs.Channel.Inbound
import DuplexRpc.Proofs.Channel.Retries
import DuplexRpc.Proofs.Client.Closing
import DuplexRpc.Proofs.Client.Disconnecting
import DuplexRpc.Proofs.Client.Handles
import DuplexRpc.Proofs.Client.Metering
import DuplexRpc.Proofs.Client.Replies
import DuplexRpc.Proofs.Correlator.Accounting
import DuplexRpc.Proofs.Correlator.Deadlines
import DuplexRpc.Proofs.Correlator.Live
import DuplexRpc.Proofs.Correlator.Rejection
import DuplexRpc.Proofs.Correlator.Routing
import DuplexRpc.Proofs.Correlator.Verdict
import DuplexRpc.Proofs.Event.Dispatch
import DuplexRpc.Proofs.Telemetry.Installing
import DuplexRpc.Proofs.Wire.Acceptance
import DuplexRpc.Proofs.Wire.RoundTrip
import DuplexRpc.Proofs.Wire.Separation
import DuplexRpc.Proofs.Wire.Stability
