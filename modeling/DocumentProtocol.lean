import DocumentProtocol.Error.Tagged
import DocumentProtocol.Main
import DocumentProtocol.Proofs.Document.RoundTrip
import DocumentProtocol.Proofs.Frame.Segmentation
import DocumentProtocol.Proofs.Message.Grammar
import DocumentProtocol.Proofs.Session.Conversation
import DocumentProtocol.Session.Client
import DocumentProtocol.Session.Dialogue
import DocumentProtocol.Session.Server
import DocumentProtocol.Startup
import DocumentProtocol.Proofs.Document.Survival
import DocumentProtocol.Proofs.Message.Encoding
import DocumentProtocol.Proofs.Session.Invocation
import DocumentProtocol.Proofs.Message.Delivery
import DocumentProtocol.Proofs.Responder.Fallback
import DocumentProtocol.Proofs.Session.Gate
import DocumentProtocol.Proofs.Message.Layout
import DocumentProtocol.Proofs.Message.Legacy
import DocumentProtocol.Proofs.Frame.Receiving
import DocumentProtocol.Proofs.Session.Ahead
import DocumentProtocol.Proofs.Session.Reading
import DocumentProtocol.Proofs.Session.Reception
import DocumentProtocol.Proofs.Session.Calling
import DocumentProtocol.Proofs.Session.Handling
import DocumentProtocol.Proofs.Session.Calls
import DocumentProtocol.Proofs.Message.Naming
import DocumentProtocol.Proofs.Session.Admission
import DocumentProtocol.Proofs.Session.Receipts
import DocumentProtocol.Proofs.Session.Life
import DocumentProtocol.Proofs.Session.Journal
import DocumentProtocol.Proofs.Session.Wire
import DocumentProtocol.Proofs.Session.Stopping
import DocumentProtocol.Proofs.Session.Traffic
import DocumentProtocol.Proofs.Session.Numbering
import DocumentProtocol.Proofs.Session.Isolation
import DocumentProtocol.Proofs.Session.Shadow
import DocumentProtocol.Proofs.Document.Canonical
import DocumentProtocol.Proofs.Session.Idleness
import DocumentProtocol.Proofs.Session.Drawing
import DocumentProtocol.Proofs.Checked.Message
import DocumentProtocol.Proofs.Document.Cut
import DocumentProtocol.Proofs.Document.Size
import DocumentProtocol.Proofs.Message.Checksum
import DocumentProtocol.Proofs.Session.Rejection
import DocumentProtocol.Proofs.Session.Merging
import DocumentProtocol.Proofs.Message.Surplus
import DocumentProtocol.Proofs.Message.Batch
import DocumentProtocol.Proofs.Message.Counted
import DocumentProtocol.Proofs.Frame.Whole
import DocumentProtocol.Proofs.Frame.Writing
import DocumentProtocol.Proofs.Session.Advertisement
import DocumentProtocol.Proofs.Session.Scrutiny
import DocumentProtocol.Proofs.Session.Unsent
import DocumentProtocol.Proofs.Config.Loading
import DocumentProtocol.Proofs.Session.Layouts
import DocumentProtocol.Proofs.Config.Saving
import DocumentProtocol.Proofs.Document.Number
import DocumentProtocol.Proofs.Responder.Truth
import DocumentProtocol.Proofs.Message.Walk
import DocumentProtocol.Proofs.Frame.Changing
import DocumentProtocol.Proofs.Session.Renumbering
import DocumentProtocol.Proofs.Session.Twins
import DocumentProtocol.Proofs.Session.Parallel
