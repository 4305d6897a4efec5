import TraceLink.Bridge.Entry
import TraceLink.Channel.ReturnFrame
import TraceLink.Machine.CallText
import TraceLink.Storage.Record
import TraceLink.Proofs.Course
import TraceLink.Proofs.Course.Environment
import TraceLink.Proofs.Course.Attachment
import TraceLink.Proofs.Course.Operation
import TraceLink.Proofs.Life
import TraceLink.Proofs.Coherence
import TraceLink.Proofs.Custody
import TraceLink.Proofs.Lifetimes
import TraceLink.Proofs.Feature
import TraceLink.Proofs.SamplingState
import TraceLink.Proofs.HandlerState
import TraceLink.Proofs.Channel.Delivery
import TraceLink.Proofs.Teardown
import TraceLink.Proofs.Initialization
import TraceLink.Proofs.Stack.Capture
import TraceLink.Proofs.Bridge.Settlement
import TraceLink.Proofs.Bridge.Reporting
import TraceLink.Proofs.Bridge.Mirror
import TraceLink.Proofs.Sides
import TraceLink.Proofs.SwitchedOff
import TraceLink.Proofs.Discovery
import TraceLink.Proofs.Past
import TraceLink.Proofs.Reinitialization
import TraceLink.Proofs.Storage.Publication
import TraceLink.Proofs.OptionReading
import TraceLink.Proofs.Channel.Lifespan
import TraceLink.Proofs.Bridge.Configuration
import TraceLink.Proofs.Bridge.Upcalls
import TraceLink.Proofs.Uninitialized
import TraceLink.Proofs.Storage.ReadBack
import TraceLink.Proofs.Channel.Remainder
import TraceLink.Proofs.Channel.Reads
import TraceLink.Proofs.Channel.RoundTrip
import TraceLink.Proofs.OptionListing
import TraceLink.Proofs.Bridge.ChannelPath
import TraceLink.Proofs.Storage.Extent
import TraceLink.Proofs.SamplingSteps
import TraceLink.Proofs.SupportCheck
import TraceLink.Proofs.Bridge.Linking
import TraceLink.Proofs.Stack.Ends
import TraceLink.Proofs.Stack.MethodText
import TraceLink.Proofs.Stack.Decoding
import TraceLink.Proofs.Bridge.ArrayCapture
import TraceLink.Proofs.Machine.TableCopy
import TraceLink.Proofs.TransitionSearch
import TraceLink.Proofs.CapabilityBits
