import Ustunet.Lib.Run
import Ustunet.Lib.Refine
import Ustunet.Lib.Flow
import Ustunet.Lib.Follow
import Ustunet.Time
import Ustunet.Net
import Ustunet.Tcp
import Ustunet.PollQueue
import Ustunet.Deadlines
import Ustunet.Connection
import Ustunet.Stream
import Ustunet.World
import Ustunet.Selector
import Ustunet.IoLoop
import Ustunet.Selection
import Ustunet.Steps
import Ustunet.Events
import Ustunet.LoopSteps
import Ustunet.LoopInvariant
import Ustunet.ConnectionTheorems
import Ustunet.Smoltcp
import Ustunet.Reference
import Ustunet.ReferenceWindow
import Ustunet.ReferenceBytes
import Ustunet.Ownership
import Ustunet.Accepting
import Ustunet.PairSteps
import Ustunet.Scheduling
import Ustunet.Expiry
import Ustunet.WindowUpdates
import Ustunet.Removal
import Ustunet.Wakeups
import Ustunet.EndOfStream
import Ustunet.DeviceFailure
import Ustunet.Replies
import Ustunet.Demultiplexing
import Ustunet.Rejection
import Ustunet.Listener
import Ustunet.Solo
import Ustunet.Projection
import Ustunet.Bytes
import Ustunet.Waking
import Ustunet.Lifecycle
import Ustunet.Ingress
import Ustunet.Egress
import Ustunet.Progress
import Ustunet.Echo
import Ustunet.Timers
