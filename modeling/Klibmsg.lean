import Klibmsg.Library.StepSystem
import Klibmsg.Library.Bytes
import Klibmsg.Library.QueueFamily
import Klibmsg.Library.LinkedChain
import Klibmsg.Socket.Steps
import Klibmsg.Socket.Inert
import Klibmsg.Device.Steps
import Klibmsg.Device.Callbacks
import Klibmsg.Device.Process
import Klibmsg.Device.Deletion
import Klibmsg.Device.RemoteRead
import Klibmsg.Runtime
import Klibmsg.Runtime.Delivery
import Klibmsg.Socket.Cancel
import Klibmsg.Socket.Broken
import Klibmsg.Worker.Queue
import Klibmsg.Worker.Routine
import Klibmsg.Library.CondVar
import Klibmsg.Channel.Waiting
import Klibmsg.Socket.Frame
import Klibmsg.Socket.Offsets
import Klibmsg.Socket.Payload
import Klibmsg.Socket.Effects
import Klibmsg.Socket.Connecting
import Klibmsg.Socket.Cells
import Klibmsg.Socket.LifeView
import Klibmsg.Socket.Descriptors
import Klibmsg.Socket.Lifecycle
import Klibmsg.Runtime.Sockets
import Klibmsg.Device.Routing
import Klibmsg.Device.Sending
import Klibmsg.Socket.Calls
import Klibmsg.Socket.TaskView
import Klibmsg.Runtime.Backlog
import Klibmsg.Socket.Polls
import Klibmsg.Runtime.Stopping
import Klibmsg.Runtime.Completion
import Klibmsg.Poller.Batch
import Klibmsg.Poller.Reading
import Klibmsg.Poller.Interest
import Klibmsg.Worker.Queues
import Klibmsg.Context.Draining
import Klibmsg.Worker.Cancel
import Klibmsg.Socket.Region
import Klibmsg.Socket.Interrupted
import Klibmsg.Library.Framing
import Klibmsg.Socket.Stream
import Klibmsg.Device.Producers
import Klibmsg.Socket.Outcome
import Klibmsg.Socket.Connection
import Klibmsg.Socket.Decision
import Klibmsg.Socket.Duplex
import Klibmsg.Socket.Progress
import Klibmsg.Device.CompletionQueue
import Klibmsg.Runtime.Locks
import Klibmsg.Runtime.Transfers
import Klibmsg.Runtime.Following
import Klibmsg.Runtime.Linking
import Klibmsg.Runtime.Wakeups
import Klibmsg.Socket.Alignment
import Klibmsg.Runtime.Reconnecting
