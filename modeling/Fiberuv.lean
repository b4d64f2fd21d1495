import Fiberuv.Foundation.Agenda
import Fiberuv.Foundation.Census
import Fiberuv.Foundation.Custody
import Fiberuv.Foundation.Decision
import Fiberuv.Foundation.Framing
import Fiberuv.Foundation.Linearizing
import Fiberuv.Foundation.Machine
import Fiberuv.Foundation.Operation
import Fiberuv.Foundation.Outbox
import Fiberuv.Foundation.Ownership
import Fiberuv.Foundation.Records
import Fiberuv.Foundation.Regions
import Fiberuv.Foundation.Register
import Fiberuv.Foundation.Rendezvous
import Fiberuv.Foundation.RequestLog
import Fiberuv.Foundation.Tenure
import Fiberuv.Uv
import Fiberuv.EventLoop.BlockingJobs
import Fiberuv.EventLoop.Calls
import Fiberuv.EventLoop.CurrentLoop
import Fiberuv.EventLoop.Driver
import Fiberuv.EventLoop.HeapState
import Fiberuv.EventLoop.IdleExit
import Fiberuv.EventLoop.IdleTest
import Fiberuv.EventLoop.JobStages
import Fiberuv.EventLoop.LateCalls
import Fiberuv.EventLoop.Operations
import Fiberuv.EventLoop.Periodic
import Fiberuv.EventLoop.RunBlocking
import Fiberuv.EventLoop.Sleep
import Fiberuv.EventLoop.SleepOrder
import Fiberuv.EventLoop.Suspension
import Fiberuv.EventLoop.Teardown
import Fiberuv.EventLoop.Unhandled
import Fiberuv.EventLoop.WorkerWakeups
import Fiberuv.EventLoop.Workers
import Fiberuv.MessageQueue.Channel
import Fiberuv.MessageQueue.Delivery
import Fiberuv.MessageQueue.Effect
import Fiberuv.MessageQueue.Fifo
import Fiberuv.MessageQueue.Ledger
import Fiberuv.MessageQueue.Model
import Fiberuv.MessageQueue.Owners
import Fiberuv.MessageQueue.Wakeups
import Fiberuv.TaskScope.Counters
import Fiberuv.TaskScope.Fibers
import Fiberuv.TaskScope.JoinWakeup
import Fiberuv.TaskScope.Model
import Fiberuv.TaskScope.Outcome
import Fiberuv.TaskScope.Placement
import Fiberuv.TaskScope.StopRequests
import Fiberuv.TaskScope.TimedJoin
import Fiberuv.TaskScope.Tokens
import Fiberuv.Handles.Model
import Fiberuv.Handles.Overwriting
import Fiberuv.Handles.Sharing
import Fiberuv.Tcp.CloseEvents
import Fiberuv.Tcp.Connect
import Fiberuv.Tcp.ConnectOnce
import Fiberuv.Tcp.Connection
import Fiberuv.Tcp.EndToEnd
import Fiberuv.Tcp.Link
import Fiberuv.Tcp.ListenFailure
import Fiberuv.Tcp.Listening
import Fiberuv.Tcp.ReadStream
import Fiberuv.Tcp.Release
import Fiberuv.Tcp.Request
import Fiberuv.Tcp.Server
import Fiberuv.Tcp.ServerDelivery
import Fiberuv.Tcp.ServerSound
import Fiberuv.Tcp.Waiters
import Fiberuv.Udp.Closers
import Fiberuv.Udp.Closing
import Fiberuv.Udp.Datagrams
import Fiberuv.Udp.Receives
import Fiberuv.Udp.Socket
import Fiberuv.FileIo.Chain
import Fiberuv.FileIo.CleanEnd
import Fiberuv.FileIo.Disk
import Fiberuv.FileIo.RoundTrip
import Fiberuv.Io.Addressing
import Fiberuv.Io.FileClose
import Fiberuv.Io.FileCursor
import Fiberuv.Io.FileRequests
import Fiberuv.Io.Lengths
import Fiberuv.Io.Linearization
import Fiberuv.Io.NameDescriptors
import Fiberuv.Io.NameHistory
import Fiberuv.Io.NameLock
import Fiberuv.Io.Names
import Fiberuv.Io.OwnRegions
import Fiberuv.Io.Peer
import Fiberuv.Io.PollForms
import Fiberuv.Io.PollOutcome
import Fiberuv.Io.PollWait
import Fiberuv.Io.SharedFile
import Fiberuv.Io.Socket
import Fiberuv.Io.SocketClose
import Fiberuv.Io.Transfers
import Fiberuv.Io.WriteAt
import Fiberuv.Ipc.Alignment
import Fiberuv.Ipc.Channels
import Fiberuv.Ipc.ClosedRequests
import Fiberuv.Ipc.Closing
import Fiberuv.Ipc.Completion
import Fiberuv.Ipc.ConcurrentSend
import Fiberuv.Ipc.Descriptors
import Fiberuv.Ipc.Endpoint
import Fiberuv.Ipc.Grammar
import Fiberuv.Ipc.Pair
import Fiberuv.Ipc.RoundTrip
import Fiberuv.Ipc.ThreadPool
import Fiberuv.Ipc.Transfer
