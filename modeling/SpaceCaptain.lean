import SpaceCaptain.Library.Reach
import SpaceCaptain.Library.Rounds
import SpaceCaptain.Library.Ring
import SpaceCaptain.Library.Ownership
import SpaceCaptain.Library.Census
import SpaceCaptain.Library.Heap
import SpaceCaptain.Library.Chain
import SpaceCaptain.Library.Lifetime
import SpaceCaptain.Library.Trace
import SpaceCaptain.Library.Monitor
import SpaceCaptain.Library.Observer
import SpaceCaptain.Library.Outbox
import SpaceCaptain.Library.Word
import SpaceCaptain.Library.Simulation
import SpaceCaptain.Library.Resource
import SpaceCaptain.Library.Undo
import SpaceCaptain.Queue.Generic
import SpaceCaptain.Queue.Buffer
import SpaceCaptain.Queue.Fifo
import SpaceCaptain.Queue.Cleanup
import SpaceCaptain.Queue.Portability
import SpaceCaptain.Queue.Threads
import SpaceCaptain.Queue.Moves
import SpaceCaptain.Queue.Locks
import SpaceCaptain.Queue.History
import SpaceCaptain.Queue.Wakeup
import SpaceCaptain.Queue.Expiry
import SpaceCaptain.Queue.Deadlines
import SpaceCaptain.Queue.Machine
import SpaceCaptain.Queue.Discipline
import SpaceCaptain.Queue.Nuke
import SpaceCaptain.Queue.Errno
import SpaceCaptain.Queue.Atomic
import SpaceCaptain.Queue.Progress
import SpaceCaptain.Queue.Lifecycle
import SpaceCaptain.Dtls.Socket
import SpaceCaptain.Dtls.Session
import SpaceCaptain.Dtls.Pinning
import SpaceCaptain.Dtls.Engine
import SpaceCaptain.Dtls.Intake
import SpaceCaptain.Dtls.Backlog
import SpaceCaptain.Dtls.Reading
import SpaceCaptain.Dtls.Lifecycle
import SpaceCaptain.Dtls.Fingerprint
import SpaceCaptain.Server.Message
import SpaceCaptain.Server.Registry
import SpaceCaptain.Server.Sweep
import SpaceCaptain.Server.Intact
import SpaceCaptain.Server.Main
import SpaceCaptain.Server.Moves
import SpaceCaptain.Server.Reply
import SpaceCaptain.Server.Sessions
import SpaceCaptain.Server.Blocking
import SpaceCaptain.Server.Integrity
import SpaceCaptain.Server.Delivery
import SpaceCaptain.Server.Demux
import SpaceCaptain.Server.Timeouts
import SpaceCaptain.Server.Inactivity
import SpaceCaptain.Server.Cookies
import SpaceCaptain.Server.Draining
import SpaceCaptain.Server.Records
import SpaceCaptain.Server.Backpressure
import SpaceCaptain.Server.Typestate
import SpaceCaptain.Server.Termination
import SpaceCaptain.Server.Forgery
import SpaceCaptain.Server.Account
import SpaceCaptain.Server.Process
import SpaceCaptain.Server.Portable
import SpaceCaptain.Server.Causes
import SpaceCaptain.Server.Shutdown
import SpaceCaptain.Server.Directory
import SpaceCaptain.Server.Echo
import SpaceCaptain.Server.Alone
