import Endurox.Async.Conservation
import Endurox.Async.Routing
import Endurox.Async.Wakeup
import Endurox.Async.Buffers
import Endurox.Async.Spares
import Endurox.Async.Failures
import Endurox.Async.Priority
import Endurox.Async.BlockTime
import Endurox.Async.Backpressure
import Endurox.Async.Submission
import Endurox.Async.Timeouts
import Endurox.Script.Links
import Endurox.Script.Confinement
import Endurox.Script.Edits
import Endurox.Script.Callbacks
import Endurox.Typed.Initialised
import Endurox.Typed.Confinement
import Endurox.Typed.Exclusive
import Endurox.Server.Dispatch
import Endurox.Xatmi.Control
import Endurox.Xatmi.PolledCall
import Endurox.Ubf.Lines
import Endurox.Ubf.FastAdd
import Endurox.Ubf.Expressions
import Endurox.Ubf.Rows
import Endurox.Ubf.Limits
import Endurox.Ubf.Scopes
import Endurox.Ubf.Groups
import Endurox.Typed.Endings
import Endurox.Typed.Settled
import Endurox.Server.Lifecycle
import Endurox.View.Overwriting
import Endurox.View.Outcome
import Endurox.Derive.Rows
import Endurox.Derive.Views
