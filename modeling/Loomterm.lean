import Loomterm.Misc.System
import Loomterm.Executor.Barrier
import Loomterm.Executor.Base
import Loomterm.Executor.History
import Loomterm.Executor.Spawn
import Loomterm.Executor.Pipeline
import Loomterm.Executor.Output
import Loomterm.Executor.Retention
import Loomterm.Executor.Frames
import Loomterm.Executor.Lossless
import Loomterm.Store.Ageing
import Loomterm.Misc.Budget
import Loomterm.Store.Paging
import Loomterm.Mcp.Tools
import Loomterm.Mcp.Paging
import Loomterm.Mcp.Client
import Loomterm.Mcp.Text
import Loomterm.Daemon.Lock
import Loomterm.Store.Workspaces
import Loomterm.Mcp.Isolation
import Loomterm.Misc.Path
import Loomterm.Store.Sessions
import Loomterm.Store.Links
import Loomterm.Store.Commands
import Loomterm.Daemon.Artifacts
import Loomterm.Misc.Replace
import Loomterm.Session.Redaction
import Loomterm.Session.Detail
import Loomterm.Misc.Slice
import Loomterm.Session.Stream
import Loomterm.Session.StreamBytes
import Loomterm.Misc.Utf8Scan
import Loomterm.Session.Recorder
import Loomterm.Ui.Pane
import Loomterm.Ui.Watch
import Loomterm.Ui.Operator
import Loomterm.Ui.Loop
import Loomterm.Ui.Dialogs
import Loomterm.Executor.Wait
import Loomterm.Executor.Concurrency
import Loomterm.Supervisor.Process
import Loomterm.Supervisor.Protocol
import Loomterm.Supervisor.Signals
import Loomterm.Misc.Atomic
import Loomterm.Store.Atomicity
import Loomterm.Session.Hook
import Loomterm.Session.HookCommand
import Loomterm.Misc.Render
import Loomterm.Daemon.Responses
import Loomterm.Supervisor.Escalation
import Loomterm.Daemon.Cursors
import Loomterm.Store.Hooks
import Loomterm.Store.SessionLifecycle
import Loomterm.Store.Attribution
import Loomterm.Store.Reordering
import Loomterm.Store.Pruning
import Loomterm.Misc.Migration
import Loomterm.Store.Schema
import Loomterm.Misc.Aggregate
import Loomterm.Store.Statistics
import Loomterm.Misc.Lines
import Loomterm.Misc.Nesting
import Loomterm.Session.Crash
import Loomterm.Misc.JsonEdit
import Loomterm.Onboarding
import Loomterm.InitPlan
import Loomterm.InitPlan.Resuming
import Loomterm.Mcp.Exactness
import Loomterm.Misc.Shell
import Loomterm.Quoting
import Loomterm.Misc.Greatest
import Loomterm.Project
import Loomterm.Ui.Retention
import Loomterm.Session.Handoff
import Loomterm.Executor.Handles
import Loomterm.Executor.Cancellation
import Loomterm.Daemon.Subscription
import Loomterm.Daemon.Streaming
import Loomterm.Misc.Codec
import Loomterm.Misc.Base64
import Loomterm.Daemon.Wire
import Loomterm.Daemon.RoundTrip
import Loomterm.Daemon.Connection
import Loomterm.Daemon.Calls
import Loomterm.Misc.Flock
import Loomterm.Misc.Edits
import Loomterm.Session.Ownership
import Loomterm.Session.LockSafety
import Loomterm.Session.Reconciling
