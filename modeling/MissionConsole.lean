import MissionConsole.Audit.LogFile
import MissionConsole.Audit.Queue
import MissionConsole.Event.Form
import MissionConsole.Json.Parser
import MissionConsole.Launch.Plan
import MissionConsole.Local
import MissionConsole.Main
import MissionConsole.Overlay
import MissionConsole.Remote.Connection
import MissionConsole.Remote.Listener
import MissionConsole.Web.Browser
import MissionConsole.Web.EventStream
import MissionConsole.Web.SessionTable
import MissionConsole.Proofs.Filesystem.Outline
import MissionConsole.Proofs.Command.Footprint
import MissionConsole.Proofs.Dispatch.Step
import MissionConsole.Proofs.Dispatch.Run
import MissionConsole.Proofs.Access.Root
import MissionConsole.Proofs.Access.Password
import MissionConsole.Proofs.Access.Restricted
import MissionConsole.Proofs.Access.Lockout
import MissionConsole.Proofs.Web.Request
import MissionConsole.Proofs.Web.Eviction
import MissionConsole.Proofs.Dispatch.Emission
import MissionConsole.Proofs.Overlay.Submission
import MissionConsole.Proofs.Web.Table
import MissionConsole.Proofs.Web.Fate
import MissionConsole.Proofs.Web.Lifecycle
import MissionConsole.Proofs.Dispatch.Failure
import MissionConsole.Proofs.Access.Gate
import MissionConsole.Proofs.Web.Expiry
import MissionConsole.Proofs.Web.Refusal
import MissionConsole.Proofs.Web.Precedence
import MissionConsole.Proofs.Command.Identity
import MissionConsole.Proofs.Dispatch.Identity
import MissionConsole.Proofs.Host.Shell
import MissionConsole.Proofs.Host.Lockstep
import MissionConsole.Proofs.Dispatch.Ending
import MissionConsole.Proofs.Dispatch.Accountability
import MissionConsole.Proofs.Text.Lowering
import MissionConsole.Proofs.Text.Words
import MissionConsole.Proofs.Text.Lines
import MissionConsole.Proofs.Dispatch.Riddle
import MissionConsole.Proofs.Web.Delivery
import MissionConsole.Proofs.Filesystem.Addition
import MissionConsole.Proofs.Host.Framing
import MissionConsole.Proofs.Host.Keys
import MissionConsole.Proofs.Host.Screen
import MissionConsole.Proofs.Host.Sequence
import MissionConsole.Proofs.Host.Encoded
import MissionConsole.Proofs.Host.Course
import MissionConsole.Proofs.Access.Wire
import MissionConsole.Proofs.Host.Leaving
import MissionConsole.Proofs.Host.Closing
import MissionConsole.Proofs.Overlay.Reopening
import MissionConsole.Proofs.Overlay.Transcript
import MissionConsole.Proofs.Access.Browsing
import MissionConsole.Proofs.Registry.Registration
import MissionConsole.Proofs.Registry.Tables
import MissionConsole.Proofs.Json.Escape
import MissionConsole.Proofs.Json.RoundTrip
import MissionConsole.Proofs.Audit.LogLine
import MissionConsole.Proofs.Filesystem.Tidy
import MissionConsole.Proofs.Filesystem.Construction
import MissionConsole.Proofs.Filesystem.Listing
import MissionConsole.Proofs.Filesystem.Documents
import MissionConsole.Proofs.Web.Stream
import MissionConsole.Proofs.Web.Silence
import MissionConsole.Proofs.Web.Exit
import MissionConsole.Proofs.Command.Standing
import MissionConsole.Proofs.Command.Orders
import MissionConsole.Proofs.Command.Regions
import MissionConsole.Proofs.Command.Companies
import MissionConsole.Proofs.Dispatch.Frame
import MissionConsole.Proofs.Overlay.History
import MissionConsole.Proofs.Overlay.Callback
import MissionConsole.Proofs.Text.Escapes
import MissionConsole.Proofs.Dispatch.Wording
import MissionConsole.Proofs.Host.Alphabet
import MissionConsole.Proofs.Host.Injection
import MissionConsole.Proofs.Path.Reduction
import MissionConsole.Proofs.Path.Resolution
import MissionConsole.Proofs.Event.RoundTrip
import MissionConsole.Proofs.Path.Order
import MissionConsole.Proofs.Path.Split
import MissionConsole.Proofs.Audit.Newest
