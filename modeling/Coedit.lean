import Coedit.CommandLine.EventText
import Coedit.CommandLine.Instruction
import Coedit.CommandLine.Program
import Coedit.CommandLine.Shell
import Coedit.CommandLine.Transcript
import Coedit.Config.Basic
import Coedit.Config.Expansion
import Coedit.Config.Storage
import Coedit.Config.Text
import Coedit.Content
import Coedit.Decimal.Binary
import Coedit.Decimal.Reading
import Coedit.Decimal.Shortest
import Coedit.Dict
import Coedit.Document.Basic
import Coedit.Document.Builder
import Coedit.Document.Geometry
import Coedit.Document.Plain
import Coedit.Document.StyleGraph
import Coedit.Editor.Chrome
import Coedit.Editor.Error
import Coedit.Editor.Event
import Coedit.Editor.Lifecycle
import Coedit.Engine.Basic
import Coedit.Engine.Error
import Coedit.Engine.Event
import Coedit.Engine.Query
import Coedit.Engine.Replica
import Coedit.Feature
import Coedit.FileTree
import Coedit.Font
import Coedit.Identifier
import Coedit.Member
import Coedit.Operation.Basic
import Coedit.Proofs.Dict
import Coedit.Proofs.Engine.Styles
import Coedit.Proofs.Identifier
import Coedit.Proofs.Session.Proposals
import Coedit.Proofs.Workspace.Agenda
import Coedit.Proofs.Workspace.Attempt
import Coedit.Proofs.Workspace.Deliveries
import Coedit.Proofs.Workspace.Nesting
import Coedit.Proofs.Workspace.Numbers
import Coedit.Proofs.Workspace.Potential
import Coedit.Proofs.Workspace.Queue
import Coedit.Session.Basic
import Coedit.Session.Edit
import Coedit.Session.Error
import Coedit.Session.Event
import Coedit.Session.Reaction
import Coedit.Session.Tracker
import Coedit.Signal.Bus
import Coedit.Signal.Observer
import Coedit.Signal.Script
import Coedit.Style
import Coedit.Teardown
import Coedit.Text.Alphanumeric
import Coedit.Text.Blank
import Coedit.Text.Lines
import Coedit.Text.Quoted
import Coedit.Text.Ranges
import Coedit.Text.Unprintable
import Coedit.Toml.Document
import Coedit.Toml.Quoted
import Coedit.Toml.Scalar
import Coedit.Toml.Table
import Coedit.Undo.Basic
import Coedit.Undo.Watched
import Coedit.Wire.Config
import Coedit.Wire.Content
import Coedit.Wire.Member
import Coedit.Wire.Operation
import Coedit.Wire.Options
import Coedit.Wire.Style
import Coedit.Wire.Value
import Coedit.Workspace.Basic
import Coedit.Workspace.Command
import Coedit.Workspace.Delivery
import Coedit.Workspace.Editors
import Coedit.Workspace.Execution
import Coedit.Workspace.Reply
import Coedit.Workspace.Sessions
import Coedit.Main
import Coedit.Proofs.Session.Reservation
import Coedit.Proofs.Session.Clones
import Coedit.Proofs.Session.Following
import Coedit.Proofs.Engine.Paragraphs
import Coedit.Proofs.Session.Creation
import Coedit.Proofs.Session.Tracking
import Coedit.Proofs.Session.Staleness
import Coedit.Proofs.Editor.Ownership
import Coedit.Proofs.Editor.Undisturbed
import Coedit.Proofs.Editor.Stages
import Coedit.Proofs.Editor.Opening
import Coedit.Proofs.Editor.Closing
import Coedit.Proofs.Editor.Runs
import Coedit.Proofs.Codec
import Coedit.Proofs.Engine.Geometry
import Coedit.Proofs.Session.Position
import Coedit.Proofs.Engine.ChangeLog
import Coedit.Proofs.Workspace.Hearing
import Coedit.Proofs.Workspace.Chronicle
import Coedit.Proofs.Editor.Proceeding
import Coedit.Proofs.Editor.Partners
import Coedit.Proofs.Editor.Leaving
import Coedit.Proofs.Editor.Release
import Coedit.Proofs.Editor.Departure
import Coedit.Proofs.Editor.Entering
import Coedit.Proofs.Editor.Works
import Coedit.Proofs.Editor.Tally
import Coedit.Proofs.Editor.Completion
import Coedit.Proofs.Workspace.Timing
import Coedit.Proofs.Session.Members
import Coedit.Proofs.Workspace.Order
import Coedit.Proofs.Editor.FailedOpening
import Coedit.Proofs.Editor.DeadEnds
import Coedit.Proofs.Editor.Unsaved
import Coedit.Proofs.Signal.Emission
import Coedit.Proofs.Signal.Renumbering
import Coedit.Proofs.Workspace.Twins
import Coedit.Proofs.Session.TwinSessions
import Coedit.Proofs.Editor.TwinEditors
import Coedit.Proofs.Workspace.Echoes
import Coedit.Proofs.Editor.Reopening
import Coedit.Proofs.Session.Outcome
import Coedit.Proofs.Workspace.Presence
import Coedit.Proofs.Session.Occasions
import Coedit.Proofs.Session.Promises
import Coedit.Proofs.Session.Relay
import Coedit.Proofs.Session.Overhearing
import Coedit.Proofs.Teardown
import Coedit.Proofs.Editor.Enrolment
import Coedit.Proofs.Editor.Upkeep
import Coedit.Proofs.Editor.Periods
import Coedit.Proofs.Editor.ModifiedNews
import Coedit.Proofs.Session.Indifference
import Coedit.Proofs.Editor.Indifference
import Coedit.Proofs.Workspace.Indifference
import Coedit.Proofs.Session.Reactions
import Coedit.Proofs.Session.Silence
import Coedit.Proofs.Wire.Operations
import Coedit.Proofs.Session.Restyling
import Coedit.Proofs.Toml.Settings
import Coedit.Proofs.Config.Text
import Coedit.Proofs.FileTree
import Coedit.Proofs.Config.Stability
import Coedit.Proofs.CommandLine.Attendance
import Coedit.Proofs.CommandLine.Lines
import Coedit.Proofs.CommandLine.Scripts
import Coedit.Proofs.Engine.Inheritance
import Coedit.Proofs.Engine.Removal
import Coedit.Proofs.Session.Copies
import Coedit.Proofs.Engine.Partition
import Coedit.Proofs.Document.Plain
import Coedit.Proofs.Session.Observations
import Coedit.Proofs.Engine.Resolution
import Coedit.Proofs.Font.Families
import Coedit.Proofs.Font.Declared
import Coedit.Proofs.Signal.Identity
import Coedit.Proofs.Undo.Listeners
