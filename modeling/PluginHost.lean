import PluginHost.Callback
import PluginHost.Config.Format
import PluginHost.Config.Load
import PluginHost.Config.Settings
import PluginHost.Config.Sources
import PluginHost.Config.View
import PluginHost.Console.Command
import PluginHost.Console.Execute
import PluginHost.Decimal.Shortest
import PluginHost.Dependency.Graph
import PluginHost.Dependency.Search
import PluginHost.Dependency.Walk
import PluginHost.Digest.Sha256
import PluginHost.Event
import PluginHost.FileSystem
import PluginHost.Host.Basic
import PluginHost.Host.Batch
import PluginHost.Host.Error
import PluginHost.Host.Operations
import PluginHost.Host.Result
import PluginHost.Host.Setup
import PluginHost.Host.Table
import PluginHost.Json.Draft
import PluginHost.Json.Printer
import PluginHost.Json.Value
import PluginHost.Language
import PluginHost.Log.Category
import PluginHost.Log.Record
import PluginHost.Main
import PluginHost.Metadata
import PluginHost.Outside.Shell.Builtin
import PluginHost.Outside.Shell.Command
import PluginHost.Outside.Shell.Condition
import PluginHost.Outside.Shell.Exit
import PluginHost.Outside.Shell.Expansion
import PluginHost.Outside.Shell.Number
import PluginHost.Outside.Shell.Octets
import PluginHost.Outside.Shell.Pattern
import PluginHost.Outside.Shell.Printing
import PluginHost.Outside.Shell.Program
import PluginHost.Outside.Shell.Reading
import PluginHost.Outside.Shell.Run
import PluginHost.Outside.Shell.Signal
import PluginHost.Outside.Shell.State
import PluginHost.Outside.Shell.Sum
import PluginHost.Outside.Shell.Token
import PluginHost.Outside.Shell.Tool
import PluginHost.Outside.Shell.Transcript
import PluginHost.Outside.Shell.Word
import PluginHost.Path
import PluginHost.Plugin.Code
import PluginHost.Plugin.Error
import PluginHost.Plugin.Hello
import PluginHost.Plugin.Library
import PluginHost.Plugin.Listener
import PluginHost.Plugin.Registry
import PluginHost.Plugin.State
import PluginHost.Plugin.Trace
import PluginHost.Plugin.Unit
import PluginHost.Pool.Basic
import PluginHost.Pool.Error
import PluginHost.Pool.Handle
import PluginHost.Pool.Settle
import PluginHost.Pool.Task
import PluginHost.Proofs.Dependency.Decisions
import PluginHost.Proofs.Dependency.Moves
import PluginHost.Proofs.Dependency.Resolvable
import PluginHost.Proofs.Dependency.SearchSound
import PluginHost.Proofs.Dependency.WalkSound
import PluginHost.Proofs.Host.Closure
import PluginHost.Proofs.Host.Outcome
import PluginHost.Proofs.Host.Phases
import PluginHost.Proofs.Host.Reachable
import PluginHost.Proofs.Host.Readiness
import PluginHost.Proofs.Host.Table
import PluginHost.Proofs.Plugin.Live
import PluginHost.Session.Arguments
import PluginHost.Session.Basic
import PluginHost.Session.CommandLine
import PluginHost.Session.Server
import PluginHost.Text.Blank
import PluginHost.Text.Cut
import PluginHost.Text.Digits
import PluginHost.Text.Lines
import PluginHost.Text.Quoted
import PluginHost.Text.Seen
import PluginHost.Text.Template
import PluginHost.Text.Uppercase
import PluginHost.Toml.Document
import PluginHost.Toml.Scalar
import PluginHost.Toml.Text
import PluginHost.Toml.Value
import PluginHost.Version.Basic
import PluginHost.Version.Extra
import PluginHost.Version.Requirement
import PluginHost.Yaml.Cursor
import PluginHost.Yaml.Layout
import PluginHost.Yaml.Node
import PluginHost.Yaml.Scalar
import PluginHost.Yaml.Token
import PluginHost.Proofs.Dependency.Blame
import PluginHost.Proofs.Dependency.SearchBlame
import PluginHost.Proofs.Dependency.WalkBlame
import PluginHost.Proofs.Host.Transitions
import PluginHost.Proofs.Dependency.Affected
import PluginHost.Proofs.Host.Custody
import PluginHost.Proofs.Host.Removal
import PluginHost.Proofs.Host.Balance
import PluginHost.Proofs.Host.Notices
import PluginHost.Proofs.Host.Cone
import PluginHost.Proofs.Host.Attempts
import PluginHost.Proofs.Host.Confinement
import PluginHost.Proofs.Host.Pruning
import PluginHost.Proofs.Host.Delivery
import PluginHost.Proofs.Host.Exit
import PluginHost.Proofs.Plugin.ListenerOrder
import PluginHost.Proofs.Host.Newcomers
import PluginHost.Proofs.Host.Announcements
import PluginHost.Proofs.Plugin.Fingerprint
import PluginHost.Proofs.Host.Current
import PluginHost.Proofs.Host.Settling
import PluginHost.Proofs.Host.Loading
import PluginHost.Proofs.FileSystem.Paths
import PluginHost.Proofs.FileSystem.Deleting
import PluginHost.Proofs.Host.Alike
import PluginHost.Proofs.Host.Isolation
import PluginHost.Proofs.Host.History
import PluginHost.Proofs.Host.Precedence
import PluginHost.Proofs.Host.ReloadOrder
import PluginHost.Proofs.Host.Hearing
import PluginHost.Proofs.Pool.Discipline
import PluginHost.Proofs.Plugin.Accounts
import PluginHost.Proofs.Plugin.Lifecycle
import PluginHost.Proofs.FileSystem.Directories
import PluginHost.Proofs.FileSystem.Renaming
import PluginHost.Proofs.Host.Switching
import PluginHost.Proofs.Pool.Overflow
import PluginHost.Proofs.Fallible
import PluginHost.Proofs.Text.Parts
import PluginHost.Proofs.Version.Grammar
import PluginHost.Proofs.Version.Display
import PluginHost.Proofs.Plugin.Generations
import PluginHost.Proofs.Version.Order
import PluginHost.Proofs.Version.Convex
import PluginHost.Proofs.Version.Wildcards
import PluginHost.Proofs.Dependency.Sweep
import PluginHost.Proofs.Host.Discovery
import PluginHost.Proofs.Pool.Roster
import PluginHost.Proofs.Host.Undone
import PluginHost.Proofs.Host.Stranding
import PluginHost.Proofs.Host.Naming
import PluginHost.Proofs.Host.Addressing
import PluginHost.Proofs.Text.Substitution
import PluginHost.Proofs.Console.Lines
import PluginHost.Proofs.Json.SortedKeys
import PluginHost.Proofs.Plugin.Statements
import PluginHost.Proofs.Dependency.SearchWork
