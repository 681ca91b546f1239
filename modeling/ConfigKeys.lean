import ConfigKeys.Charset.Basic
import ConfigKeys.Charset.Chinese
import ConfigKeys.Charset.Coding
import ConfigKeys.Charset.Gb18030
import ConfigKeys.Charset.Japanese
import ConfigKeys.Charset.JisX0208
import ConfigKeys.Charset.JisX0212
import ConfigKeys.Charset.Label
import ConfigKeys.Charset.SingleByte
import ConfigKeys.Config.Basic
import ConfigKeys.Config.Leaves
import ConfigKeys.Json.Basic
import ConfigKeys.Key.Basic
import ConfigKeys.Key.Draft
import ConfigKeys.Key.Inspect
import ConfigKeys.Key.Report
import ConfigKeys.KeySet.Basic
import ConfigKeys.Name.Basic
import ConfigKeys.Name.Fault
import ConfigKeys.Name.Json
import ConfigKeys.Name.Limits
import ConfigKeys.Name.Parse
import ConfigKeys.Name.Relation
import ConfigKeys.Name.Segment
import ConfigKeys.Name.Walk
import ConfigKeys.Number.Binary
import ConfigKeys.Number.Decimal
import ConfigKeys.Number.Power
import ConfigKeys.Plugin.Basic
import ConfigKeys.Plugin.CharsetFilter
import ConfigKeys.Plugin.Info
import ConfigKeys.Plugin.MemoryStore
import ConfigKeys.Plugin.Status
import ConfigKeys.Pool.Basic
import ConfigKeys.Pool.Registry
import ConfigKeys.Pool.Tree
import ConfigKeys.Session.Basic
import ConfigKeys.Session.Command
import ConfigKeys.Session.Keys
import ConfigKeys.Session.Plugins
import ConfigKeys.Session.Registries
import ConfigKeys.Session.Sets
import ConfigKeys.Session.Slots
import ConfigKeys.Text.Blank
import ConfigKeys.Text.Hex
import ConfigKeys.Text.Quoted
import ConfigKeys.Text.Unprintable
import ConfigKeys.Text.Utf8
import ConfigKeys.Toml.Datetime
import ConfigKeys.Toml.Document
import ConfigKeys.Toml.Scalar
import ConfigKeys.Toml.Value
import ConfigKeys.Value.Basic
import ConfigKeys.Value.Typed
import ConfigKeys.Proofs.Pool.Records
import ConfigKeys.Proofs.Pool.Balance
import ConfigKeys.Proofs.Pool.Reclaim
import ConfigKeys.Proofs.KeySet.Change
import ConfigKeys.Proofs.Pool.Copy
import ConfigKeys.Proofs.Pool.Registry
import ConfigKeys.Proofs.Fallible
import ConfigKeys.Proofs.Key.Metadata
import ConfigKeys.Proofs.Key.Options
import ConfigKeys.Proofs.Config.Balance
import ConfigKeys.Proofs.Plugin.Balance
import ConfigKeys.Proofs.Session.Balance
import ConfigKeys.Proofs.Session.Keys
import ConfigKeys.Proofs.Session.Sets
import ConfigKeys.Proofs.Session.Plugins
import ConfigKeys.Proofs.Session.Reachable
import ConfigKeys.Proofs.Session.Locks
import ConfigKeys.Proofs.Name.Escape
import ConfigKeys.Proofs.Name.Marks
import ConfigKeys.Proofs.Name.RoundTrip
import ConfigKeys.Proofs.Name.Grammar
import ConfigKeys.Proofs.Pool.Frame
import ConfigKeys.Proofs.Pool.Tree
import ConfigKeys.Proofs.Key.Frame
import ConfigKeys.Proofs.KeySet.Frame
import ConfigKeys.Proofs.Plugin.Frame
import ConfigKeys.Proofs.Session.Scope
import ConfigKeys.Proofs.Session.Frame
import ConfigKeys.Proofs.KeySet.Map
import ConfigKeys.Proofs.KeySet.Copies
import ConfigKeys.Proofs.Session.Maps
import ConfigKeys.Proofs.Name.Kinship
import ConfigKeys.Proofs.KeySet.Subtree
import ConfigKeys.Proofs.KeySet.Walk
import ConfigKeys.Proofs.Session.Walk
import ConfigKeys.Proofs.Session.Course
import ConfigKeys.Proofs.Plugin.Stored
import ConfigKeys.Proofs.Session.Stores
import ConfigKeys.Proofs.Session.Writes
import ConfigKeys.Proofs.Charset.Coding
import ConfigKeys.Proofs.Text.Utf8
import ConfigKeys.Proofs.Charset.Exact
import ConfigKeys.Proofs.Key.Report
import ConfigKeys.Proofs.Plugin.Convert
import ConfigKeys.Proofs.Session.Filters
import ConfigKeys.Proofs.Plugin.Back
import ConfigKeys.Proofs.Session.Undo
import ConfigKeys.Proofs.Session.Pipeline
import ConfigKeys.Proofs.Name.Relation
import ConfigKeys.Proofs.Name.Interval
import ConfigKeys.Proofs.Session.Subtrees
import ConfigKeys.Proofs.Plugin.Apart
import ConfigKeys.Proofs.Plugin.Reading
import ConfigKeys.Proofs.Session.Isolation
import ConfigKeys.Proofs.Session.Independence
import ConfigKeys.Proofs.Name.Bounds
import ConfigKeys.Proofs.Plugin.Guard
import ConfigKeys.Proofs.Session.Refresh
import ConfigKeys.Proofs.Session.Readonly
import ConfigKeys.Proofs.Pool.Forest
import ConfigKeys.Proofs.Session.Copies
import ConfigKeys.Proofs.Name.Further
import ConfigKeys.Proofs.Name.Faults
import ConfigKeys.Proofs.Session.Renames
import ConfigKeys.Proofs.Plugin.News
import ConfigKeys.Proofs.Session.Reads
import ConfigKeys.Proofs.Number.Decimal
import ConfigKeys.Proofs.Value.Integers
import ConfigKeys.Proofs.Session.Handles
import ConfigKeys.Proofs.Session.Exhaustion
import ConfigKeys.Proofs.Key.Entries
import ConfigKeys.Proofs.Session.Metadata
import ConfigKeys.Proofs.Session.Merges
import ConfigKeys.Proofs.Name.Rootless
import ConfigKeys.Proofs.Config.Texts
import ConfigKeys.Proofs.Config.Leaves
import ConfigKeys.Proofs.Config.Entries
import ConfigKeys.Proofs.Text.Blank
import ConfigKeys.Proofs.Plugin.Info
import ConfigKeys.Proofs.Key.Warnings
import ConfigKeys.Proofs.Session.Warnings
import ConfigKeys.Proofs.Name.Spelling
import ConfigKeys.Proofs.Name.Walk
import ConfigKeys.Proofs.Charset.Spelling
import ConfigKeys.Proofs.Key.Draft
import ConfigKeys.Proofs.Key.Errors
import ConfigKeys.Proofs.Session.Builds
import ConfigKeys.Proofs.Session.Errors
