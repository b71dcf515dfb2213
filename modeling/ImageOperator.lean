import ImageOperator.Attempt
import ImageOperator.Calendar
import ImageOperator.Cloud.Basic
import ImageOperator.Cloud.Registry
import ImageOperator.Cloud.Workspace
import ImageOperator.Disk.Format
import ImageOperator.Disk.Path
import ImageOperator.Disk.Tree
import ImageOperator.Fault
import ImageOperator.Image.Basic
import ImageOperator.Image.Document
import ImageOperator.Image.Fields
import ImageOperator.Journal.Event
import ImageOperator.Journal.Log
import ImageOperator.Journal.Note
import ImageOperator.Journal.Recorder
import ImageOperator.Number.Binary64
import ImageOperator.Number.Notation
import ImageOperator.Number.Shortest
import ImageOperator.ObjectId
import ImageOperator.Proofs.Attempt
import ImageOperator.Proofs.Cloud.Calls
import ImageOperator.Proofs.Cloud.History
import ImageOperator.Proofs.Cloud.Named
import ImageOperator.Proofs.Cloud.Orderly
import ImageOperator.Proofs.Cloud.Queue
import ImageOperator.Proofs.Cloud.Reachable
import ImageOperator.Proofs.Cloud.Turns
import ImageOperator.Proofs.Disk.Listing
import ImageOperator.Proofs.Disk.Patch
import ImageOperator.Proofs.Disk.Path
import ImageOperator.Proofs.Disk.Room
import ImageOperator.Proofs.Disk.Stop
import ImageOperator.Proofs.Disk.Tree
import ImageOperator.Proofs.Image.Accepts
import ImageOperator.Proofs.Image.Document
import ImageOperator.Proofs.Image.Finalizers
import ImageOperator.Proofs.Image.Reading
import ImageOperator.Proofs.Journal.Events
import ImageOperator.Proofs.Journal.Recorder
import ImageOperator.Proofs.Matching
import ImageOperator.Proofs.Record
import ImageOperator.Proofs.Region
import ImageOperator.Proofs.Scope.Accounts
import ImageOperator.Proofs.Scope.Advance
import ImageOperator.Proofs.Scope.Clear
import ImageOperator.Proofs.Scope.Decide
import ImageOperator.Proofs.Scope.Discard
import ImageOperator.Proofs.Scope.Ensure
import ImageOperator.Proofs.Scope.Events
import ImageOperator.Proofs.Scope.Faults
import ImageOperator.Proofs.Scope.Follow
import ImageOperator.Proofs.Scope.Hears
import ImageOperator.Proofs.Scope.Heed
import ImageOperator.Proofs.Scope.Notes
import ImageOperator.Proofs.Scope.Pass
import ImageOperator.Proofs.Scope.Sight
import ImageOperator.Proofs.Scope.Stage
import ImageOperator.Proofs.Scope.Turned
import ImageOperator.Proofs.Scope.Voices
import ImageOperator.Proofs.Session.Attached
import ImageOperator.Proofs.Session.Benches
import ImageOperator.Proofs.Session.BrokenOff
import ImageOperator.Proofs.Session.ClosedOnce
import ImageOperator.Proofs.Session.Commute
import ImageOperator.Proofs.Session.Completes
import ImageOperator.Proofs.Session.Converge
import ImageOperator.Proofs.Session.Discarding
import ImageOperator.Proofs.Session.Entered
import ImageOperator.Proofs.Session.Filed
import ImageOperator.Proofs.Session.Finalizer
import ImageOperator.Proofs.Session.Heard
import ImageOperator.Proofs.Session.Identified
import ImageOperator.Proofs.Session.InMemory
import ImageOperator.Proofs.Session.Leaving
import ImageOperator.Proofs.Session.Leftover
import ImageOperator.Proofs.Session.Marked
import ImageOperator.Proofs.Session.Mirror
import ImageOperator.Proofs.Session.Moves
import ImageOperator.Proofs.Session.Noted
import ImageOperator.Proofs.Session.OneImport
import ImageOperator.Proofs.Session.OneWrite
import ImageOperator.Proofs.Session.Opened
import ImageOperator.Proofs.Session.OwnJob
import ImageOperator.Proofs.Session.Pages
import ImageOperator.Proofs.Session.PhaseTable
import ImageOperator.Proofs.Session.Reconcile
import ImageOperator.Proofs.Session.Replay
import ImageOperator.Proofs.Session.Reported
import ImageOperator.Proofs.Session.Requeue
import ImageOperator.Proofs.Session.Restart
import ImageOperator.Proofs.Session.Run
import ImageOperator.Proofs.Session.Scopes
import ImageOperator.Proofs.Session.Steady
import ImageOperator.Proofs.Session.Stores
import ImageOperator.Proofs.Session.Submitted
import ImageOperator.Proofs.Session.Taken
import ImageOperator.Proofs.Session.Tracked
import ImageOperator.Proofs.Session.Unheard
import ImageOperator.Proofs.Session.Unwritten
import ImageOperator.Proofs.Session.Views
import ImageOperator.Proofs.Session.Within
import ImageOperator.Proofs.Store.Apart
import ImageOperator.Proofs.Store.Crash
import ImageOperator.Proofs.Store.Documents
import ImageOperator.Proofs.Store.Firing
import ImageOperator.Proofs.Store.Folded
import ImageOperator.Proofs.Store.InMemory
import ImageOperator.Proofs.Store.Lasting
import ImageOperator.Proofs.Store.Load
import ImageOperator.Proofs.Store.Lodging
import ImageOperator.Proofs.Store.Mirror
import ImageOperator.Proofs.Store.Notes
import ImageOperator.Proofs.Store.Persist
import ImageOperator.Proofs.Store.Refused
import ImageOperator.Proofs.Store.Replay
import ImageOperator.Proofs.Store.Request
import ImageOperator.Proofs.Store.Silent
import ImageOperator.Proofs.Store.Tended
import ImageOperator.Proofs.Store.Tidy
import ImageOperator.Proofs.Store.Told
import ImageOperator.Proofs.Store.Traces
import ImageOperator.Proofs.Store.Unheeded
import ImageOperator.Proofs.Text
import ImageOperator.Proofs.Value.Json
import ImageOperator.Record
import ImageOperator.Region
import ImageOperator.Scope.Bench
import ImageOperator.Scope.Pass
import ImageOperator.Session.Command
import ImageOperator.Session.State
import ImageOperator.Session.Step
import ImageOperator.Store.Catalog
import ImageOperator.Store.Change
import ImageOperator.Store.Depot
import ImageOperator.Store.Listener
import ImageOperator.Text.Base64
import ImageOperator.Text.Blank
import ImageOperator.Text.Case
import ImageOperator.Text.Printable
import ImageOperator.Text.Quoted
import ImageOperator.Value.Basic
import ImageOperator.Value.Key
import ImageOperator.Value.Literal
import ImageOperator.Value.Same
import ImageOperator.Yaml.Block
import ImageOperator.Yaml.Cursor
import ImageOperator.Yaml.Format
import ImageOperator.Yaml.Gap
import ImageOperator.Yaml.Grammar
import ImageOperator.Yaml.Lexer
import ImageOperator.Yaml.Meaning
import ImageOperator.Yaml.Moment
import ImageOperator.Yaml.Node
import ImageOperator.Yaml.Numeral
import ImageOperator.Yaml.Page
import ImageOperator.Yaml.Plain
import ImageOperator.Yaml.Printer
import ImageOperator.Yaml.Property
import ImageOperator.Yaml.Quoted
import ImageOperator.Yaml.Scalar
import ImageOperator.Yaml.Style
import ImageOperator.Yaml.Tag
import ImageOperator.Yaml.Token
