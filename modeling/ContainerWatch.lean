import ContainerWatch.Unicode.Case
import ContainerWatch.Unicode.Identifier
import ContainerWatch.Unicode.Letter
import ContainerWatch.Unicode.Printable
import ContainerWatch.Unicode.Space
import ContainerWatch.Unicode.Digit
import ContainerWatch.Text.Digits
import ContainerWatch.Text.Pieces
import ContainerWatch.Text.Quoted
import ContainerWatch.Text.Numeral
import ContainerWatch.Binary64.Decimal
import ContainerWatch.Instant
import ContainerWatch.Fault
import ContainerWatch.Value.SetOrder
import ContainerWatch.Json.Writer
import ContainerWatch.Json.Reader
import ContainerWatch.Pattern.Syntax
import ContainerWatch.Pattern.Source
import ContainerWatch.Pattern.Reader
import ContainerWatch.Pattern
import ContainerWatch.NameFilter
import ContainerWatch.Identity
import ContainerWatch.Notice
import ContainerWatch.Engine.Container
import ContainerWatch.Engine.Message
import ContainerWatch.Configuration
import ContainerWatch.Journal.Template
import ContainerWatch.Journal.Logbook
import ContainerWatch.Engine.Client
import ContainerWatch.Watcher.Step
import ContainerWatch.Watcher.Conduct
import ContainerWatch.Watcher.Opening
import ContainerWatch.Watcher.Waiting
import ContainerWatch.Watcher.Rehearsal
import ContainerWatch.Engine.Visit
import ContainerWatch.Session
import ContainerWatch.Main
import ContainerWatch.Proofs.Watcher.Opening
import ContainerWatch.Proofs.Watcher.Runs
import ContainerWatch.Proofs.Watcher.Moves
import ContainerWatch.Proofs.Watcher.Terminal
import ContainerWatch.Proofs.Watcher.Conservation
import ContainerWatch.Proofs.Watcher.Reading
import ContainerWatch.Proofs.Watcher.MissedFailure
import ContainerWatch.Proofs.Watcher.Closing
import ContainerWatch.Proofs.Watcher.Stopping
import ContainerWatch.Proofs.Agreement
import ContainerWatch.Proofs.Binary64.Rounding
import ContainerWatch.Proofs.Binary64.Shortest
import ContainerWatch.Proofs.Json.Numbers
import ContainerWatch.Proofs.Json.ReadBack
import ContainerWatch.Proofs.Json.Encoding
import ContainerWatch.Proofs.Journal.Lines
import ContainerWatch.Proofs.Watcher.Overlap
import ContainerWatch.Proofs.Session.Course
import ContainerWatch.Proofs.Session.Exits
import ContainerWatch.Proofs.Session.Faults
import ContainerWatch.Proofs.Calendar
import ContainerWatch.Proofs.Instants
import ContainerWatch.Proofs.Journal.Notices
import ContainerWatch.Proofs.Identity.Names
import ContainerWatch.Proofs.Session.Construction
import ContainerWatch.Proofs.Watcher.Inertness
import ContainerWatch.Proofs.Watcher.Causes
import ContainerWatch.Proofs.Watcher.StopCalls
import ContainerWatch.Proofs.Watcher.Turns
import ContainerWatch.Proofs.Watcher.Shadows
import ContainerWatch.Proofs.Watcher.Waits
import ContainerWatch.Proofs.Engine.Iterations
import ContainerWatch.Proofs.Watcher.Iterations
import ContainerWatch.Proofs.Json.Validity
import ContainerWatch.Proofs.Journal.Validity
import ContainerWatch.Proofs.Engine.Payloads
import ContainerWatch.Proofs.Watcher.Versions
import ContainerWatch.Proofs.Watcher.Nulls
import ContainerWatch.Proofs.NameFilter.Settings
import ContainerWatch.Proofs.NameFilter.Precedence
import ContainerWatch.Proofs.Pattern.Literals
import ContainerWatch.Proofs.NameFilter.Literals
import ContainerWatch.Proofs.Text
import ContainerWatch.Proofs.Pattern.Flaws
import ContainerWatch.Proofs.Pattern.Reading
import ContainerWatch.Proofs.Pattern.Rejections
import ContainerWatch.Proofs.NameFilter.Rejections
import ContainerWatch.Proofs.Configuration
import ContainerWatch.Proofs.Session.Rejections
import ContainerWatch.Proofs.Identity.Groups
import ContainerWatch.Proofs.Journal.Setup
import ContainerWatch.Proofs.Journal.Threshold
import ContainerWatch.Proofs.Binary64.Nearest
import ContainerWatch.Proofs.Binary64.Values
import ContainerWatch.Proofs.Nanoseconds
import ContainerWatch.Proofs.Calendar.Count
import ContainerWatch.Proofs.Moments
import ContainerWatch.Proofs.Engine.Dates
