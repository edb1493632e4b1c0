import Keychord.Builder
import Keychord.Config
import Keychord.Config.File
import Keychord.Config.Reader
import Keychord.Config.Writer
import Keychord.Decimal.Shortest
import Keychord.Decimal.Style
import Keychord.Episode
import Keychord.Error
import Keychord.Executor
import Keychord.Interpreter
import Keychord.Json.Fault
import Keychord.Json.Literal
import Keychord.Json.Number
import Keychord.Json.Skip
import Keychord.Key
import Keychord.Keymap
import Keychord.Log.Level
import Keychord.Log.Logger
import Keychord.Log.Note
import Keychord.Loop
import Keychord.Main
import Keychord.Modifier
import Keychord.Notification
import Keychord.Path
import Keychord.Program.Demo
import Keychord.Program.Options
import Keychord.Program.Session
import Keychord.Proofs.Builder.Interrupted
import Keychord.Proofs.Builder.Renaming
import Keychord.Proofs.Builder.Runs
import Keychord.Proofs.Config.Reading
import Keychord.Proofs.Config.Spelling
import Keychord.Proofs.Config.Triggers
import Keychord.Proofs.Config.Validation
import Keychord.Proofs.Episode.Accounts
import Keychord.Proofs.Episode.Actions
import Keychord.Proofs.Episode.Balance
import Keychord.Proofs.Episode.Bounded
import Keychord.Proofs.Episode.Echo
import Keychord.Proofs.Episode.Frozen
import Keychord.Proofs.Episode.Groups
import Keychord.Proofs.Episode.Malformed
import Keychord.Proofs.Interpreter.Fired
import Keychord.Proofs.Interpreter.Reference
import Keychord.Proofs.Interpreter.Stream
import Keychord.Proofs.Json.Strings
import Keychord.Proofs.Json.Values
import Keychord.Proofs.Keymap.Conflict
import Keychord.Proofs.Keymap.History
import Keychord.Proofs.Keymap.Permutation
import Keychord.Proofs.Keymap.Refinement
import Keychord.Proofs.Keymap.Table
import Keychord.Proofs.Log.Appending
import Keychord.Proofs.Loop.Closing
import Keychord.Proofs.Loop.Driven
import Keychord.Proofs.Loop.Episodes
import Keychord.Proofs.Loop.Fatal
import Keychord.Proofs.Loop.Recording
import Keychord.Proofs.Path.Expansion
import Keychord.Proofs.Program.Arguments
import Keychord.Proofs.Program.Drivers
import Keychord.Proofs.Sequence.Ancestors
import Keychord.Proofs.Sequence.Grammar
import Keychord.Proofs.Sequence.Prefixes
import Keychord.Proofs.Sequence.RoundTrip
import Keychord.Proofs.Sequence.Words
import Keychord.Proofs.Terminal.Faithful
import Keychord.Proofs.Terminal.Tokens
import Keychord.Reading
import Keychord.Sequence
import Keychord.Sequence.Parser
import Keychord.Source
import Keychord.Terminal.Event
import Keychord.Terminal.Input
import Keychord.Terminal.Verdict
import Keychord.Text.Alphanumeric
import Keychord.Text.CodePoints
import Keychord.Text.Printable
import Keychord.Text.Quoted
import Keychord.Text.Uppercase
