import TypingTrainer.App
import TypingTrainer.Category
import TypingTrainer.Clock
import TypingTrainer.CommandLine
import TypingTrainer.CommandLine.Arguments
import TypingTrainer.Config
import TypingTrainer.Diagnostics
import TypingTrainer.Files
import TypingTrainer.Filter
import TypingTrainer.Folders
import TypingTrainer.Json.Decode
import TypingTrainer.Json.Node
import TypingTrainer.Json.Value
import TypingTrainer.Key
import TypingTrainer.Language
import TypingTrainer.Main
import TypingTrainer.Path
import TypingTrainer.Practice
import TypingTrainer.Preset
import TypingTrainer.Proofs.Cursor
import TypingTrainer.Proofs.Moves
import TypingTrainer.Proofs.Typeable
import TypingTrainer.Screen
import TypingTrainer.Screen.Display
import TypingTrainer.Screen.Paragraph
import TypingTrainer.Screen.Terminal
import TypingTrainer.Session
import TypingTrainer.Snippet
import TypingTrainer.Snippet.Embedded
import TypingTrainer.Snippet.Info
import TypingTrainer.Snippet.Json
import TypingTrainer.SortedMap
import TypingTrainer.Stats.Amount
import TypingTrainer.Stats.Archive
import TypingTrainer.Stats.Database
import TypingTrainer.Stats.Decimal
import TypingTrainer.Stats.Store
import TypingTrainer.Stats.Table
import TypingTrainer.Text.Blank
import TypingTrainer.Text.Cluster
import TypingTrainer.Text.Cluster.Table
import TypingTrainer.Text.Control
import TypingTrainer.Text.Emoji
import TypingTrainer.Text.Letter
import TypingTrainer.Text.Numeral
import TypingTrainer.Text.Ranges
import TypingTrainer.Text.Unprintable
import TypingTrainer.Text.Utf8
import TypingTrainer.Text.Width
import TypingTrainer.Text.Width.Table
import TypingTrainer.Time
import TypingTrainer.Time.Calendar
import TypingTrainer.View
import TypingTrainer.Proofs.Lifecycle
import TypingTrainer.Proofs.Generation
import TypingTrainer.Proofs.RunningTime
import TypingTrainer.Proofs.History
import TypingTrainer.Proofs.Completed
import TypingTrainer.Proofs.Transcript
import TypingTrainer.Proofs.TypedTotal
import TypingTrainer.Proofs.Finishing
import TypingTrainer.Proofs.Bounds
import TypingTrainer.Proofs.Mirror
import TypingTrainer.Proofs.Renewal
import TypingTrainer.Proofs.Recording
import TypingTrainer.Proofs.Pending
import TypingTrainer.Proofs.Raw
import TypingTrainer.Proofs.Keyboard
import TypingTrainer.Proofs.Practised
import TypingTrainer.Proofs.Settings
import TypingTrainer.Proofs.ConfigFile
import TypingTrainer.Proofs.Matching
import TypingTrainer.Proofs.JsonText
import TypingTrainer.Proofs.Entries
import TypingTrainer.Proofs.Decoding
import TypingTrainer.Proofs.SnippetText
import TypingTrainer.Proofs.Reports
import TypingTrainer.Proofs.Calendar
import TypingTrainer.Proofs.TimeText
import TypingTrainer.Proofs.ByteOrder
import TypingTrainer.Proofs.Database
import TypingTrainer.Proofs.Statistics
import TypingTrainer.Proofs.Decision
import TypingTrainer.Proofs.Modes
import TypingTrainer.Proofs.CharMap
import TypingTrainer.Proofs.Switching
import TypingTrainer.Proofs.Outcomes
import TypingTrainer.Proofs.Stopwatch
import TypingTrainer.Proofs.Drawing
import TypingTrainer.Proofs.Advancing
import TypingTrainer.Proofs.Counts
import TypingTrainer.Proofs.Viewport
import TypingTrainer.Proofs.Identity
