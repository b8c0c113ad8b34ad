import TraceView.Color.Blend
import TraceView.Color.Picker
import TraceView.Color.Rgba
import TraceView.Color.Unit
import TraceView.CommandLine.Arguments
import TraceView.CommandLine.Help
import TraceView.CommandLine.Mark
import TraceView.CommandLine.Run
import TraceView.Config.Basic
import TraceView.Config.Environment
import TraceView.Config.Load
import TraceView.Config.Schema
import TraceView.Diagnostics.Event
import TraceView.Diagnostics.Filter
import TraceView.Diagnostics.Level
import TraceView.Diagnostics.Notice
import TraceView.Diagnostics.Pattern
import TraceView.Files.Path
import TraceView.Files.Tree
import TraceView.Loader.Pool
import TraceView.Loader.Scan
import TraceView.Log.Collector
import TraceView.Log.History
import TraceView.Log.Threads
import TraceView.Main
import TraceView.Number.Binary
import TraceView.Number.Decimal
import TraceView.Number.Hex
import TraceView.Number.Natural
import TraceView.Paint
import TraceView.Palette.Role
import TraceView.Palette.Table
import TraceView.Proofs.Log.Agreement
import TraceView.Proofs.Log.History
import TraceView.Proofs.Log.Interleaving
import TraceView.Proofs.Log.Places
import TraceView.Proofs.Log.Threads
import TraceView.Proofs.RichText.Decoding
import TraceView.Proofs.RichText.Encoding
import TraceView.RichText.Basic
import TraceView.RichText.Render
import TraceView.RichText.Segment
import TraceView.Ring
import TraceView.Screen.Area
import TraceView.Screen.Box
import TraceView.Screen.Grid
import TraceView.Screen.Line
import TraceView.Screen.LineBuilder
import TraceView.Screen.Look
import TraceView.Screen.ScrollView
import TraceView.Session.Basic
import TraceView.Session.Draw
import TraceView.Session.Editor
import TraceView.Session.Key
import TraceView.Session.KeySequence
import TraceView.Session.LogPanel
import TraceView.Session.Run
import TraceView.Settings.File
import TraceView.Settings.Memory
import TraceView.Settings.Store
import TraceView.SourcePolicy
import TraceView.Text.Blank
import TraceView.Text.Cluster
import TraceView.Text.Controls
import TraceView.Text.Pieces
import TraceView.Text.Quoted
import TraceView.Text.Ranges
import TraceView.Text.Replace
import TraceView.Text.Split
import TraceView.Text.Tables.Alphanumeric
import TraceView.Text.Tables.Cluster
import TraceView.Text.Tables.Extend
import TraceView.Text.Tables.Unprintable
import TraceView.Text.Tables.Width
import TraceView.Text.Utf8
import TraceView.Text.Width
import TraceView.Text.Wrap
import TraceView.Theme
import TraceView.Toml.Lexeme
import TraceView.Toml.Moment
import TraceView.Toml.Node
import TraceView.Toml.Parser
import TraceView.Toml.Printer
import TraceView.Toml.Quoted
import TraceView.Toml.Value
import TraceView.Tooltip
import TraceView.WidgetStyle
import TraceView.Proofs.Screen.LineBuilder
import TraceView.Proofs.Session.LogPanel
import TraceView.Proofs.Session.LogLines
import TraceView.Proofs.RichText.Parts
import TraceView.Proofs.Diagnostics.Entries
import TraceView.Proofs.Files.Tree
import TraceView.Proofs.Number.Widening
import TraceView.Proofs.Settings.Puts
import TraceView.Proofs.Settings.Stored
import TraceView.Proofs.Settings.Flushing
import TraceView.Proofs.Session.Persistence
import TraceView.Proofs.Number.Digits
import TraceView.Proofs.RichText.Drawing
import TraceView.Proofs.Settings.Backends
import TraceView.Proofs.Session.Palette
import TraceView.Proofs.Config.Overrides
import TraceView.Loader.Threads
import TraceView.Proofs.Session.EditorKeys
import TraceView.Proofs.Tooltip.Staging
import TraceView.Proofs.Screen.Spans
import TraceView.Proofs.Log.Growth
import TraceView.Proofs.Log.Sends
import TraceView.Proofs.Log.Alone
import TraceView.Proofs.Loader.Threads
import TraceView.Proofs.Loader.Visibility
import TraceView.Proofs.Loader.Alone
import TraceView.Proofs.Text.Words
import TraceView.Proofs.Text.Ascii
import TraceView.Proofs.Ring
import TraceView.Proofs.Loader.Scan
import TraceView.Proofs.Config.Layers
import TraceView.Proofs.Config.Sources
import TraceView.Proofs.Config.Applying
import TraceView.Proofs.RichText.Appending
import TraceView.Proofs.Settings.Sections
import TraceView.Proofs.WidgetStyle
import TraceView.Proofs.Palette.Tracking
import TraceView.Proofs.Ring.Names
import TraceView.Proofs.RichText.Outside
import TraceView.Proofs.Screen.Area
import TraceView.Proofs.Screen.Rows
import TraceView.Proofs.Screen.Cells
import TraceView.Proofs.Screen.Scrolling
import TraceView.Proofs.Log.Brought
import TraceView.Proofs.Loader.Polling
import TraceView.Proofs.Text.Tokens
import TraceView.Proofs.Screen.Tooltips
import TraceView.Proofs.SourcePolicy.Zones
import TraceView.Proofs.SourcePolicy.Lines
import TraceView.Proofs.Files.Walk
import TraceView.Proofs.SourcePolicy.Reports
import TraceView.Proofs.Text.Width
import TraceView.Proofs.Tooltip.Extent
import TraceView.Proofs.Session.Selection
import TraceView.Proofs.Session.RoleList
import TraceView.Proofs.Session.Geometry
import TraceView.Proofs.Color.Hex
import TraceView.Proofs.Color.Blend
