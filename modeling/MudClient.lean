import MudClient.Text
import MudClient.NameMap
import MudClient.Unicode.CodeSet
import MudClient.Unicode.Category
import MudClient.Unicode.Property
import MudClient.Unicode.Script
import MudClient.Unicode.LetterCase
import MudClient.Script.Separator
import MudClient.Script.Error
import MudClient.Script.Statement
import MudClient.Script.Source
import MudClient.Number.Binary64
import MudClient.Captures
import MudClient.Script.Locals
import MudClient.Script.Delay
import MudClient.Pattern.Regex.Reader
import MudClient.Pattern.Basic
import MudClient.Lua.Token
import MudClient.Lua.Reader
import MudClient.Lua.Library
import MudClient.Lua.Eval
import MudClient.Lua.Block
import MudClient.Reaction.Basic
import MudClient.Channel
import MudClient.Script.Registry
import MudClient.Reaction.Firing
import MudClient.Settings
import MudClient.World.Handling
import MudClient.World.Configuration
import MudClient.Encoding.Basic
import MudClient.Telnet.Connection
import MudClient.Terminal.Console
import MudClient.Terminal.Session
import MudClient.Main
import MudClient.Proofs.Script.Compile
import MudClient.Proofs.Engine.Pause
import MudClient.Proofs.Script.Write
import MudClient.Proofs.Engine.Interleaving
import MudClient.Proofs.Encoding.Stream
import MudClient.Proofs.Telnet.Stream
import MudClient.Proofs.Telnet.Escape
import MudClient.Proofs.Telnet.Chunking
import MudClient.Proofs.Script.Brace
import MudClient.Proofs.Script.Separator
import MudClient.Proofs.Script.Reading
import MudClient.Proofs.Reaction.Shortcut
import MudClient.Proofs.Script.Written
import MudClient.Proofs.Engine.Rule
import MudClient.Proofs.Script.Layout
import MudClient.Proofs.World.Configuration
import MudClient.Proofs.Telnet.Cleaning
import MudClient.Proofs.Telnet.Leftover
import MudClient.Proofs.Script.Format
import MudClient.Proofs.World.Reset
import MudClient.Proofs.Telnet.HandedOut
import MudClient.Proofs.Telnet.Written
import MudClient.Proofs.World.Course
import MudClient.Proofs.World.Expansion
import MudClient.Proofs.Engine.Return
import MudClient.Proofs.World.Return
import MudClient.Proofs.Unicode.Lower
import MudClient.Proofs.Script.Stable
import MudClient.Proofs.Script.Rewritten
import MudClient.Proofs.Telnet.Closing
import MudClient.Proofs.Telnet.Outgoing
import MudClient.Proofs.Script.Outline
import MudClient.Proofs.Script.Template
import MudClient.Proofs.World.Stacking
import MudClient.Proofs.World.Substitution
import MudClient.Proofs.World.History
import MudClient.Proofs.World.Timer
import MudClient.Proofs.World.Input
import MudClient.Proofs.World.Escaping
import MudClient.Proofs.World.Reception
import MudClient.Proofs.Pattern.Machine
import MudClient.Proofs.Pattern.Translation
import MudClient.Proofs.Pattern.Wildcard
import MudClient.Proofs.Unicode.CaseFold
import MudClient.Proofs.Pattern.Run
import MudClient.Proofs.Pattern.Literal
import MudClient.Proofs.Pattern.Span
import MudClient.Proofs.Json.Written
import MudClient.Proofs.Settings
import MudClient.Proofs.Store.Disk
import MudClient.Proofs.Store.Request
import MudClient.Proofs.Engine.Failure
import MudClient.Proofs.Script.Succession
import MudClient.Proofs.Script.SingleLine
import MudClient.Proofs.Reaction.Ranking
import MudClient.Proofs.Script.Placeholder
import MudClient.Proofs.Engine.Range
import MudClient.Proofs.Script.Difference
import MudClient.Proofs.Text
import MudClient.Proofs.Unicode.Ascii
import MudClient.Proofs.Reaction.Spelling
import MudClient.Proofs.Reaction.OrderedMap
