import LexGen.Action.Body
import LexGen.Action.Callback
import LexGen.Action.Qualify
import LexGen.Action.Table
import LexGen.Action.TokenNames
import LexGen.Archive
import LexGen.Callable
import LexGen.Code.Definition
import LexGen.Code.Literal
import LexGen.Code.Loose
import LexGen.Code.Parser.Basic
import LexGen.Code.Parser.Expression
import LexGen.Code.Parser.Pattern
import LexGen.Code.Parser.Statement
import LexGen.Code.Printer
import LexGen.Code.Scope
import LexGen.Code.Token
import LexGen.Code.Tree
import LexGen.Code.Validity
import LexGen.CompiledLexer
import LexGen.Convention
import LexGen.Emission.Engine
import LexGen.Emission.Module
import LexGen.Emission.Skeleton
import LexGen.Error
import LexGen.Grammar
import LexGen.Journal
import LexGen.Json.Reader
import LexGen.Json.Writer
import LexGen.Macros
import LexGen.Number.Binary64
import LexGen.Options
import LexGen.Pattern.Compiled
import LexGen.Pattern.Matcher
import LexGen.Pattern.Reader
import LexGen.Pattern.Tree
import LexGen.Program.Attributes
import LexGen.Program.Binding
import LexGen.Program.Builtins
import LexGen.Program.Calls
import LexGen.Program.Evaluate
import LexGen.Program.Execute
import LexGen.Program.Loading
import LexGen.Program.Memory
import LexGen.Program.Module
import LexGen.Proofs.Macros.References
import LexGen.Proofs.Program.ActionBody
import LexGen.Proofs.Scanner.Backtracking
import LexGen.Proofs.Scanner.Conservation
import LexGen.Proofs.Scanner.Invariant
import LexGen.Proofs.Scanner.Outcome
import LexGen.Proofs.Scanner.Script
import LexGen.Proofs.Scanner.Tracking
import LexGen.Proofs.Scanner.Trail
import LexGen.Proofs.Scanner.Unrejected
import LexGen.Proofs.Text.Append
import LexGen.Proofs.Text.Replace
import LexGen.RuleTable
import LexGen.Scanner.Conditions
import LexGen.Scanner.Input
import LexGen.Scanner.Location
import LexGen.Scanner.Operation
import LexGen.Scanner.Position
import LexGen.Scanner.State
import LexGen.Scanner.Step
import LexGen.Settings
import LexGen.StartConditions
import LexGen.Text.Basic
import LexGen.Text.Edit
import LexGen.Text.Lines
import LexGen.Text.Quoted
import LexGen.Unicode.Boundaries
import LexGen.Unicode.Case
import LexGen.Unicode.Digit
import LexGen.Unicode.Identifier
import LexGen.Unicode.Printable
import LexGen.Unicode.Space
import LexGen.Unicode.Word
import LexGen.Value.Basic
import LexGen.Value.Display
import LexGen.Value.Equality
import LexGen.Value.Layout
import LexGen.Value.Methods
import LexGen.Value.Operators
import LexGen.Proofs.Macros.Expansion
import LexGen.Proofs.Macros.Settling
import LexGen.Proofs.Options.Reading
import LexGen.Proofs.CompiledLexer.Compilation
import LexGen.Proofs.CompiledLexer.Scanning
import LexGen.Proofs.Scanner.Selection
import LexGen.Proofs.CompiledLexer.Selection
import LexGen.Proofs.CompiledLexer.Safety
import LexGen.Proofs.Json.Numbers
import LexGen.Proofs.Json.Order
import LexGen.Proofs.Json.Strings
import LexGen.Proofs.Json.Values
import LexGen.Proofs.Json.RoundTrip
import LexGen.Proofs.Options.Entries
import LexGen.Proofs.Archive.Storing
import LexGen.Proofs.Archive.RoundTrip
import LexGen.Proofs.Scanner.Termination
import LexGen.Proofs.Macros.Strictness
import LexGen.Proofs.CompiledLexer.Strictness
import LexGen.Proofs.Macros.Cycles
import LexGen.Proofs.Macros.Closure
import LexGen.Proofs.Grammar.Rearranged
import LexGen.Proofs.CompiledLexer.Rearranged
import LexGen.Proofs.Json.Canonical
import LexGen.Proofs.Archive.Canonical
import LexGen.Proofs.CompiledLexer.EchoRule
import LexGen.Proofs.CompiledLexer.FlexScanning
import LexGen.Proofs.Pattern.Reach
import LexGen.Proofs.Scanner.Bearings
import LexGen.Proofs.Scanner.Context
import LexGen.Proofs.Scanner.EndOfInput
import LexGen.Proofs.Text.Indentation
import LexGen.Proofs.Code.Steps
import LexGen.Proofs.Code.Expressions
import LexGen.Proofs.Scanner.Shortening
import LexGen.Proofs.Failure
import LexGen.Proofs.Json.Reading
import LexGen.Proofs.Value.Numbers
import LexGen.Proofs.Options.Failures
import LexGen.Proofs.Pattern.Reading
import LexGen.Proofs.Grammar.Reading
import LexGen.Proofs.CompiledLexer.Failures
import LexGen.Proofs.Archive.Restoring
import LexGen.Proofs.Scanner.PushingBack
import LexGen.Proofs.Scanner.Characters
import LexGen.Proofs.Scanner.Ranges
import LexGen.Proofs.Scanner.EmptyMatches
import LexGen.Proofs.Scanner.Unrecognized
import LexGen.Proofs.Scanner.Recovery
import LexGen.Proofs.Scanner.Measuring
import LexGen.Proofs.Scanner.LongestFirst
import LexGen.Proofs.Scanner.Resetting
import LexGen.Proofs.Scanner.Tokens
import LexGen.Proofs.StartConditions.Resolution
import LexGen.Proofs.Macros.Search
import LexGen.Proofs.Text.Edits
import LexGen.Proofs.Action.Qualifying
import LexGen.Proofs.Code.Scoping
import LexGen.Proofs.Action.Scopes
import LexGen.Proofs.Action.Substituting
import LexGen.Proofs.Program.Arguments
import LexGen.Proofs.Pattern.Grouping
import LexGen.Proofs.Pattern.OmittedGroups
import LexGen.Proofs.Pattern.MacroGroups
import LexGen.Proofs.Text.Feeds
import LexGen.Proofs.Scanner.Excerpts
import LexGen.Proofs.Emission.Skeletons
import LexGen.Proofs.Text.Shifting
import LexGen.Proofs.Grammar.Shifted
import LexGen.Proofs.CompiledLexer.Shifted
import LexGen.Proofs.Emission.Shifted
import LexGen.Proofs.Code.Quoting
import LexGen.Proofs.Code.TokenRuns
import LexGen.Proofs.Code.NumberTokens
import LexGen.Proofs.Code.Collections
import LexGen.Proofs.Program.LiteralValues
import LexGen.Proofs.Emission.Decoding
