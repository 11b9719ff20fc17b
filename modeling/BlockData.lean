import BlockData.Arena
import BlockData.Character.Alphabetic
import BlockData.Character.Numeric
import BlockData.Character.Printable
import BlockData.Character.Ranges
import BlockData.Character.WhiteSpace
import BlockData.Cursor
import BlockData.Delimiter
import BlockData.Grammar
import BlockData.Json
import BlockData.Layout
import BlockData.Lexeme.Extent
import BlockData.Lexeme.Flaw
import BlockData.Lexeme.Lead
import BlockData.Lexeme.Numeral
import BlockData.Lexeme.Quoted
import BlockData.Lexeme.Reading
import BlockData.Main
import BlockData.Node
import BlockData.Node.Canonical
import BlockData.Node.Outline
import BlockData.Node.RoundTrip
import BlockData.Node.View
import BlockData.Node.WellFormed
import BlockData.Number.Binary64
import BlockData.Number.Decimal
import BlockData.Number.Layout
import BlockData.Number.Shortest
import BlockData.Parsing.Error
import BlockData.Parsing.Rules
import BlockData.Parsing.State
import BlockData.Position
import BlockData.Proofs.Formatting.CanonicalLines
import BlockData.Proofs.Formatting.Derived
import BlockData.Proofs.Formatting.Labels
import BlockData.Proofs.Formatting.Outlines
import BlockData.Proofs.Formatting.RoundTrip
import BlockData.Proofs.Formatting.SameText
import BlockData.Proofs.Formatting.SingleLines
import BlockData.Proofs.Formatting.Views
import BlockData.Proofs.Formatting.Written
import BlockData.Proofs.Grammar.Alike
import BlockData.Proofs.Grammar.Brackets
import BlockData.Proofs.Grammar.Nesting
import BlockData.Proofs.Grammar.Unambiguous
import BlockData.Proofs.Grammar.Unfinished
import BlockData.Proofs.Lexing.Flaws
import BlockData.Proofs.Lexing.Leaves
import BlockData.Proofs.Lexing.LineEndings
import BlockData.Proofs.Lexing.Lines
import BlockData.Proofs.Lexing.LongestNumbers
import BlockData.Proofs.Lexing.Numbers
import BlockData.Proofs.Lexing.Places
import BlockData.Proofs.Lexing.Reports
import BlockData.Proofs.Lexing.Seams
import BlockData.Proofs.Lexing.Separators
import BlockData.Proofs.Lexing.Settled
import BlockData.Proofs.Lexing.Soundness
import BlockData.Proofs.Lexing.Splitting
import BlockData.Proofs.Lexing.Stream
import BlockData.Proofs.Lexing.Strings
import BlockData.Proofs.Lexing.Words
import BlockData.Proofs.Number.Bits
import BlockData.Proofs.Number.Decimals
import BlockData.Proofs.Number.Literals
import BlockData.Proofs.Number.Meaning
import BlockData.Proofs.Number.Nearest
import BlockData.Proofs.Number.Rounding
import BlockData.Proofs.Parsing.Acceptance
import BlockData.Proofs.Parsing.Accounting
import BlockData.Proofs.Parsing.BlankLines
import BlockData.Proofs.Parsing.Concatenation
import BlockData.Proofs.Parsing.Contract
import BlockData.Proofs.Parsing.Decisions
import BlockData.Proofs.Parsing.Expectations
import BlockData.Proofs.Parsing.FirstError
import BlockData.Proofs.Parsing.LineEndings
import BlockData.Proofs.Parsing.Malformed
import BlockData.Proofs.Parsing.Outcome
import BlockData.Proofs.Parsing.ProgramTree
import BlockData.Proofs.Parsing.Pulls
import BlockData.Proofs.Parsing.Reading
import BlockData.Proofs.Parsing.Source
import BlockData.Proofs.Parsing.Spans
import BlockData.Proofs.Parsing.Stopping
import BlockData.Proofs.Parsing.Trivia
import BlockData.Proofs.Parsing.Wrapping
import BlockData.Proofs.Pulling.Agreement
import BlockData.Proofs.Pulling.Consumption
import BlockData.Proofs.Pulling.Contract
import BlockData.Proofs.Pulling.Parser
import BlockData.Proofs.Pulling.Rules
import BlockData.Proofs.Tool.FileSystem
import BlockData.Proofs.Tool.Runs
import BlockData.Proofs.Tree.Bodies
import BlockData.Proofs.Tree.Equality
import BlockData.Proofs.Tree.Links
import BlockData.Proofs.Tree.Places
import BlockData.Proofs.Tree.PreOrder
import BlockData.Proofs.Tree.Shape
import BlockData.Proofs.Tree.Spans
import BlockData.Proofs.Tree.Subtrees
import BlockData.Token
import BlockData.Tool.Arguments
import BlockData.Tool.Command
import BlockData.Tool.Files
import BlockData.Tool.Run
import BlockData.Value
import BlockData.Value.Inspection
