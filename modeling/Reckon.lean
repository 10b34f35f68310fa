import Reckon.Text.CharSet
import Reckon.Text.Word
import Reckon.Text.Digit
import Reckon.Text.Uppercase
import Reckon.Text.Cased
import Reckon.Text.Lowercase
import Reckon.Text.Printable
import Reckon.Text.Blank
import Reckon.Text.Width
import Reckon.Text.Cluster
import Reckon.Text.Quoted
import Reckon.Text.Location
import Reckon.Text.Parts
import Reckon.Text.Emoji
import Reckon.Text.CharacterName
import Reckon.Decimal.Shortest
import Reckon.Decimal.Layout
import Reckon.Decimal.Read
import Reckon.Numeric
import Reckon.Lexis.Regex
import Reckon.Lexis.Template
import Reckon.Lexis.Pattern
import Reckon.Lexis.Token
import Reckon.Grammar.Basic
import Reckon.Grammar.Check
import Reckon.Grammar.Printer
import Reckon.Cfg.Basic
import Reckon.Cfg.Chart
import Reckon.Cfg.Corner
import Reckon.Node
import Reckon.Match.Failure
import Reckon.Match.Matcher
import Reckon.Arithmetic
import Reckon.Operation.Registry
import Reckon.Operation.Definition
import Reckon.Operation.Visit
import Reckon.Environment.Basic
import Reckon.Environment.Standard
import Reckon.Journal
import Reckon.Interpreter.Session
import Reckon.Interpreter.Actions
import Reckon.Interpreter.Run
import Reckon.Parenthesizer
import Reckon.Highlight
import Reckon.Completion
import Reckon.Settings.Given
import Reckon.Settings.Basic
import Reckon.Settings.Ini
import Reckon.Settings.Load
import Reckon.Literal.Lexeme
import Reckon.Literal.Reader
import Reckon.Shell.Shortcode
import Reckon.Shell.Colour
import Reckon.Shell.Style
import Reckon.Shell.StyledText
import Reckon.Shell.Markup
import Reckon.Shell.Emphasis
import Reckon.Shell.Wrap
import Reckon.Shell.Console
import Reckon.Shell.Table
import Reckon.Shell.Help
import Reckon.Shell.Command
import Reckon.Shell.Step
import Reckon.Shell.TypedLine
import Reckon.Shell.Transcript
import Reckon.Main
import Reckon.Proofs.Cfg.Language
import Reckon.Proofs.Cfg.Agenda
import Reckon.Proofs.Cfg.Column
import Reckon.Proofs.Cfg.Reading
import Reckon.Proofs.Lexis.Regex
import Reckon.Proofs.Lexis.Scan
import Reckon.Proofs.Grammar.Derivation
import Reckon.Proofs.Match.SyntaxTree
import Reckon.Proofs.Match.Outcome
import Reckon.Proofs.Operation.Visit
import Reckon.Proofs.Table
import Reckon.Proofs.Operation.Registry
import Reckon.Proofs.Arithmetic.Lexeme
import Reckon.Proofs.Arithmetic.Recognition
import Reckon.Proofs.Arithmetic.Syntax
import Reckon.Proofs.Arithmetic.Grouping
import Reckon.Proofs.Arithmetic.Phrase
import Reckon.Proofs.Arithmetic.Reading
import Reckon.Proofs.Arithmetic.Sentence
import Reckon.Proofs.Arithmetic.Evaluation
import Reckon.Proofs.Arithmetic.Running
import Reckon.Proofs.Arithmetic.Rendering
import Reckon.Proofs.Arithmetic.Parenthesized
import Reckon.Proofs.Cfg.Ambiguity
import Reckon.Proofs.Arithmetic.Unambiguous
import Reckon.Proofs.Arithmetic.Formed
import Reckon.Proofs.Interpreter.Related
import Reckon.Proofs.Interpreter.Limit
import Reckon.Proofs.Environment.Protection
import Reckon.Proofs.Lexis.Slice
import Reckon.Proofs.Match.Span
import Reckon.Proofs.Match.Moved
import Reckon.Proofs.Arithmetic.Rematch
import Reckon.Proofs.Arithmetic.Precedence
import Reckon.Proofs.Interpreter.Failure
import Reckon.Proofs.Interpreter.Sequence
import Reckon.Proofs.Interpreter.Division
import Reckon.Proofs.Environment.Plain
import Reckon.Proofs.Operation.Balance
import Reckon.Proofs.Interpreter.Reuse
import Reckon.Proofs.Environment.History
import Reckon.Proofs.Arithmetic.Erasure
import Reckon.Proofs.Arithmetic.Height
import Reckon.Proofs.Shell.Survival
import Reckon.Proofs.Checks
import Reckon.Proofs.Grammar.WellFormed
import Reckon.Proofs.Grammar.Splitting
import Reckon.Proofs.Grammar.ListNames
import Reckon.Proofs.Grammar.Naming
import Reckon.Proofs.Operation.Served
import Reckon.Proofs.Operation.Definition
import Reckon.Proofs.Arithmetic.Mention
import Reckon.Proofs.Shell.Printing
import Reckon.Proofs.Shell.Lines
import Reckon.Proofs.Settings.Reached
import Reckon.Proofs.Shell.InStep
import Reckon.Proofs.Shell.CommandWord
import Reckon.Proofs.Match.Places
import Reckon.Proofs.Match.Spacing
import Reckon.Proofs.Arithmetic.Spacing
import Reckon.Proofs.Interpreter.Spacing
import Reckon.Proofs.Interpreter.Trace
import Reckon.Proofs.Interpreter.Shadowing
import Reckon.Proofs.Match.Location
import Reckon.Proofs.Operation.Calls
import Reckon.Proofs.Lexis.Blank
import Reckon.Proofs.Arithmetic.Callee
import Reckon.Proofs.Arithmetic.Highlighting
import Reckon.Proofs.Grammar.Delimiters
import Reckon.Proofs.Grammar.ListRules
import Reckon.Proofs.Settings.Requests
import Reckon.Proofs.Text.Quoted
import Reckon.Proofs.Outline
