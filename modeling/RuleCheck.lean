import RuleCheck.Text.Blank
import RuleCheck.Text.Letter
import RuleCheck.Text.Substitute
import RuleCheck.Text.Quoted
import RuleCheck.Number.Shortest
import RuleCheck.Number.Numeral
import RuleCheck.Number.Scalar
import RuleCheck.Value
import RuleCheck.Value.Written
import RuleCheck.Fault
import RuleCheck.Token
import RuleCheck.Token.Scan
import RuleCheck.Expr
import RuleCheck.Expr.Read
import RuleCheck.Expr.Written
import RuleCheck.Authored
import RuleCheck.Column
import RuleCheck.Evaluate
import RuleCheck.Member.Annotation
import RuleCheck.Settings
import RuleCheck.Settings.Configuration
import RuleCheck.Member.Candidate
import RuleCheck.Journal
import RuleCheck.Outcome
import RuleCheck.Rule
import RuleCheck.Journal.Console
import RuleCheck.Data.Moment
import RuleCheck.Data.Scalar
import RuleCheck.Data.Glyph
import RuleCheck.Data.Node
import RuleCheck.Data.File
import RuleCheck.Command.Arguments
import RuleCheck.Command.Document
import RuleCheck.Command.Display
import RuleCheck.Command.Run
import RuleCheck.Main
import RuleCheck.Proofs.Grammar
import RuleCheck.Proofs.Reading.Stack
import RuleCheck.Proofs.Reading.Complete
import RuleCheck.Proofs.Reading.Sound
import RuleCheck.Proofs.Reading.Exact
import RuleCheck.Proofs.Reading.Repair
import RuleCheck.Proofs.Number.Decimal
import RuleCheck.Proofs.Number.Place
import RuleCheck.Proofs.Number.Nearest
import RuleCheck.Proofs.Token.Numeral
import RuleCheck.Proofs.Token.First
import RuleCheck.Proofs.Token.Spelling
import RuleCheck.Proofs.Expr.Canonical
import RuleCheck.Proofs.Row.Used
import RuleCheck.Proofs.Row.Cell
import RuleCheck.Proofs.Row.Declared
import RuleCheck.Proofs.Expr.Typed
import RuleCheck.Proofs.Expr.Strict
import RuleCheck.Proofs.Expr.Filled
import RuleCheck.Proofs.Alike
import RuleCheck.Proofs.Text.Case
import RuleCheck.Proofs.Text.Substitute
import RuleCheck.Proofs.Text.Occurrence
import RuleCheck.Proofs.Text.Pieces
import RuleCheck.Proofs.Token.Placeless
import RuleCheck.Proofs.Token.Seam
import RuleCheck.Proofs.Token.Taken
import RuleCheck.Proofs.Token.Tiling
import RuleCheck.Proofs.Token.Rendering
import RuleCheck.Proofs.Reading.Unplaced
import RuleCheck.Proofs.Row.Single
import RuleCheck.Proofs.Expr.Verdict
import RuleCheck.Proofs.Expr.Unreferenced
import RuleCheck.Proofs.Expr.Joined
import RuleCheck.Proofs.Authored.Respelled
import RuleCheck.Proofs.Authored.Apart
import RuleCheck.Proofs.Authored.Untouched
import RuleCheck.Proofs.Authored.Quiet
import RuleCheck.Proofs.Authored.Stable
import RuleCheck.Proofs.Authored.Placeholder
import RuleCheck.Proofs.Authored.Lexed
import RuleCheck.Proofs.Authored.Cut
import RuleCheck.Proofs.Authored.Checked
import RuleCheck.Proofs.Authored.Spacing
import RuleCheck.Proofs.Authored.Literal
import RuleCheck.Proofs.Authored.Printed
import RuleCheck.Proofs.Ending
import RuleCheck.Proofs.Value.Held
import RuleCheck.Proofs.Value.Rejecting
import RuleCheck.Proofs.Expr.Escaping
import RuleCheck.Proofs.Expr.Unresolved
import RuleCheck.Proofs.Expr.Plain
import RuleCheck.Proofs.Value.Trichotomy
import RuleCheck.Proofs.Row.Loose
import RuleCheck.Proofs.Row.Referents
import RuleCheck.Proofs.Row.Kept
import RuleCheck.Proofs.Row.Register
import RuleCheck.Proofs.Member.Mapping
import RuleCheck.Proofs.Member.Lone
import RuleCheck.Proofs.Authored.Identified
import RuleCheck.Proofs.Authored.Named
import RuleCheck.Proofs.Value.Mirrored
import RuleCheck.Proofs.Expr.Dual
import RuleCheck.Proofs.Expr.Shuffled
import RuleCheck.Proofs.Expr.Recased
import RuleCheck.Proofs.Expr.Located
import RuleCheck.Proofs.Settings.Snapshot
import RuleCheck.Proofs.Authored.Violated
import RuleCheck.Proofs.Authored.Recorded
import RuleCheck.Proofs.Journal.Kept
import RuleCheck.Proofs.Text.Line
import RuleCheck.Proofs.Journal.Line
import RuleCheck.Proofs.Command.Spelled
import RuleCheck.Proofs.Command.Exit
import RuleCheck.Proofs.Member.Closed
import RuleCheck.Proofs.Member.Described
import RuleCheck.Proofs.Member.Added
import RuleCheck.Proofs.Number.Remainder
import RuleCheck.Proofs.Text.Run
import RuleCheck.Proofs.Text.Leftmost
import RuleCheck.Proofs.Member.Once
