import ReviewPrep.Text.Basic
import ReviewPrep.Text.Integer
import ReviewPrep.Text.WordChar
import ReviewPrep.Text.Printable
import ReviewPrep.Text.Case.Upper
import ReviewPrep.Text.Case.Context
import ReviewPrep.Text.Case.Lower
import ReviewPrep.Text.Surrogate
import ReviewPrep.Text.Base64
import ReviewPrep.Language
import ReviewPrep.Decimal.Binary
import ReviewPrep.Decimal.Shortest
import ReviewPrep.Decimal.Numeral
import ReviewPrep.Decimal.Exact
import ReviewPrep.Quantity
import ReviewPrep.Json
import ReviewPrep.Tokens.Estimate
import ReviewPrep.Tokens.Budget
import ReviewPrep.Config
import ReviewPrep.Text.Utf8
import ReviewPrep.Pattern.Basic
import ReviewPrep.Pattern.Match
import ReviewPrep.Chunk.Basic
import ReviewPrep.Chunk.Boundary
import ReviewPrep.Chunk.Split
import ReviewPrep.Report
import ReviewPrep.Diff.Basic
import ReviewPrep.Diff.Header
import ReviewPrep.Diff.Scan
import ReviewPrep.Priority
import ReviewPrep.Outline.Basic
import ReviewPrep.Outline.Scan
import ReviewPrep.Outline.Go
import ReviewPrep.Outline.Script
import ReviewPrep.Outline.Python
import ReviewPrep.Outline.Java
import ReviewPrep.Outline.Rust
import ReviewPrep.Outline.CFamily
import ReviewPrep.Outline.Grammar
import ReviewPrep.Prompt.Render
import ReviewPrep.Prompt.Request
import ReviewPrep.Command
import ReviewPrep.Main
import ReviewPrep.Proofs.Lines
import ReviewPrep.Proofs.Chunk.Tiling
import ReviewPrep.Proofs.Chunk.Cut
import ReviewPrep.Proofs.Chunk.Partition
import ReviewPrep.Proofs.Diff.Header
import ReviewPrep.Proofs.Diff.Step
import ReviewPrep.Proofs.Diff.HunkStarts
import ReviewPrep.Proofs.Diff.Render
import ReviewPrep.Proofs.Diff.RoundTrip
import ReviewPrep.Proofs.Prompt.Outcome
import ReviewPrep.Proofs.LineEndings
import ReviewPrep.Proofs.Diff.Append
import ReviewPrep.Proofs.Outline.Within
import ReviewPrep.Proofs.Outline.Ranges
import ReviewPrep.Proofs.Tokens.Rounding
import ReviewPrep.Proofs.Tokens.Infix
import ReviewPrep.Proofs.Chunk.Strict
import ReviewPrep.Proofs.Tokens.BudgetRun
import ReviewPrep.Proofs.Diff.Records
import ReviewPrep.Proofs.Chunk.Undeclared
import ReviewPrep.Proofs.Chunk.OverBudget
import ReviewPrep.Proofs.Priority
import ReviewPrep.Proofs.Diff.Markers
import ReviewPrep.Proofs.Chunk.Declarations
import ReviewPrep.Proofs.Outline.Nesting
import ReviewPrep.Proofs.Outline.TopLevel
