import Spreadsheet.Calendar.Date
import Spreadsheet.Calendar.Layout
import Spreadsheet.Calendar.Moment
import Spreadsheet.Calendar.Period
import Spreadsheet.Calendar.Reader
import Spreadsheet.Decimal.Binary
import Spreadsheet.Decimal.Fixed
import Spreadsheet.Decimal.Integral
import Spreadsheet.Decimal.Power
import Spreadsheet.Decimal.Reader
import Spreadsheet.Decimal.Rounding
import Spreadsheet.Decimal.Shortest
import Spreadsheet.Decimal.Sorting
import Spreadsheet.Engine.Basic
import Spreadsheet.Engine.Host
import Spreadsheet.Engine.Memory
import Spreadsheet.Engine.Reading
import Spreadsheet.Evaluation.Argument
import Spreadsheet.Evaluation.Context
import Spreadsheet.Evaluation.Evaluate
import Spreadsheet.Evaluation.Operation
import Spreadsheet.Evaluation.Program
import Spreadsheet.Formula.Error
import Spreadsheet.Formula.Expr
import Spreadsheet.Formula.Function
import Spreadsheet.Formula.Operator
import Spreadsheet.Formula.Parser
import Spreadsheet.Formula.Reference
import Spreadsheet.Formula.Scan
import Spreadsheet.Formula.Token
import Spreadsheet.Functions.Annuities
import Spreadsheet.Functions.Arithmetic
import Spreadsheet.Functions.Characters
import Spreadsheet.Functions.Conditional
import Spreadsheet.Functions.Dates
import Spreadsheet.Functions.Logic
import Spreadsheet.Functions.Lookups
import Spreadsheet.Functions.Statistics
import Spreadsheet.Grid.Address
import Spreadsheet.Grid.Change
import Spreadsheet.Grid.Column
import Spreadsheet.Grid.Content
import Spreadsheet.Grid.Error
import Spreadsheet.Grid.Range
import Spreadsheet.Grid.Workbook
import Spreadsheet.Grid.Worksheet
import Spreadsheet.Proofs.Calendar.Anniversaries
import Spreadsheet.Proofs.Calendar.Civil
import Spreadsheet.Proofs.Calendar.MomentTexts
import Spreadsheet.Proofs.Calendar.Periods
import Spreadsheet.Proofs.Calendar.RolledDates
import Spreadsheet.Proofs.Calendar.Serials
import Spreadsheet.Proofs.Decimal.FixedText
import Spreadsheet.Proofs.Decimal.Nearest
import Spreadsheet.Proofs.Decimal.Opposites
import Spreadsheet.Proofs.Decimal.Order
import Spreadsheet.Proofs.Decimal.Powers
import Spreadsheet.Proofs.Decimal.Products
import Spreadsheet.Proofs.Decimal.Quotients
import Spreadsheet.Proofs.Decimal.Rescaling
import Spreadsheet.Proofs.Decimal.RoundedTwice
import Spreadsheet.Proofs.Decimal.Shifts
import Spreadsheet.Proofs.Decimal.Sorting
import Spreadsheet.Proofs.Decimal.Sums
import Spreadsheet.Proofs.Decimal.Whole
import Spreadsheet.Proofs.Decimal.WholePart
import Spreadsheet.Proofs.Decimal.Zeros
import Spreadsheet.Proofs.Engine.Accounts
import Spreadsheet.Proofs.Engine.Acyclic
import Spreadsheet.Proofs.Engine.Arity
import Spreadsheet.Proofs.Engine.Caching
import Spreadsheet.Proofs.Engine.Chains
import Spreadsheet.Proofs.Engine.ConditionalSums
import Spreadsheet.Proofs.Engine.Conjunctions
import Spreadsheet.Proofs.Engine.Constants
import Spreadsheet.Proofs.Engine.Counting
import Spreadsheet.Proofs.Engine.Cuts
import Spreadsheet.Proofs.Engine.Cycles
import Spreadsheet.Proofs.Engine.DateDifferences
import Spreadsheet.Proofs.Engine.DateParts
import Spreadsheet.Proofs.Engine.Defined
import Spreadsheet.Proofs.Engine.Dependencies
import Spreadsheet.Proofs.Engine.Expressions
import Spreadsheet.Proofs.Engine.Finding
import Spreadsheet.Proofs.Engine.Guarded
import Spreadsheet.Proofs.Engine.HeldRanges
import Spreadsheet.Proofs.Engine.HiddenCells
import Spreadsheet.Proofs.Engine.Indexing
import Spreadsheet.Proofs.Engine.Keys
import Spreadsheet.Proofs.Engine.Names
import Spreadsheet.Proofs.Engine.Nesting
import Spreadsheet.Proofs.Engine.RangeValues
import Spreadsheet.Proofs.Engine.Ranking
import Spreadsheet.Proofs.Engine.Recursion
import Spreadsheet.Proofs.Engine.Removal
import Spreadsheet.Proofs.Engine.Results
import Spreadsheet.Proofs.Engine.RoundedTwice
import Spreadsheet.Proofs.Engine.Searching
import Spreadsheet.Proofs.Engine.SortedMatch
import Spreadsheet.Proofs.Engine.Substituting
import Spreadsheet.Proofs.Engine.TableLookup
import Spreadsheet.Proofs.Engine.Transposed
import Spreadsheet.Proofs.Engine.Trees
import Spreadsheet.Proofs.Evaluation.Answers
import Spreadsheet.Proofs.Evaluation.Bounds
import Spreadsheet.Proofs.Evaluation.ExprScope
import Spreadsheet.Proofs.Evaluation.FunctionScope
import Spreadsheet.Proofs.Evaluation.Outcomes
import Spreadsheet.Proofs.Evaluation.Scope
import Spreadsheet.Proofs.Evaluation.Strict
import Spreadsheet.Proofs.Formula.Acceptance
import Spreadsheet.Proofs.Formula.Counted
import Spreadsheet.Proofs.Formula.Display
import Spreadsheet.Proofs.Formula.Hostless
import Spreadsheet.Proofs.Formula.Printing
import Spreadsheet.Proofs.Formula.Progress
import Spreadsheet.Proofs.Formula.QuotedSheets
import Spreadsheet.Proofs.Formula.Reads
import Spreadsheet.Proofs.Formula.Written
import Spreadsheet.Proofs.Functions.Aggregates
import Spreadsheet.Proofs.Functions.ConditionalSums
import Spreadsheet.Proofs.Functions.Criteria
import Spreadsheet.Proofs.Functions.Lookups
import Spreadsheet.Proofs.Functions.Rounding
import Spreadsheet.Proofs.Functions.Selections
import Spreadsheet.Proofs.Functions.Texts
import Spreadsheet.Proofs.Grid.ColumnLetters
import Spreadsheet.Proofs.Grid.Cuts
import Spreadsheet.Proofs.Grid.Part
import Spreadsheet.Proofs.Grid.RoundTrip
import Spreadsheet.Proofs.Grid.Sheets
import Spreadsheet.Proofs.Grid.Storage
import Spreadsheet.Proofs.Text.Occurrences
import Spreadsheet.Proofs.Text.Parts
import Spreadsheet.Proofs.Value.Differences
import Spreadsheet.Proofs.Value.ExactSearch
import Spreadsheet.Proofs.Value.Extremes
import Spreadsheet.Proofs.Value.MomentTexts
import Spreadsheet.Proofs.Value.NotANumber
import Spreadsheet.Proofs.Value.NumberTexts
import Spreadsheet.Proofs.Value.Occurrences
import Spreadsheet.Proofs.Value.Order
import Spreadsheet.Proofs.Value.SignedTexts
import Spreadsheet.Proofs.Value.SortedSearch
import Spreadsheet.Proofs.Value.Wildcards
import Spreadsheet.Text.Automaton
import Spreadsheet.Text.Blank
import Spreadsheet.Text.ByteRange
import Spreadsheet.Text.CaseMap
import Spreadsheet.Text.Casing
import Spreadsheet.Text.CodeSet
import Spreadsheet.Text.Fingerprint
import Spreadsheet.Text.Fold
import Spreadsheet.Text.Glob
import Spreadsheet.Text.Letter
import Spreadsheet.Text.Matching
import Spreadsheet.Text.Occurrence
import Spreadsheet.Text.Pattern
import Spreadsheet.Text.TailSet
import Spreadsheet.Value.Aggregate
import Spreadsheet.Value.Annuity
import Spreadsheet.Value.Basic
import Spreadsheet.Value.Coercion
import Spreadsheet.Value.Comparison
import Spreadsheet.Value.Criterion
import Spreadsheet.Value.Display
import Spreadsheet.Value.Lookup
import Spreadsheet.Value.Numeral
import Spreadsheet.Value.Wildcard
