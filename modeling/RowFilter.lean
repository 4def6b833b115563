import RowFilter.Json.PredicateForms
import RowFilter.Json.Reader
import RowFilter.Main
import RowFilter.Predicate.FromText
import RowFilter.Predicate.Meaning
import RowFilter.Syntax.Written
import RowFilter.Proofs.Predicate.Acceptance
import RowFilter.Proofs.Predicate.Agreement
import RowFilter.Proofs.Syntax.Coverage
import RowFilter.Proofs.Syntax.Grammar
import RowFilter.Proofs.Syntax.RoundTrip
import RowFilter.Proofs.Predicate.Refusal
import RowFilter.Proofs.Predicate.Typing
import RowFilter.Proofs.Syntax.Location
import RowFilter.Proofs.Syntax.Concatenation
import RowFilter.Proofs.Syntax.Cutting
import RowFilter.Proofs.Row.Resolution
import RowFilter.Proofs.Syntax.Limit
import RowFilter.Proofs.Predicate.LetterCase
import RowFilter.Proofs.Json.RoundTrip
import RowFilter.Proofs.Predicate.Content
import RowFilter.Proofs.Predicate.ExpressionText
import RowFilter.Proofs.Predicate.DateTimeLiteral
import RowFilter.Proofs.Predicate.Comparison
import RowFilter.Proofs.Row.Declaration
import RowFilter.Proofs.Predicate.Lookup
import RowFilter.Proofs.Text.Numeral
import RowFilter.Proofs.Value.Number
import RowFilter.Proofs.Value.DateTime
import RowFilter.Proofs.Value.Preorder
import RowFilter.Proofs.Value.Uuid
import RowFilter.Proofs.Predicate.Token
import RowFilter.Proofs.Report.Caret
import RowFilter.Proofs.Syntax.PathText
import RowFilter.Proofs.Json.Atoms
import RowFilter.Proofs.Json.Pretty
import RowFilter.Proofs.Report.Output
