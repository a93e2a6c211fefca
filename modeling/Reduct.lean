import Reduct.Session
import Reduct.Proofs.Parse.RoundTrip
import Reduct.Proofs.Pattern.Matching
import Reduct.Proofs.Scope.Chains
import Reduct.Proofs.Scope.Closing
import Reduct.Proofs.Evaluation.FixedPoint
import Reduct.Proofs.Expr.Ordering
import Reduct.Proofs.Rule.Sorting
import Reduct.Proofs.Token.Segments
import Reduct.Proofs.Parse.Precedence
import Reduct.Proofs.Parse.LeadingOperand
import Reduct.Proofs.Parse.Completion
import Reduct.Proofs.Evaluation.Isolation
import Reduct.Proofs.Evaluation.RaisedLimits
import Reduct.Proofs.Evaluation.Freshness
import Reduct.Proofs.Session.Freshness
import Reduct.Proofs.Session.Accesses
import Reduct.Proofs.Rule.Marks
import Reduct.Proofs.Evaluation.Record
import Reduct.Proofs.Rule.Precedence
import Reduct.Proofs.Scope.ReadBack
import Reduct.Proofs.Operation.Clearing
import Reduct.Proofs.Evaluation.CanonicalForm
import Reduct.Proofs.Evaluation.Broadcasting
import Reduct.Proofs.Evaluation.FirstFailure
import Reduct.Proofs.Evaluation.Holding
import Reduct.Proofs.Evaluation.IterationLimit
import Reduct.Proofs.Evaluation.RecursionLimit
import Reduct.Proofs.Rule.Replacing
import Reduct.Proofs.Rule.HeldBelow
import Reduct.Proofs.Session.Discipline
import Reduct.Proofs.Evaluation.Currying
import Reduct.Proofs.Rule.Renaming
import Reduct.Proofs.Parse.Layout
import Reduct.Proofs.Parse.NewOperators
import Reduct.Proofs.Parse.ErrorPlaces
import Reduct.Proofs.Parse.LiveOperators
import Reduct.Proofs.Operation.Splitting
import Reduct.Proofs.Operation.Connectives
import Reduct.Proofs.Operation.Folding
import Reduct.Proofs.Operation.Introducing
