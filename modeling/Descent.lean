import Descent.Blueprint.Construction
import Descent.Context
import Descent.Diagnostic
import Descent.Diagnostic.Template
import Descent.Parse
import Descent.Position.LineIndex
import Descent.Proofs.DeepestPoint
import Descent.Proofs.PrefixIndependence
import Descent.Proofs.LazyTransparency
import Descent.Proofs.Sexpr
import Descent.Proofs.LineIndex
import Descent.Proofs.Log
import Descent.Proofs.Lossless
import Descent.Proofs.Marks
import Descent.Proofs.WholeInput
import Descent.Proofs.Repetition
import Descent.Proofs.ReturnedFailure
import Descent.Proofs.Splitting
import Descent.Proofs.Attempt
import Descent.Proofs.Choice
import Descent.Proofs.Leftover
import Descent.Proofs.Reordering
import Descent.Proofs.Halting
import Descent.Proofs.Sequence
import Descent.Proofs.Literals
import Descent.Proofs.Balance
import Descent.Proofs.Factoring
import Descent.Proofs.CharacterClasses
import Descent.Proofs.PositionOrder
import Descent.Proofs.Programs
import Descent.Proofs.ErrorReport
import Descent.Proofs.Acceptance
