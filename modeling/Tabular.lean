import Tabular.Dataset.Json
import Tabular.Dataset.Load
import Tabular.Dataset.Table
import Tabular.Proofs.Aliases
import Tabular.Proofs.Calculating
import Tabular.Proofs.Dependence
import Tabular.Proofs.Distance
import Tabular.Proofs.Equality
import Tabular.Proofs.Filtering
import Tabular.Proofs.Folding
import Tabular.Proofs.Imbalance
import Tabular.Proofs.Joining
import Tabular.Proofs.Joining.Measures
import Tabular.Proofs.Lifting
import Tabular.Proofs.Loading
import Tabular.Proofs.Membership
import Tabular.Proofs.Number.Whole
import Tabular.Proofs.Occurrences
import Tabular.Proofs.Order
import Tabular.Proofs.Projecting
import Tabular.Proofs.Remainder
import Tabular.Proofs.Renaming
import Tabular.Proofs.Rendering
import Tabular.Proofs.Safety
import Tabular.Proofs.Splitting
import Tabular.Proofs.Table.Conforming
import Tabular.Proofs.Table.Datapoint
import Tabular.Proofs.Table.Modes
import Tabular.Proofs.Table.Verdicts
import Tabular.Proofs.Termination
import Tabular.Proofs.Typing
import Tabular.Proofs.Uniqueness
import Tabular.Proofs.Window.Frames
import Tabular.Proofs.Window.Sums
import Tabular.Session
