import Walkthrough.Expr.Outline
import Walkthrough.Main
import Walkthrough.Proofs.Closures
import Walkthrough.Proofs.Comments
import Walkthrough.Proofs.ExportedEntries
import Walkthrough.Proofs.Fallback
import Walkthrough.Proofs.GuardedBodies
import Walkthrough.Proofs.Independence
import Walkthrough.Proofs.IntegerTexts
import Walkthrough.Proofs.Literals
import Walkthrough.Proofs.Parameters
import Walkthrough.Proofs.Ranges
import Walkthrough.Proofs.Repetition
import Walkthrough.Proofs.Termination
import Walkthrough.Proofs.TrueConditions
import Walkthrough.Proofs.Footprint
import Walkthrough.Proofs.Nesting
import Walkthrough.Proofs.Resilience
import Walkthrough.Proofs.Descriptions
import Walkthrough.Proofs.Slices
import Walkthrough.Proofs.Fields
import Walkthrough.Proofs.Isomorphism
