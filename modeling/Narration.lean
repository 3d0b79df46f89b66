import Narration.Grammar.Placeholder
import Narration.Main
import Narration.Web.Service
import Narration.Proofs.Capitals
import Narration.Proofs.Edits
import Narration.Proofs.Passes
import Narration.Proofs.Seams
import Narration.Proofs.OwnPronouns
import Narration.Proofs.Bodies
import Narration.Proofs.Delivery
import Narration.Proofs.Surfaces
import Narration.Proofs.Accepted
import Narration.Proofs.Anonymity
import Narration.Proofs.Records
import Narration.Proofs.Verbatim
import Narration.Proofs.NormalForm
import Narration.Proofs.Breaking
import Narration.Proofs.FailedSetUp
import Narration.Proofs.CapitalForms
import Narration.Proofs.FirstLetters
import Narration.Proofs.Spellings
import Narration.Proofs.Leniency
import Narration.Proofs.Leftovers
import Narration.Proofs.LaterTargets
import Narration.Proofs.Enforcement
import Narration.Proofs.Persons
import Narration.Proofs.Genders
import Narration.Proofs.Cells
import Narration.Proofs.LevelNames
import Narration.Proofs.Endings
import Narration.Proofs.Flags
