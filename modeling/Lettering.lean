import Lettering.Text.Quoted
import Lettering.Interval.Shift
import Lettering.Interval.Map
import Lettering.Rule.Document
import Lettering.Substitution
import Lettering.Bundle.Draft
import Lettering.Bundle.Chain
import Lettering.Preset
import Lettering.Composer.Describe
import Lettering.Proofs.Skipping
import Lettering.Proofs.Shifting
import Lettering.Proofs.Flattening
import Lettering.Proofs.Building
import Lettering.Proofs.Layering
import Lettering.Proofs.Coherence
import Lettering.Proofs.Visiting
import Lettering.Proofs.Reporting
import Lettering.Proofs.Meaning
import Lettering.Proofs.Decoding
import Lettering.Proofs.Overriding
import Lettering.Proofs.Forms
import Lettering.Proofs.Operations
import Lettering.Proofs.Naming
import Lettering.Proofs.Ordering
import Lettering.Proofs.Answering
import Lettering.Proofs.Inserting
import Lettering.Proofs.Listing
import Lettering.Proofs.Replacing
import Lettering.Proofs.WritingOut
import Lettering.Proofs.Refusing
import Lettering.Proofs.Failing
import Lettering.Proofs.Accounting
import Lettering.Proofs.Inverting
import Lettering.Proofs.Rearranging
import Lettering.Proofs.Spelling
import Lettering.Proofs.Editing
import Lettering.Proofs.Joining
import Lettering.Proofs.Choosing
import Lettering.Proofs.Pairing
import Lettering.Proofs.Locating
import Lettering.Proofs.Slicing
