import LineSieve.Main
import LineSieve.Proofs.Appending
import LineSieve.Proofs.Arguments
import LineSieve.Proofs.Concatenation
import LineSieve.Proofs.Endings
import LineSieve.Proofs.Faults
import LineSieve.Proofs.Frame
import LineSieve.Proofs.Identity
import LineSieve.Proofs.Image
import LineSieve.Proofs.Interleaving
import LineSieve.Proofs.Items
import LineSieve.Proofs.Links
import LineSieve.Proofs.Precedence
import LineSieve.Proofs.Reading
import LineSieve.Proofs.References
import LineSieve.Proofs.Refiltering
import LineSieve.Proofs.Replacing
import LineSieve.Proofs.Rewriting
import LineSieve.Proofs.Roots
import LineSieve.Proofs.Selection
import LineSieve.Proofs.Shown
import LineSieve.Proofs.Sources
import LineSieve.Proofs.Spelling
import LineSieve.Proofs.Splitting
import LineSieve.Proofs.Survivors
