import Peg.Main
import Peg.Proofs.Construction
import Peg.Proofs.Utf8
import Peg.Proofs.Journal
import Peg.Proofs.Combinators
import Peg.Proofs.Partition
import Peg.Proofs.Repetition
import Peg.Proofs.Checked
import Peg.Proofs.Derivation
import Peg.Proofs.StrictMatching
import Peg.Proofs.First
import Peg.Proofs.Spelling
import Peg.Proofs.Indifference
import Peg.Proofs.Leniency
import Peg.Proofs.Lead
import Peg.Proofs.Anchored
import Peg.Proofs.Totality
import Peg.Proofs.Homomorphism
import Peg.Proofs.Exchange
import Peg.Proofs.Success
import Peg.Proofs.Sequence
import Peg.Proofs.Guards
import Peg.Proofs.Chain
import Peg.Proofs.Token
import Peg.Proofs.NumberList
import Peg.Proofs.Found
import Peg.Proofs.Printed
import Peg.Proofs.Skipping
import Peg.Proofs.Expectation
import Peg.Proofs.Identifier
import Peg.Proofs.Greeting
import Peg.Proofs.Visits
import Peg.Proofs.Unquoting
import Peg.Proofs.TreeReading
import Peg.Proofs.GrammarReading
import Peg.Proofs.Transcript
import Peg.Proofs.StandardInput
import Peg.Proofs.Occurrence
