import Trampoline.Script.Session
import Trampoline.Proofs.Pool
import Trampoline.Proofs.Situation
import Trampoline.Proofs.Shelter
import Trampoline.Proofs.Move.Next
import Trampoline.Proofs.Course
import Trampoline.Proofs.Ledger
import Trampoline.Proofs.Reachable
import Trampoline.Proofs.Delivery
import Trampoline.Proofs.Completion
import Trampoline.Proofs.Nesting
import Trampoline.Proofs.Likeness
import Trampoline.Proofs.Transcript
import Trampoline.Proofs.Dialogue
import Trampoline.Proofs.Evaluator
import Trampoline.Proofs.Refinement
import Trampoline.Proofs.Lockstep
import Trampoline.Proofs.Timing
import Trampoline.Proofs.Schedules
import Trampoline.Proofs.Tokens
import Trampoline.Proofs.Move.Host
import Trampoline.Proofs.Prefix
import Trampoline.Proofs.Later
import Trampoline.Proofs.Iteration
import Trampoline.Proofs.Cancellation
import Trampoline.Proofs.Exclusion
import Trampoline.Proofs.Answering
import Trampoline.Proofs.Region
import Trampoline.Proofs.Shielding
import Trampoline.Proofs.Restoring
import Trampoline.Proofs.Uncancelable
import Trampoline.Proofs.Masking
import Trampoline.Proofs.Move.Above
import Trampoline.Proofs.Stepping
import Trampoline.Proofs.Numbering
import Trampoline.Proofs.Handover
import Trampoline.Proofs.Residue
import Trampoline.Proofs.Graph
import Trampoline.Proofs.Walk
import Trampoline.Proofs.Calls
import Trampoline.Proofs.Detour
import Trampoline.Proofs.Without
import Trampoline.Proofs.Flattening
import Trampoline.Proofs.Transparency
import Trampoline.Proofs.Bracketing
import Trampoline.Proofs.Move.Threads
import Trampoline.Proofs.Parking
import Trampoline.Proofs.Placement
import Trampoline.Proofs.Move.Panics
import Trampoline.Proofs.Capturing
import Trampoline.Proofs.Recovery
import Trampoline.Proofs.Enclosure
import Trampoline.Proofs.Dropping
import Trampoline.Proofs.Renaming
import Trampoline.Proofs.Agreement
import Trampoline.Proofs.Independence
import Trampoline.Proofs.Reordering
import Trampoline.Proofs.Activations
import Trampoline.Proofs.Variation
import Trampoline.Proofs.Deeds
import Trampoline.Proofs.Following
import Trampoline.Proofs.Pacing
import Trampoline.Proofs.Counterparts
import Trampoline.Proofs.Grouping
import Trampoline.Proofs.Wrapping
import Trampoline.Proofs.Guarding
import Trampoline.Proofs.Loading
import Trampoline.Proofs.Move.Slim
import Trampoline.Proofs.Installing
import Trampoline.Proofs.Stacking
import Trampoline.Proofs.Segment
import Trampoline.Proofs.Cells
import Trampoline.Proofs.Move.Bounds
import Trampoline.Proofs.Faults
