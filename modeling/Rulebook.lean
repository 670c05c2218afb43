import Rulebook.Http.Server
import Rulebook.Metrics.Exposition
import Rulebook.Metrics.Start
import Rulebook.Settings.Load
import Rulebook.Proofs.Rendering
import Rulebook.Proofs.Reposting
import Rulebook.Proofs.Ledger
import Rulebook.Proofs.Relevance
import Rulebook.Proofs.Spelling
import Rulebook.Proofs.FiniteNumber
import Rulebook.Proofs.FormRequests
import Rulebook.Proofs.Monotone
import Rulebook.Proofs.FailedEvaluation
import Rulebook.Proofs.SingleRule
import Rulebook.Proofs.Confirmation
import Rulebook.Proofs.PathLabels
import Rulebook.Proofs.Interleaving
import Rulebook.Proofs.TwoReaders
import Rulebook.Proofs.Concatenation
import Rulebook.Proofs.JudgedNodes
import Rulebook.Proofs.LeftmostError
import Rulebook.Proofs.Trace
import Rulebook.Proofs.Recording
import Rulebook.Proofs.TracedRequests
import Rulebook.Proofs.FirstMisplaced
import Rulebook.Proofs.Placement
import Rulebook.Proofs.EarliestError
import Rulebook.Proofs.Slices
import Rulebook.Proofs.Unambiguous
import Rulebook.Proofs.StrictShape
import Rulebook.Proofs.EarlyResolution
import Rulebook.Proofs.SixRelations
import Rulebook.Proofs.AttributeNames
import Rulebook.Proofs.NumberPatterns
import Rulebook.Proofs.NumeralWalk
import Rulebook.Proofs.RewrittenValues
import Rulebook.Proofs.Turns
import Rulebook.Proofs.Ways
