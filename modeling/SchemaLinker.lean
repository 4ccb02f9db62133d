import SchemaLinker.Encoding.Outcome
import SchemaLinker.Fault.Tree
import SchemaLinker.Proofs.Intake
import SchemaLinker.Proofs.Reference
import SchemaLinker.Resolution.Basic
import SchemaLinker.Proofs.Review
import SchemaLinker.Proofs.Synthesis
import SchemaLinker.Proofs.Harvest
import SchemaLinker.Proofs.History
import SchemaLinker.Proofs.Verdict
import SchemaLinker.Proofs.JunctionTables
import SchemaLinker.Proofs.Growth
import SchemaLinker.Proofs.FixedPoint
import SchemaLinker.Proofs.JunctionLink
import SchemaLinker.Proofs.Stability
import SchemaLinker.Proofs.Resumption
import SchemaLinker.Proofs.Isolation
import SchemaLinker.Proofs.Assembly
import SchemaLinker.Proofs.DeclarationOrder
import SchemaLinker.Proofs.Expansion
import SchemaLinker.Proofs.NamePolicy
import SchemaLinker.Proofs.Provenance
import SchemaLinker.Proofs.JunctionColumns
import SchemaLinker.Proofs.Batching
import SchemaLinker.Proofs.Verification
import SchemaLinker.Proofs.Requests
import SchemaLinker.Proofs.RoundTrip
import SchemaLinker.Proofs.Inverse
import SchemaLinker.Proofs.PairErrors
import SchemaLinker.Proofs.Flattening
import SchemaLinker.Proofs.Identifier
import SchemaLinker.Proofs.MadeJunction
import SchemaLinker.Proofs.DefaultColumns
import SchemaLinker.Proofs.LinkDiagnostics
import SchemaLinker.Proofs.Admission
import SchemaLinker.Proofs.Printing
import SchemaLinker.Proofs.CircularKeys
import SchemaLinker.Proofs.ReportOrder
import SchemaLinker.Proofs.QueuedJunctions
import SchemaLinker.Proofs.Context
import SchemaLinker.Proofs.Settling
