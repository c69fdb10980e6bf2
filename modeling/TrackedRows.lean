import TrackedRows.Form.Session
import TrackedRows.Json.Reader
import TrackedRows.Json.Writer
import TrackedRows.Session.Command
import TrackedRows.Proofs.Landing
import TrackedRows.Proofs.Reconcile
import TrackedRows.Proofs.Copy
import TrackedRows.Proofs.Scene
import TrackedRows.Proofs.Step
import TrackedRows.Proofs.Stamps
import TrackedRows.Proofs.Sound
import TrackedRows.Proofs.Lifetime
import TrackedRows.Proofs.CommitView
import TrackedRows.Proofs.Version
import TrackedRows.Proofs.Conflict
import TrackedRows.Proofs.Storage
import TrackedRows.Proofs.Execution
import TrackedRows.Proofs.RoundTrip
import TrackedRows.Proofs.Convergence
import TrackedRows.Proofs.Admission
import TrackedRows.Proofs.Legality
import TrackedRows.Proofs.Independence
import TrackedRows.Proofs.Restoration
import TrackedRows.Proofs.Lineage
import TrackedRows.Proofs.Grounded
import TrackedRows.Proofs.Marking
import TrackedRows.Proofs.QuietFlush
import TrackedRows.Proofs.Overlay
import TrackedRows.Proofs.Seeding
import TrackedRows.Proofs.Settling
import TrackedRows.Proofs.Table
import TrackedRows.Proofs.ReadBasis
import TrackedRows.Proofs.Documents
import TrackedRows.Proofs.Labels
import TrackedRows.Proofs.AutoFlush
