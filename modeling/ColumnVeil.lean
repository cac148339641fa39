import ColumnVeil.Audit.Trail
import ColumnVeil.Relay.Session
import ColumnVeil.Shield.Chain
import ColumnVeil.Settings.Load
import ColumnVeil.Tls.Endpoint
import ColumnVeil.Proofs.Shield.Confinement
import ColumnVeil.Proofs.Relay.Release
import ColumnVeil.Proofs.Traversal.Insertion
import ColumnVeil.Proofs.Shield.Insertion
import ColumnVeil.Proofs.Shield.Search
import ColumnVeil.Proofs.Wire.Looking
import ColumnVeil.Proofs.Wire.Reading
import ColumnVeil.Proofs.Relay.Frames
import ColumnVeil.Proofs.Relay.Splitting
import ColumnVeil.Proofs.Crypto.Cipher
import ColumnVeil.Proofs.Relay.Pipelining
import ColumnVeil.Proofs.Shield.Decryption
import ColumnVeil.Proofs.Wire.Verdict
import ColumnVeil.Proofs.Wire.Writing
import ColumnVeil.Proofs.Shield.Match
import ColumnVeil.Proofs.Relay.Conversation
import ColumnVeil.Proofs.Traversal.Parallel
import ColumnVeil.Proofs.Shield.Renewal
import ColumnVeil.Proofs.Relay.Refusal
import ColumnVeil.Proofs.Relay.Transparency
import ColumnVeil.Proofs.Relay.Fidelity
import ColumnVeil.Proofs.Relay.Phases
import ColumnVeil.Proofs.Relay.Securing
import ColumnVeil.Proofs.Relay.Attribution
import ColumnVeil.Proofs.Shield.Prohibition
import ColumnVeil.Proofs.Shield.Use
import ColumnVeil.Proofs.Shield.Alias
import ColumnVeil.Proofs.Shield.Label
import ColumnVeil.Proofs.Shield.Storing
import ColumnVeil.Proofs.Catalog.Integer
import ColumnVeil.Proofs.Shield.Negation
import ColumnVeil.Proofs.Relay.Batch
import ColumnVeil.Proofs.Relay.Progress
import ColumnVeil.Proofs.Relay.Ending
import ColumnVeil.Proofs.Text.Case
import ColumnVeil.Proofs.Catalog.Folding
import ColumnVeil.Proofs.Catalog.Acceptance
import ColumnVeil.Proofs.Shield.Constant
import ColumnVeil.Proofs.Traversal.Restoration
import ColumnVeil.Proofs.Shield.Restoration
import ColumnVeil.Proofs.Wire.Guarded
import ColumnVeil.Proofs.Wire.Conservation
import ColumnVeil.Proofs.Audit.Query
