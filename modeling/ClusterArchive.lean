import ClusterArchive.Cancellation
import ClusterArchive.Cluster.Rehearsal
import ClusterArchive.Codec.Records
import ClusterArchive.Digest.Writer
import ClusterArchive.Main
import ClusterArchive.Remote.Routes
import ClusterArchive.Proofs.Restore.Rerun
import ClusterArchive.Proofs.Engine.Restored
import ClusterArchive.Proofs.Engine.Contention
import ClusterArchive.Proofs.Engine.Reading
import ClusterArchive.Proofs.Engine.Transaction
import ClusterArchive.Proofs.Engine.Account
import ClusterArchive.Proofs.Engine.Cancelled
import ClusterArchive.Proofs.Cluster.LostUpdate
import ClusterArchive.Proofs.Cluster.Integrity
import ClusterArchive.Proofs.Retention.Prune
import ClusterArchive.Proofs.Store.Refinement
import ClusterArchive.Proofs.Retention.Chronology
import ClusterArchive.Proofs.Destination
import ClusterArchive.Proofs.Serialization
import ClusterArchive.Proofs.Engine.Identity
import ClusterArchive.Proofs.Restore.Reconciliation
import ClusterArchive.Proofs.Engine.Resolution
import ClusterArchive.Proofs.Format.Tree
import ClusterArchive.Proofs.Tar.Grammar
import ClusterArchive.Proofs.Format.Cut
import ClusterArchive.Proofs.Digest.Stored
import ClusterArchive.Proofs.Remote.Discovery
import ClusterArchive.Proofs.Codec.Records
import ClusterArchive.Proofs.Config
import ClusterArchive.Proofs.Engine.Metrics
