import ClusterArchive.Cluster.Resource
import ClusterArchive.Json.Basic
import ClusterArchive.Time.Instant

/-! What a run asks of a cluster. The cluster, and whatever else changes while a run goes on, is a
state `σ`; a call answers and may change it, also when it fails. -/

namespace ClusterArchive

abbrev ClusterCall (σ α : Type) := σ → Except ClusterError α × σ

structure Discoverer (σ : Type) where
  discover : ClusterCall σ DiscoveryReport

/-- Lists the objects of a resource, in one namespace or in all. -/
structure Lister (σ : Type) where
  list : Resource → Option String → ClusterCall σ (List Document)

structure Applier (σ : Type) where
  create : ResourceType → Option String → Document → ClusterCall σ Document
  get : ResourceType → Option String → String → ClusterCall σ Document
  update : ResourceType → Option String → Document → ClusterCall σ Document

/-- What a run asks of its surroundings besides: whether it was cancelled, and the time. Asking may
change the state, so a cancellation may arrive at any moment. -/
structure Surroundings (σ : Type) where
  cancelled : σ → Bool × σ
  now : σ → Instant × σ

end ClusterArchive
