import ClusterArchive.Cluster.Resource
import ClusterArchive.Text.Blank
import ClusterArchive.Text.Casing

/-! Which resources a backup captures: those that can be listed, are no subresources, and have a
kind that was asked for, in upper or lower case. -/

namespace ClusterArchive

/-- Kinds captured when none are asked for. -/
def defaultKinds : List String :=
  ["Namespace", "ConfigMap", "Secret", "Service", "ServiceAccount", "PersistentVolume",
    "PersistentVolumeClaim", "Pod", "Deployment", "StatefulSet", "DaemonSet", "ReplicaSet", "Job",
    "CronJob", "Ingress", "NetworkPolicy", "Endpoints", "Role", "RoleBinding", "ClusterRole",
    "ClusterRoleBinding", "StorageClass", "CustomResourceDefinition"]

/-- Kinds in lower case. An empty filter lets every kind pass. -/
structure KindFilter where
  kinds : List String
deriving DecidableEq, Repr

namespace KindFilter

/-- The filter for kinds as they were typed; blank ones do not count. -/
def ofKinds (kinds : List String) : KindFilter :=
  ⟨(kinds.map fun kind => Text.lower (Text.trim kind)).filter (· ≠ "")⟩

/-- The filter of a backup that asks for some kinds, or for none in particular. -/
def ofRequest (kinds : List String) : KindFilter :=
  ofKinds (if kinds.isEmpty then defaultKinds else kinds)

def isEmpty (filter : KindFilter) : Bool := filter.kinds.isEmpty

def passes (filter : KindFilter) (kind : String) : Bool :=
  filter.isEmpty || filter.kinds.contains (Text.lower kind)

def select (filter : KindFilter) (resources : List Resource) : List Resource :=
  resources.filter fun resource => resource.isListable && filter.passes resource.kind

end KindFilter

end ClusterArchive
