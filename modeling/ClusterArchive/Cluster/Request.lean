import ClusterArchive.Cluster.Capability
import ClusterArchive.Cluster.Document

/-! Requests to a cluster, by the type of their answers. A client answers every request; what a run
asks for are parts of a client. -/

namespace ClusterArchive

inductive Request : Type → Type
  | discover : Request DiscoveryReport
  | list (resource : Resource) (ns : Option String) : Request (List Document)
  | create (type : ResourceType) (ns : Option String) (object : Document) : Request Document
  | get (type : ResourceType) (ns : Option String) (name : String) : Request Document
  | update (type : ResourceType) (ns : Option String) (object : Document) : Request Document

inductive Call
  | discover
  | list (type : ResourceType) (ns : Option String)
  | create (type : ResourceType) (ns : Option String) (name : String)
  | get (type : ResourceType) (ns : Option String) (name : String)
  | update (type : ResourceType) (ns : Option String) (name : String) (version : Option String)
  | endless
deriving DecidableEq, Repr

def Request.call {α : Type} : Request α → Call
  | .discover => .discover
  | .list resource ns => .list resource.type ns
  | .create type ns object => .create type ns (object.name?.getD "")
  | .get type ns name => .get type ns name
  | .update type ns object => .update type ns (object.name?.getD "") object.resourceVersion?

structure Client (σ : Type) where
  perform : {α : Type} → Request α → ClusterCall σ α

namespace Client

variable {σ : Type}

def discoverer (client : Client σ) : Discoverer σ := ⟨client.perform .discover⟩

def lister (client : Client σ) : Lister σ := ⟨fun resource ns => client.perform (.list resource ns)⟩

def applier (client : Client σ) : Applier σ where
  create type ns object := client.perform (.create type ns object)
  get type ns name := client.perform (.get type ns name)
  update type ns object := client.perform (.update type ns object)

end Client

end ClusterArchive
