import ClusterArchive.Text.Quoted

/-! Resource types, and resources as a server announces them. -/

namespace ClusterArchive

/-- Group, version and plural name of a resource type. The core group is empty. -/
structure ResourceType where
  group : String
  version : String
  resource : String
deriving DecidableEq, Ord, Repr, Inhabited

namespace ResourceType

def apiVersion (type : ResourceType) : String :=
  if type.group = "" then type.version else type.group ++ "/" ++ type.version

def display (type : ResourceType) : String := type.apiVersion ++ ", Resource=" ++ type.resource

def namespaces : ResourceType := ⟨"", "v1", "namespaces"⟩

end ResourceType

/-- A resource on a server: its type, its kind, whether its objects live in namespaces, and what can
be done with them, in ascending order. -/
structure Resource where
  type : ResourceType
  kind : String
  namespaced : Bool
  verbs : List String
deriving DecidableEq, Repr, Inhabited

def insertSorted (text : String) : List String → List String
  | [] => [text]
  | t :: rest =>
    if text = t then t :: rest
    else if text < t then text :: t :: rest
    else t :: insertSorted text rest

namespace Resource

def make (type : ResourceType) (kind : String) (namespaced : Bool) (verbs : List String) : Resource :=
  ⟨type, kind, namespaced, verbs.foldl (fun set verb => insertSorted verb set) []⟩

def namespaces : Resource := ⟨.namespaces, "Namespace", false, ["create", "get", "list", "update"]⟩

def supports (resource : Resource) (verb : String) : Bool := resource.verbs.contains verb

/-- A subresource has a slash in its name. -/
def isSubresource (resource : Resource) : Bool := resource.type.resource.toList.contains '/'

/-- Whether its objects can be captured at all. -/
def isListable (resource : Resource) : Bool := resource.supports "list" && !resource.isSubresource

end Resource

inductive ClusterError
  | alreadyExists (resource name : String)
  | notFound (resource name : String)
  | api (code : Nat) (message : String)
  | transport (detail : String)
  | cancelled
deriving DecidableEq, Repr

namespace ClusterError

def message : ClusterError → String
  | alreadyExists resource name => resource ++ " " ++ Text.quoted name ++ " already exists"
  | notFound resource name => resource ++ " " ++ Text.quoted name ++ " not found"
  | api code message => "API error (" ++ toString code ++ "): " ++ message
  | transport detail => "Transport error: " ++ detail
  | cancelled => "Operation cancelled"

end ClusterError

/-- A group and version whose resources are unknown. -/
structure DiscoveryFailure where
  groupVersion : String
  error : ClusterError
deriving DecidableEq, Repr

structure DiscoveryReport where
  resources : List Resource
  failures : List DiscoveryFailure
deriving DecidableEq, Repr

end ClusterArchive
