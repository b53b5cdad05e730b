import ClusterArchive.Cluster.Request

/-! A cluster in memory. It gives every stored object a version and an identifier, refuses to create
an object twice and to update one under another version than the stored one, and stores objects in
namespaces only where the namespace is stored. Failures can be put in. A call goes step by step on the
cluster, and what it has changed when it fails stays changed. -/

namespace ClusterArchive

structure ObjectKey where
  type : ResourceType
  ns : Option String
  name : String
deriving DecidableEq, Ord, Repr

abbrev Scope := ResourceType × Option String

structure MemoryCluster where
  resources : List Resource
  objects : List (ObjectKey × Document)
  version : Nat
  discoveryDown : Bool
  failingGroupVersions : List String
  failingLists : List Scope
  failingGets : List Scope
  failingUpdates : List Scope
deriving Inhabited

inductive Arrangement
  | register (resource : Resource)
  | seed (type : ResourceType) (ns : Option String) (object : Json)
  | failDiscovery
  | failGroupVersion (groupVersion : String)
  | failList (type : ResourceType) (ns : Option String)
  | failGet (type : ResourceType) (ns : Option String)
  | failUpdate (type : ResourceType) (ns : Option String)

namespace MemoryCluster

def empty : MemoryCluster := ⟨[], [], 0, false, [], [], [], []⟩

/-- A usual set of resources, a subresource and one that cannot be listed. -/
def standard : MemoryCluster :=
  let full := ["create", "delete", "get", "list", "update", "watch"]
  let plain (group resource kind : String) (namespaced : Bool) : Resource :=
    ⟨⟨group, "v1", resource⟩, kind, namespaced, full⟩
  { empty with resources := [
      plain "" "namespaces" "Namespace" false,
      plain "" "configmaps" "ConfigMap" true,
      plain "" "secrets" "Secret" true,
      plain "" "services" "Service" true,
      plain "" "pods" "Pod" true,
      plain "" "persistentvolumes" "PersistentVolume" false,
      plain "apps" "deployments" "Deployment" true,
      plain "rbac.authorization.k8s.io" "clusterroles" "ClusterRole" false,
      ⟨⟨"", "v1", "pods/log"⟩, "Pod", true, ["get"]⟩,
      ⟨⟨"authorization.k8s.io", "v1", "selfsubjectaccessreviews"⟩, "SelfSubjectAccessReview", false,
        ["create"]⟩] }

def register (cluster : MemoryCluster) (resource : Resource) : MemoryCluster :=
  { cluster with resources := cluster.resources ++ [resource] }

/-- The first resource registered for a type. -/
def resource? (cluster : MemoryCluster) (type : ResourceType) : Except ClusterError Resource :=
  match cluster.resources.find? (·.type = type) with
  | some resource => .ok resource
  | none =>
    .error (.api 404 ("the server could not find the requested resource (" ++ type.display ++ ")"))

def object? (cluster : MemoryCluster) (key : ObjectKey) : Option Document :=
  Assoc.get? key cluster.objects

/-- Whether objects of a type can be stored in a namespace, or outside of all. -/
def checkScope (cluster : MemoryCluster) (type : ResourceType) (ns : Option String) :
    Except ClusterError Unit := do
  let resource ← cluster.resource? type
  match resource.namespaced, ns with
  | true, some ns =>
    if (cluster.object? ⟨.namespaces, none, ns⟩).isSome then return
    else throw (.notFound "namespaces" ns)
  | true, none => throw (.api 400 (type.display ++ " is namespaced; a namespace is required"))
  | false, some _ => throw (.api 400 (type.display ++ " is cluster-scoped"))
  | false, none => return

def checkFailure (failing : List Scope) (call : String) (type : ResourceType) (ns : Option String) :
    Except ClusterError Unit :=
  if failing.contains (type, ns) then
    .error (.api 500 ("injected " ++ call ++ " failure for " ++ type.display))
  else .ok ()

def requiredName (object : Document) : Except ClusterError String :=
  match object.name? with
  | some name => .ok name
  | none => .error (.api 422 "metadata.name is required")

def versionText (version : Nat) : Json := .string (toString version)

def uidText (version : Nat) : Json := .string ("uid-" ++ toString version)

def stampAll (fields : List (String × Json)) (object : Document) : Document :=
  object.withMetadata (fields.foldl (fun m (key, value) => Assoc.insert key value m) object.metadata)

/-- The steps of a call. Each finds the cluster as the one before left it, and may fail. -/
abbrev Steps (α : Type) := ExceptT ClusterError (StateM MemoryCluster) α

def present : Steps MemoryCluster := get

/-- The version of the next write, which is given away. -/
def nextVersion : Steps Nat :=
  modifyGet fun cluster => (cluster.version + 1, { cluster with version := cluster.version + 1 })

def put (key : ObjectKey) (object : Document) : Steps Unit :=
  modify fun cluster => { cluster with objects := Assoc.insert key object cluster.objects }

/-- What a call answers, and the cluster that it leaves. -/
def call {α : Type} (cluster : MemoryCluster) (steps : Steps α) :
    Except ClusterError α × MemoryCluster := steps.run cluster

section Call

variable {α β : Type} (cluster : MemoryCluster)

@[simp] theorem call_pure (answer : α) : cluster.call (pure answer) = (.ok answer, cluster) := rfl

@[simp] theorem call_throw (error : ClusterError) :
    cluster.call (throw error : Steps α) = (.error error, cluster) := rfl

@[simp] theorem call_bind (steps : Steps α) (next : α → Steps β) :
    cluster.call (steps >>= next) =
      match cluster.call steps with
      | (.ok answer, after) => after.call (next answer)
      | (.error error, after) => (.error error, after) := by
  simp only [call, ExceptT.run, bind, ExceptT.bind, ExceptT.mk, StateT.bind]
  rcases steps cluster with ⟨answer | error, after⟩ <;> rfl

@[simp] theorem call_map (f : α → β) (steps : Steps α) :
    cluster.call (f <$> steps) = ((cluster.call steps).1.map f, (cluster.call steps).2) := by
  rw [map_eq_pure_bind, call_bind]
  rcases cluster.call steps with ⟨_ | _, after⟩ <;> rfl

@[simp] theorem call_check (check : Except ClusterError α) :
    cluster.call (liftM check) = (check, cluster) := by
  cases check <;> rfl

@[simp] theorem call_present : cluster.call present = (.ok cluster, cluster) := rfl

@[simp] theorem call_nextVersion :
    cluster.call nextVersion =
      (.ok (cluster.version + 1), { cluster with version := cluster.version + 1 }) := rfl

@[simp] theorem call_put (key : ObjectKey) (object : Document) :
    cluster.call (put key object) =
      (.ok (), { cluster with objects := Assoc.insert key object cluster.objects }) := rfl

end Call

/-- Stores any object, with the fields that a server would have set. -/
def seed (cluster : MemoryCluster) (type : ResourceType) (ns : Option String) (value : Json) :
    Except ClusterError Unit × MemoryCluster :=
  cluster.call do
    match value with
    | .object object =>
      let name ← requiredName object
      let version ← nextVersion
      let fields := (ns.map fun ns => ("namespace", Json.string ns)).toList ++ [
        ("resourceVersion", versionText version), ("uid", uidText version),
        ("creationTimestamp", .string "2025-01-01T00:00:00Z"), ("generation", .natural 1),
        ("managedFields",
          .array [.object [("manager", .string "kubectl"), ("operation", .string "Apply")]])]
      put ⟨type, ns, name⟩
        (Assoc.insert "status" (.object [("phase", .string "Active")]) (stampAll fields object))
    | _ => throw (.api 400 "object must be a JSON object")

/-- The failures of discovery, each group and version once, in the order of the resources. -/
def discoveryFailures (cluster : MemoryCluster) : List DiscoveryFailure :=
  let versions := cluster.resources.map (·.type.apiVersion)
  (versions.filter cluster.failingGroupVersions.contains).eraseDups.map fun groupVersion =>
    ⟨groupVersion, .api 503 (groupVersion ++ " is unavailable")⟩

def discover (cluster : MemoryCluster) : Except ClusterError DiscoveryReport :=
  if cluster.discoveryDown then .error (.transport "discovery endpoint unavailable")
  else
    .ok ⟨cluster.resources.filter fun r => !cluster.failingGroupVersions.contains r.type.apiVersion,
      cluster.discoveryFailures⟩

def list (cluster : MemoryCluster) (type : ResourceType) (ns : Option String) :
    Except ClusterError (List Document) := do
  let _ ← cluster.resource? type
  checkFailure cluster.failingLists "list" type ns
  return (cluster.objects.filter fun (key, _) => key.type = type && (ns.isNone || key.ns = ns)).map (·.2)

def create (cluster : MemoryCluster) (type : ResourceType) (ns : Option String) (object : Document) :
    Except ClusterError Document × MemoryCluster :=
  cluster.call do
    let state ← present
    state.checkScope type ns
    let name ← requiredName object
    if (state.object? ⟨type, ns, name⟩).isSome then throw (.alreadyExists type.resource name)
    let version ← nextVersion
    let stored := stampAll [("resourceVersion", versionText version), ("uid", uidText version)] object
    put ⟨type, ns, name⟩ stored
    return stored

def get (cluster : MemoryCluster) (type : ResourceType) (ns : Option String) (name : String) :
    Except ClusterError Document := do
  let _ ← cluster.resource? type
  checkFailure cluster.failingGets "get" type ns
  match cluster.object? ⟨type, ns, name⟩ with
  | some object => return object
  | none => throw (.notFound type.resource name)

/-- Replaces an object by one that carries its version; the identifier stays. -/
def update (cluster : MemoryCluster) (type : ResourceType) (ns : Option String) (object : Document) :
    Except ClusterError Document × MemoryCluster :=
  cluster.call do
    let state ← present
    state.checkScope type ns
    checkFailure state.failingUpdates "update" type ns
    let name ← requiredName object
    match state.object? ⟨type, ns, name⟩ with
    | none => throw (.notFound type.resource name)
    | some current =>
      if object.resourceVersion? ≠ current.resourceVersion? then
        throw (.api 409 ("the object " ++ Text.quoted name ++
          " has been modified; resource version mismatch"))
      let uid := (Assoc.get? "uid" current.metadata).map fun uid => ("uid", uid)
      let version ← nextVersion
      let stored := stampAll (("resourceVersion", versionText version) :: uid.toList) object
      put ⟨type, ns, name⟩ stored
      return stored

def answer {α : Type} (cluster : MemoryCluster) : Request α → Except ClusterError α × MemoryCluster
  | .discover => cluster.call do (← present).discover
  | .list resource ns => cluster.call do (← present).list resource.type ns
  | .create type ns object => cluster.create type ns object
  | .get type ns name => cluster.call do (← present).get type ns name
  | .update type ns object => cluster.update type ns object

/-- Answers a request, unless it was cancelled before. -/
def perform {α : Type} (cluster : MemoryCluster) (cancelled : Bool) (request : Request α) :
    Except ClusterError α × MemoryCluster :=
  if cancelled then (.error .cancelled, cluster) else cluster.answer request

def undergo (cluster : MemoryCluster) : Arrangement → Except ClusterError Unit × MemoryCluster
  | .register resource => (.ok (), cluster.register resource)
  | .seed type ns object => cluster.seed type ns object
  | .failDiscovery => (.ok (), { cluster with discoveryDown := true })
  | .failGroupVersion groupVersion =>
    (.ok (), { cluster with failingGroupVersions := groupVersion :: cluster.failingGroupVersions })
  | .failList type ns => (.ok (), { cluster with failingLists := (type, ns) :: cluster.failingLists })
  | .failGet type ns => (.ok (), { cluster with failingGets := (type, ns) :: cluster.failingGets })
  | .failUpdate type ns =>
    (.ok (), { cluster with failingUpdates := (type, ns) :: cluster.failingUpdates })

end MemoryCluster

end ClusterArchive
