import ClusterArchive.Cluster.Request
import ClusterArchive.Remote.Discovery

/-! A client of a server. Objects are written under the name that their metadata gives. -/

namespace ClusterArchive.Remote

/-- The path of the objects of a type, in one namespace or in all. -/
def collectionPath (type : ResourceType) (ns : Option String) : String :=
  let group := if type.group = "" then "/api/" else "/apis/"
  let place := match ns with
    | some ns => "namespaces/" ++ ns ++ "/"
    | none => ""
  group ++ type.apiVersion ++ "/" ++ place ++ type.resource

def objectPath (type : ResourceType) (ns : Option String) (name : String) : String :=
  collectionPath type ns ++ "/" ++ name

/-- Lists and writes carry a query, which is empty. -/
def withQuery (path : String) : String := path ++ "?"

def readObject (reading : Reading) : Option RemoteObject :=
  if reading.rest.isSome then none else RemoteObject.read Draft.depthLimit reading.draft

def readObjects (reading : Reading) : Option (List RemoteObject) :=
  if reading.rest.isSome then none else RemoteObject.readList Draft.depthLimit reading.draft

def outgoing (object : Document) : Except ClusterError (RemoteObject × String) :=
  match object.name? with
  | none => .error (.api 422 "metadata.name is required")
  | some name =>
    match RemoteObject.ofDocument? object with
    | some object => .ok (object, name)
    | none => .error (.api 422 ("Invalid object " ++ Text.quoted name ++ ": the metadata does not fit"))

variable {σ : Type}

def list (transport : Transport σ) (resource : Resource) (ns : Option String) :
    ClusterCall σ (List Document) := fun s =>
  let target := withQuery (collectionPath resource.type ns)
  match transport.exchange .get target [] readObjects s with
  | (.error failure, s) => (.error (failure.toError resource.type.resource ""), s)
  | (.ok objects, s) =>
    let tag : TypeTag := ⟨resource.type.apiVersion, resource.kind⟩
    (.ok (objects.map fun object => (object.orTagged tag).toDocument), s)

def write (transport : Transport σ) (method : HttpMethod) (path : String → String) (resource : String)
    (object : Document) : ClusterCall σ Document := fun s =>
  match outgoing object with
  | .error error => (.error error, s)
  | .ok (object, name) =>
    match transport.exchange method (withQuery (path name)) object.toBytes readObject s with
    | (.error failure, s) => (.error (failure.toError resource name), s)
    | (.ok stored, s) => (.ok stored.toDocument, s)

def create (transport : Transport σ) (type : ResourceType) (ns : Option String) (object : Document) :
    ClusterCall σ Document :=
  write transport .post (fun _ => collectionPath type ns) type.resource object

def update (transport : Transport σ) (type : ResourceType) (ns : Option String) (object : Document) :
    ClusterCall σ Document :=
  write transport .put (objectPath type ns) type.resource object

def get (transport : Transport σ) (type : ResourceType) (ns : Option String) (name : String) :
    ClusterCall σ Document := fun s =>
  if name = "" then (.error (.transport "an object needs a name"), s)
  else
    match transport.exchange .get (objectPath type ns name) [] readObject s with
    | (.error failure, s) => (.error (failure.toError type.resource name), s)
    | (.ok object, s) => (.ok object.toDocument, s)

def client (transport : Transport σ) : Client σ where
  perform
    | .discover => Discovery.discover (.ofTransport transport)
    | .list resource ns => list transport resource ns
    | .create type ns object => create transport type ns object
    | .get type ns name => get transport type ns name
    | .update type ns object => update transport type ns object

end ClusterArchive.Remote
