import ClusterArchive.Cluster.Resource
import ClusterArchive.Remote.Exchange
import ClusterArchive.Remote.Object

/-! Discovery on a server: the resources of the core group in its first version, and those of each
other group in its preferred version, or else its first. A part that cannot be read is reported, and
the rest goes on. -/

namespace ClusterArchive.Discovery

structure GroupVersion where
  text : String
  version : String
deriving DecidableEq, Repr

structure ApiGroup where
  name : String
  preferred : Option GroupVersion
  versions : List GroupVersion
deriving DecidableEq, Repr

def ApiGroup.chosen? (group : ApiGroup) : Option GroupVersion :=
  group.preferred.or group.versions.head?

open Schema in
def typed (kind : String) (members : List Member) : Schema :=
  .record (.mk "apiVersion" none (.constant "v1") :: .mk "kind" none (.constant kind) :: members)

open Schema in
def serverAddresses : Member :=
  optional "serverAddressByClientCIDRs" (.list (.record [plainText "clientCIDR", plainText "serverAddress"]))

open Schema in
def versionsSchema : Schema := typed "APIVersions" [serverAddresses, plainList "versions" .text]

open Schema in
def resourceSchema : Schema :=
  .record [optional "categories" (.list .text), optional "group" .text, plainText "kind",
    plainText "name", .mk "namespaced" (some (.bool false)) .boolean,
    optional "shortNames" (.list .text), plainText "singularName",
    optional "storageVersionHash" .text, plainList "verbs" .text, optional "version" .text]

open Schema in
def resourcesSchema : Schema :=
  typed "APIResourceList" [plainText "groupVersion", plainList "resources" resourceSchema]

open Schema in
def groupVersionSchema : Schema := .record [plainText "groupVersion", plainText "version"]

open Schema in
def groupSchema : Schema :=
  typed "APIGroup" [plainText "name", optional "preferredVersion" groupVersionSchema, serverAddresses,
    plainList "versions" groupVersionSchema]

open Schema in
def groupsSchema : Schema := typed "APIGroupList" [plainList "groups" groupSchema]

structure ListedResource where
  name : String
  kind : String
  namespaced : Bool
  verbs : List String
deriving DecidableEq, Repr

def ListedResource.under (group version : String) (listed : ListedResource) : Resource :=
  .make ⟨group, version, listed.name⟩ listed.kind listed.namespaced listed.verbs

/-! Parts of documents that fit their schema. -/

def groupVersionOf (value : Json) : GroupVersion := ⟨value.textAt "groupVersion", value.textAt "version"⟩

def groupOf (value : Json) : ApiGroup :=
  ⟨value.textAt "name", (value.member? "preferredVersion").map groupVersionOf,
    (value.itemsAt "versions").map groupVersionOf⟩

def listedOf (value : Json) : ListedResource :=
  ⟨value.textAt "name", value.textAt "kind", value.flagAt "namespaced", value.textsAt "verbs"⟩

/-- A request, answered from a state with what was asked for, or with a failure. -/
abbrev Inquiry (σ α : Type) := σ → Except ExchangeFailure α × σ

/-- What a server can be asked about the types that it serves. Resources of the core group are asked
for by their version, others by the text of their group version. -/
structure Catalogue (σ : Type) where
  coreVersions : Inquiry σ (List String)
  coreResources : String → Inquiry σ (List ListedResource)
  groups : Inquiry σ (List ApiGroup)
  groupResources : String → Inquiry σ (List ListedResource)

variable {σ α : Type}

def fetch (transport : Transport σ) (path : String) (schema : Schema) (extract : Json → α) :
    Inquiry σ α :=
  transport.exchange .get path [] fun reading => (schema.readWhole reading).map extract

def fetchResources (transport : Transport σ) (path : String) : Inquiry σ (List ListedResource) :=
  fetch transport path resourcesSchema fun value => (value.itemsAt "resources").map listedOf

def Catalogue.ofTransport (transport : Transport σ) : Catalogue σ where
  coreVersions := fetch transport "/api" versionsSchema (·.textsAt "versions")
  coreResources version := fetchResources transport ("/api/" ++ version)
  groups := fetch transport "/apis" groupsSchema fun value => (value.itemsAt "groups").map groupOf
  groupResources text := fetchResources transport ("/apis/" ++ text)

def failed (name : String) (failure : ExchangeFailure) : DiscoveryReport :=
  ⟨[], [⟨name, failure.toError "" ""⟩]⟩

/-- The resources of a version of a group, or the failure to list them. -/
def report (name group version : String) :
    Except ExchangeFailure (List ListedResource) → DiscoveryReport
  | .ok listed => ⟨listed.map (·.under group version), []⟩
  | .error failure => failed name failure

def append (a b : DiscoveryReport) : DiscoveryReport :=
  ⟨a.resources ++ b.resources, a.failures ++ b.failures⟩

def core (catalogue : Catalogue σ) (s : σ) : DiscoveryReport × σ :=
  match catalogue.coreVersions s with
  | (.error failure, s) => (failed "v1" failure, s)
  | (.ok versions, s) =>
    let version := versions.head?.getD "v1"
    let (found, s) := catalogue.coreResources version s
    (report version "" version found, s)

def groups (catalogue : Catalogue σ) : List ApiGroup → σ → DiscoveryReport × σ
  | [], s => (⟨[], []⟩, s)
  | group :: rest, s =>
    match group.chosen? with
    | none => groups catalogue rest s
    | some chosen =>
      let (found, s) := catalogue.groupResources chosen.text s
      let (later, s) := groups catalogue rest s
      (append (report chosen.text group.name chosen.version found) later, s)

/-- All that a server serves. A request that fails is reported, so discovery itself never fails. -/
def discover (catalogue : Catalogue σ) : ClusterCall σ DiscoveryReport := fun s =>
  let (first, s) := core catalogue s
  match catalogue.groups s with
  | (.error failure, s) => (.ok (append first (failed "apis" failure)), s)
  | (.ok found, s) =>
    let (others, s) := groups catalogue found s
    (.ok (append first others), s)

end ClusterArchive.Discovery
