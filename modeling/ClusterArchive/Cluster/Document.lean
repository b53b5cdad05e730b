import ClusterArchive.Json.Basic

/-! Identity and version of an API object, as its `metadata` gives them. -/

namespace ClusterArchive.Document

/-- The member `metadata`, when it is an object. -/
def metadata? (object : Document) : Option Document :=
  (Assoc.get? "metadata" object).bind Json.object?

/-- The metadata, empty when there is none. -/
def metadata (object : Document) : Document := object.metadata?.getD []

def withMetadata (object metadata : Document) : Document :=
  Assoc.insert "metadata" (.object metadata) object

def metadataText? (key : String) (object : Document) : Option String :=
  (Assoc.get? key object.metadata).bind Json.string?

def stamp (key value : String) (object : Document) : Document :=
  object.withMetadata (Assoc.insert key (.string value) object.metadata)

/-- The name, if it is a text that is not empty. -/
def name? (object : Document) : Option String :=
  (object.metadataText? "name").filter (· ≠ "")

def namespace? (object : Document) : Option String :=
  (object.metadataText? "namespace").filter (· ≠ "")

def resourceVersion? (object : Document) : Option String := object.metadataText? "resourceVersion"

end ClusterArchive.Document
