import ClusterArchive.Bytes
import ClusterArchive.Cluster.Document
import ClusterArchive.Json.Printer

/-! The form in which an object is archived: without what belongs to the cluster it was found on, as
indented JSON that ends with a line break. -/

namespace ClusterArchive.Document

/-- Members of the metadata that are not archived. -/
def runtimeFields : List String :=
  ["managedFields", "resourceVersion", "uid", "selfLink", "creationTimestamp", "generation"]

/-- The object without its status and the runtime fields of its metadata. -/
def stripped (object : Document) : Document :=
  let object := match object.metadata? with
    | some metadata => object.withMetadata (runtimeFields.foldl (fun m key => Assoc.erase key m) metadata)
    | none => object
  Assoc.erase "status" object

def archivedText (object : Document) : String := (Json.object object.stripped).indentedText ++ "\n"

def archivedBytes (object : Document) : Bytes := Bytes.ofText object.archivedText

end ClusterArchive.Document
