import ClusterArchive.Cluster.Memory
import ClusterArchive.Proofs.Assoc

/-! What setting metadata does to a document. Several settings are one, a later one of a member
takes the place of an earlier one, and members that are not set stay. -/

namespace ClusterArchive.Document

@[simp] theorem metadata_withMetadata (object metadata : Document) :
    (object.withMetadata metadata).metadata = metadata := by
  simp [withMetadata, Document.metadata, metadata?, Json.object?]

@[simp] theorem metadata?_withMetadata (object metadata : Document) :
    (object.withMetadata metadata).metadata? = some metadata := by
  simp [withMetadata, metadata?, Json.object?]

@[simp] theorem withMetadata_withMetadata (object first second : Document) :
    (object.withMetadata first).withMetadata second = object.withMetadata second := by
  simp [withMetadata]

theorem metadata_insert {key : String} (apart : key ≠ "metadata") (value : Json)
    (object : Document) : Document.metadata (Assoc.insert key value object) = object.metadata := by
  simp [Document.metadata, metadata?, apart]

theorem metadataText?_stamp (key other value : String) (object : Document) :
    (object.stamp key value).metadataText? other =
      if key = other then some value else object.metadataText? other := by
  simp only [stamp, metadataText?, metadata_withMetadata, Assoc.get?_insert]
  split <;> rfl

theorem name?_insert {key : String} (apart : key ≠ "metadata") (value : Json) (object : Document) :
    Document.name? (Assoc.insert key value object) = object.name? := by
  simp [name?, metadataText?, metadata_insert apart]

theorem name?_stamp (key value : String) (object : Document) (apart : key ≠ "name") :
    (object.stamp key value).name? = object.name? := by
  simp [name?, metadataText?_stamp, apart]

theorem name?_stamp_name (value : String) (object : Document) (nonempty : value ≠ "") :
    (object.stamp "name" value).name? = some value := by
  simp [name?, metadataText?_stamp, nonempty]

theorem ne_empty_of_name? {object : Document} {name : String} (named : object.name? = some name) :
    name ≠ "" := by
  simpa using (Option.filter_eq_some_iff.mp named).2

end ClusterArchive.Document

namespace ClusterArchive.MemoryCluster

open Document

theorem stamp_eq_stampAll (key value : String) (object : Document) :
    object.stamp key value = stampAll [(key, .string value)] object := rfl

theorem metadata_stampAll (fields : List (String × Json)) (object : Document) :
    (stampAll fields object).metadata =
      fields.foldl (fun m (key, value) => Assoc.insert key value m) object.metadata :=
  metadata_withMetadata ..

theorem stampAll_stampAll (first second : List (String × Json)) (object : Document) :
    stampAll second (stampAll first object) = stampAll (first ++ second) object := by
  simp [stampAll, List.foldl_append]

theorem get?_metadata_stampAll_of_notMem {fields : List (String × Json)} {key : String}
    (apart : key ∉ fields.map Prod.fst) (object : Document) :
    Assoc.get? key (stampAll fields object).metadata = Assoc.get? key object.metadata := by
  rw [metadata_stampAll]
  induction fields generalizing object with
  | nil => rfl
  | cons field rest ih =>
    obtain ⟨k, v⟩ := field
    simp only [List.map_cons, List.mem_cons, not_or] at apart
    have later := ih apart.2 (stampAll [(k, v)] object)
    rw [metadata_stampAll] at later
    simpa [Ne.symm apart.1] using later

theorem name?_stampAll {fields : List (String × Json)} (apart : "name" ∉ fields.map Prod.fst)
    (object : Document) : (stampAll fields object).name? = object.name? := by
  simp [name?, metadataText?, get?_metadata_stampAll_of_notMem apart]

def served (version : Nat) (uid : Json) (object : Document) : Document :=
  stampAll [("resourceVersion", versionText version), ("uid", uid)] object

@[simp] theorem name?_served (version : Nat) (uid : Json) (object : Document) :
    (served version uid object).name? = object.name? :=
  name?_stampAll (by simp) object

@[simp] theorem resourceVersion?_served (version : Nat) (uid : Json) (object : Document) :
    (served version uid object).resourceVersion? = some (toString version) := by
  simp [resourceVersion?, metadataText?, served, metadata_stampAll, versionText, Json.string?]

@[simp] theorem uid_served (version : Nat) (uid : Json) (object : Document) :
    Assoc.get? "uid" (served version uid object).metadata = some uid := by
  simp [served, metadata_stampAll]

theorem served_stamp_resourceVersion (version : Nat) (uid : Json) (old : String)
    (object : Document) :
    served version uid (object.stamp "resourceVersion" old) = served version uid object := by
  rw [stamp_eq_stampAll, served, served, stampAll_stampAll]
  simp [stampAll]

/-- A new version alone takes the place of the version that an object had. -/
theorem stampAll_served (version old : Nat) (uid : Json) (object : Document) :
    stampAll [("resourceVersion", versionText version)] (served old uid object) =
      served version uid object := by
  simp only [served, stampAll, List.foldl_cons, List.foldl_nil, metadata_withMetadata,
    withMetadata_withMetadata]
  rw [Assoc.insert_comm (by decide : "resourceVersion" ≠ "uid"), Assoc.insert_insert]

end ClusterArchive.MemoryCluster
