import ClusterArchive.Proofs.Entry
import ClusterArchive.Proofs.Json.RoundTrip
import ClusterArchive.Proofs.Restore.Upsert
import ClusterArchive.Serialization

/-! From an archived object back to an item. The name in the body is that of the path, so all that
reconciliation can add is the namespace. -/

namespace ClusterArchive

namespace Document

def placed (ns : Option String) (object : Document) : Document :=
  match ns with
  | some ns => object.stamp "namespace" ns
  | none => object

/-- An object that its archived form tells completely. -/
structure IsPortable (object : Document) : Prop where
  exact : (Json.object object.stripped).IsExact
  shallow : (Json.object object.stripped).depth ≤ Draft.depthLimit

theorem metadata?_erase {key : String} (apart : key ≠ "metadata") (object : Document) :
    Document.metadata? (Assoc.erase key object) = object.metadata? := by
  simp [metadata?, apart]

theorem get?_eraseFields (fields : List String) (key : String) (object : Document) :
    Assoc.get? key (fields.foldl (fun m field => Assoc.erase field m) object) =
      if key ∈ fields then none else Assoc.get? key object := by
  induction fields generalizing object with
  | nil => simp
  | cons field rest ih =>
    rw [List.foldl_cons, ih, Assoc.get?_erase]
    by_cases later : key ∈ rest
    · simp [later]
    · simp [later, eq_comm]

@[simp] theorem name?_stripped (object : Document) : object.stripped.name? = object.name? := by
  have kept : Assoc.get? "name" object.stripped.metadata = Assoc.get? "name" object.metadata := by
    rw [stripped, Document.metadata, metadata?_erase (by decide)]
    cases found : object.metadata? with
    | none => simp [Document.metadata, found]
    | some inner =>
      simp only [metadata?_withMetadata, Option.getD_some]
      rw [get?_eraseFields, if_neg (by decide), Document.metadata, found, Option.getD_some]
  simp only [name?, metadataText?, kept]

/-- A text that the metadata of an exact object holds already changes nothing. -/
theorem stamp_same {object : Document} (exact : (Json.object object).IsExact) {key value : String}
    (has : object.metadataText? key = some value) : object.stamp key value = object := by
  rw [Json.IsExact] at exact
  obtain ⟨json, found, isText⟩ := Option.bind_eq_some_iff.mp has
  obtain rfl : json = .string value := by
    cases json with
    | string text => exact congrArg Json.string (Option.some.inj isText)
    | null | bool | number | array | object => cases isText
  cases below : Assoc.get? "metadata" object with
  | none => simp [Document.metadata, metadata?, below] at found
  | some json =>
    cases json with
    | object metadata =>
      have inner : object.metadata = metadata := by
        simp [Document.metadata, metadata?, below, Json.object?]
      have exactInner := exact.2.of_mem (Assoc.mem_of_get? below)
      rw [Json.IsExact] at exactInner
      rw [inner] at found
      rw [stamp, inner, exactInner.1.insert_same found, withMetadata, exact.1.insert_same below]
    | null | bool | number | string | array =>
      simp [Document.metadata, metadata?, below, Json.object?] at found

theorem archivedText_eq (object : Document) : object.archivedText =
    String.ofList ((Json.object object.stripped).render .indented 0 ++ ['\n']) := by
  rw [String.ofList_append]
  rfl

theorem isSpace_lineBreak : ∀ c ∈ ['\n'], Json.Reader.isSpace c = true := by
  intro c member
  rw [List.mem_singleton.mp member]
  rfl

end Document

namespace RestoreItem

open Document

theorem readBody_archivedBytes (path : String) {object : Document} (portable : object.IsPortable) :
    readBody path object.archivedBytes = .ok object.stripped := by
  have read := Json.readText_render .indented portable.exact portable.shallow isSpace_lineBreak
  rw [← archivedText_eq] at read
  rw [readBody, archivedBytes, Json.readBytes_ofText, read]

/-- The entry of an object gets back the object itself, in its namespace. -/
theorem prepare_stripped (path : String) {entry : Entry} {object : Document}
    (portable : object.IsPortable) (named : object.name? = some entry.name) :
    prepare path entry object.stripped = .ok ⟨entry, object.stripped.placed entry.ns⟩ := by
  have keeps : object.stripped.name? = some entry.name := by rw [name?_stripped, named]
  have nonempty := ne_empty_of_name? keeps
  have has := (Option.filter_eq_some_iff.mp keeps).1
  rw [prepare, keeps, Option.getD_some, if_neg nonempty, stamp_same portable.exact has]
  rfl

/-- The file of an archived object is read as the item of that object. -/
theorem ofFile_archived {entry : Entry} (valid : entry.IsValid) {object : Document}
    (portable : object.IsPortable) (named : object.name? = some entry.name) :
    ofFile entry.path object.archivedBytes =
      .ok (some ⟨entry, object.stripped.placed entry.ns⟩) := by
  have ends : Text.stripSuffix? Entry.ending entry.path =
      some ("/".intercalate entry.directories ++ "/" ++ entry.name) :=
    Text.stripSuffix?_eq_some.mpr rfl
  have parsed : Entry.ofPath entry.path = .ok entry := by rw [Entry.ofPath, Entry.parse_path valid.wellFormed]; rfl
  rw [ofFile, ends, parsed, readBody_archivedBytes entry.path portable]
  simp only [Option.isNone_some, Bool.false_eq_true, if_false, bind, Except.bind, pure, Except.pure,
    prepare_stripped entry.path portable named]

/-- Files that are read as items, one by one, are read as the list of them. -/
theorem ofFiles_map {entries : List Entry} {body : Entry → Bytes} {item : Entry → RestoreItem}
    (each : ∀ entry ∈ entries, ofFile entry.path (body entry) = .ok (some (item entry))) :
    ofFiles none (entries.map fun entry => (entry.path, body entry)) = .ok (entries.map item) := by
  induction entries with
  | nil => rfl
  | cons entry rest ih =>
    obtain ⟨here, later⟩ := List.forall_mem_cons.mp each
    rw [List.map_cons, List.map_cons, ofFiles, here, ih later]
    rfl

end RestoreItem

end ClusterArchive
