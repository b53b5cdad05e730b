import ClusterArchive.Proofs.Restore.Reading
import ClusterArchive.Proofs.Restore.Upsert

/-! Reconciling an entry with its object. The name of the object wins, the namespace of the entry
does, and nothing else is changed. After that both tell one identity: reconciling again changes
nothing, and all requests for the item go to one key. -/

namespace ClusterArchive

namespace Document

/-- A name of its own: a text in the metadata that is not empty. -/
def HasName (object : Document) (name : String) : Prop :=
  name ≠ "" ∧ ∃ metadata, Assoc.get? "metadata" object = some (.object metadata) ∧
    Assoc.get? "name" metadata = some (.string name)

theorem object?_eq_some {json : Json} {members : Document} :
    json.object? = some members ↔ json = .object members := by
  cases json <;> simp [Json.object?]

theorem string?_eq_some {json : Json} {text : String} :
    json.string? = some text ↔ json = .string text := by
  cases json <;> simp [Json.string?]

theorem metadata?_eq_some {object metadata : Document} :
    object.metadata? = some metadata ↔ Assoc.get? "metadata" object = some (.object metadata) := by
  simp only [metadata?, Option.bind_eq_some_iff, object?_eq_some, exists_eq_right]

theorem name?_eq_some {object : Document} {name : String} :
    object.name? = some name ↔ object.HasName name := by
  simp only [name?, metadataText?, Option.filter_eq_some_iff, Option.bind_eq_some_iff,
    string?_eq_some, exists_eq_right, decide_eq_true_eq, HasName, ← metadata?_eq_some]
  cases found : object.metadata? with
  | none => simp [Document.metadata, found]
  | some metadata => simp [Document.metadata, found, and_comm]

theorem name?_eq_none {object : Document} :
    object.name? = none ↔ ∀ name, ¬object.HasName name := by
  simp only [Option.eq_none_iff_forall_ne_some, ne_eq, name?_eq_some]

end Document

namespace RestoreItem

open Document MemoryCluster

def IsStamped (ns : Option String) (key : String) : Prop :=
  key = "name" ∨ key = "namespace" ∧ ns ≠ none

def stamps (ns : Option String) (name : String) : List (String × Json) :=
  ("name", .string name) :: ns.toList.map fun ns => ("namespace", .string ns)

theorem mem_stamps {ns : Option String} {name key : String} :
    key ∈ (stamps ns name).map Prod.fst ↔ IsStamped ns key := by
  cases ns <;> simp [stamps, IsStamped]

theorem stampAll_stamps (ns : Option String) (name : String) (object : Document) :
    stampAll (stamps ns name) (stampAll (stamps ns name) object) =
      stampAll (stamps ns name) object := by
  have apart : "name" ≠ "namespace" := by decide
  rw [stampAll_stampAll]
  cases ns with
  | none => simp [stamps, stampAll]
  | some ns =>
    simp only [stamps, Option.toList_some, List.map_cons, List.map_nil, stampAll, List.cons_append,
      List.nil_append, List.foldl_cons, List.foldl_nil]
    rw [Assoc.insert_comm apart, Assoc.insert_insert, Assoc.insert_insert]

/-- A reconciled item has the name of the object, or else that of the entry. -/
theorem prepare_eq_ok {path : String} {entry : Entry} {object : Document} {item : RestoreItem} :
    prepare path entry object = .ok item ↔ object.name?.getD entry.name ≠ "" ∧
      item = ⟨{ entry with name := object.name?.getD entry.name },
        stampAll (stamps entry.ns (object.name?.getD entry.name)) object⟩ := by
  obtain ⟨type, ns, own⟩ := entry
  rw [prepare]
  by_cases empty : object.name?.getD own = ""
  · simp [empty]
  · cases ns with
    | none => simp [empty, stamps, stampAll, stamp, eq_comm]
    | some ns => simp [empty, stamps, stampAll, stamp, eq_comm]

theorem prepare_error_iff {path : String} {entry : Entry} {object : Document} {error : RunError} :
    prepare path entry object = .error error ↔
      error = .missingName path ∧ (∀ name, ¬object.HasName name) ∧ entry.name = "" := by
  have nameless : ¬Named entry object ↔ (∀ name, ¬object.HasName name) ∧ entry.name = "" := by
    simp only [Named, ← name?_eq_none, not_or, not_not]
  constructor
  · intro failed
    have lacks : ¬Named entry object := by
      intro named
      obtain ⟨item, prepared⟩ := prepare_of_named named path
      rw [prepared] at failed
      cases failed
    rw [prepare_of_nameless lacks] at failed
    exact ⟨(Except.error.inj failed).symm, nameless.mp lacks⟩
  · rintro ⟨rfl, lacks⟩
    exact prepare_of_nameless (nameless.mpr lacks) path

/-- What an item keeps of an entry and an object, and what the two get from each other. -/
structure Reconciles (entry : Entry) (object : Document) (item : RestoreItem) : Prop where
  type : item.entry.type = entry.type
  ns : item.entry.ns = entry.ns
  name : object.HasName item.entry.name ∨
    (∀ name, ¬object.HasName name) ∧ item.entry.name = entry.name
  named : item.object.HasName item.entry.name
  members : ∀ key, key ≠ "metadata" → Assoc.get? key item.object = Assoc.get? key object
  metadata : ∃ metadata, Assoc.get? "metadata" item.object = some (.object metadata) ∧
    (∀ ns, entry.ns = some ns → Assoc.get? "namespace" metadata = some (.string ns)) ∧
    (∀ before, Assoc.get? "metadata" object = some (.object before) →
      ∀ key, ¬IsStamped entry.ns key → Assoc.get? key metadata = Assoc.get? key before) ∧
    ((∀ before, Assoc.get? "metadata" object ≠ some (.object before)) →
      ∀ key, ¬IsStamped entry.ns key → Assoc.get? key metadata = none)

theorem get?_metadata_stamps (ns : Option String) (name : String) (object : Document) :
    Assoc.get? "name" (stampAll (stamps ns name) object).metadata = some (.string name) ∧
    ∀ text, ns = some text →
      Assoc.get? "namespace" (stampAll (stamps ns name) object).metadata = some (.string text) := by
  rw [metadata_stampAll]
  cases ns <;> simp [stamps]

theorem reconciles_of_prepare {path : String} {entry : Entry} {object : Document}
    {item : RestoreItem} (prepared : prepare path entry object = .ok item) :
    Reconciles entry object item := by
  obtain ⟨nonempty, rfl⟩ := prepare_eq_ok.mp prepared
  generalize same : object.name?.getD entry.name = name at nonempty
  obtain ⟨stampedName, stampedNamespace⟩ := get?_metadata_stamps entry.ns name object
  have inner : Assoc.get? "metadata" (stampAll (stamps entry.ns name) object) =
      some (.object (stampAll (stamps entry.ns name) object).metadata) :=
    metadata?_eq_some.mp (by simp [stampAll])
  have kept (key : String) (other : ¬IsStamped entry.ns key) :
      Assoc.get? key (stampAll (stamps entry.ns name) object).metadata =
        Assoc.get? key object.metadata :=
    get?_metadata_stampAll_of_notMem (mt mem_stamps.mp other) object
  refine ⟨rfl, rfl, ?_, ⟨nonempty, _, inner, stampedName⟩, fun key apart => ?_,
    _, inner, stampedNamespace, fun before found key other => ?_, fun missing key other => ?_⟩
  · cases own : object.name? with
    | none => exact .inr ⟨name?_eq_none.mp own, by simpa [own] using same.symm⟩
    | some text =>
      obtain rfl : text = name := by simpa [own] using same
      exact .inl (name?_eq_some.mp own)
  · simp [stampAll, withMetadata, apart.symm]
  · rw [kept key other, Document.metadata, metadata?_eq_some.mpr found, Option.getD_some]
  · have none : object.metadata? = none :=
      Option.eq_none_iff_forall_ne_some.mpr fun before is => missing before (metadata?_eq_some.mp is)
    rw [kept key other, Document.metadata, none, Option.getD_none, Assoc.get?_nil]

theorem prepare_again {path : String} {entry : Entry} {object : Document} {item : RestoreItem}
    (prepared : prepare path entry object = .ok item) (other : String) :
    prepare other item.entry item.object = .ok item := by
  have own := name?_eq_some.mpr (reconciles_of_prepare prepared).named
  obtain ⟨nonempty, rfl⟩ := prepare_eq_ok.mp prepared
  refine prepare_eq_ok.mpr ⟨?_, ?_⟩
  · rwa [own, Option.getD_some]
  · rw [own, Option.getD_some, stampAll_stamps]

/-- All requests for an item go to one key: its object is stored where it is fetched. -/
structure SharesKey (item : RestoreItem) (cluster : MemoryCluster) : Prop where
  created : ∀ stored after,
    cluster.create item.entry.type item.entry.ns item.object = (.ok stored, after) →
      cluster.object? item.key = none ∧ after = cluster.store item.key stored
  refused : ∀ resource name,
    (cluster.create item.entry.type item.entry.ns item.object).1 =
        .error (.alreadyExists resource name) →
      (cluster.object? item.key).isSome
  fetched : ∀ live, cluster.get item.entry.type item.entry.ns item.entry.name = .ok live →
    cluster.object? item.key = some live
  updated : ∀ live stored after,
    cluster.update item.entry.type item.entry.ns (item.desired live) = (.ok stored, after) →
      (cluster.object? item.key).isSome ∧ after = cluster.store item.key stored

theorem name?_desired (item : RestoreItem) (live : Document) :
    (item.desired live).name? = item.object.name? := by
  unfold desired
  cases live.resourceVersion? with
  | none => rfl
  | some version => exact name?_stamp "resourceVersion" version item.object (by decide)

theorem sharesKey_of_named {item : RestoreItem} (named : item.object.HasName item.entry.name)
    (cluster : MemoryCluster) : item.SharesKey cluster := by
  have own := name?_eq_some.mpr named
  refine ⟨fun stored after created => ?_, fun resource name refused => ?_, fun live fetched => ?_,
    fun live stored after updated => ?_⟩
  · obtain ⟨name, same, _, free, _, stores⟩ := create_cases created
    obtain rfl : item.entry.name = name := Option.some.inj (own.symm.trans same)
    exact ⟨free, stores⟩
  · cases scope : cluster.checkScope item.entry.type item.entry.ns with
    | error error =>
      obtain rfl : error = .alreadyExists resource name := by simpa [create, scope] using refused
      rcases checkScope_error scope with ⟨_, _, other⟩ | ⟨_, other⟩ <;> cases other
    | ok =>
      rw [create_eq scope own] at refused
      split at refused
      next taken => exact taken
      next => cases refused
  · exact get_cases fetched
  · obtain ⟨name, current, same, _, found, _, _, stores⟩ := update_cases updated
    rw [name?_desired] at same
    obtain rfl : item.entry.name = name := Option.some.inj (own.symm.trans same)
    have taken : cluster.object? item.key = some current := found
    exact ⟨by rw [taken]; rfl, stores⟩

/-- Reconciliation fails exactly for the lack of a name. Else it leaves one identity to the entry and
the object, changes nothing besides, and has nothing left to do. -/
theorem prepare_reconciles (path : String) (entry : Entry) (object : Document) :
    (prepare path entry object = .error (.missingName path) ↔
      (∀ name, ¬object.HasName name) ∧ entry.name = "") ∧
    ((∃ name, object.HasName name) ∨ entry.name ≠ "" →
      ∃ item, prepare path entry object = .ok item ∧ Reconciles entry object item ∧
        (∀ other, prepare other item.entry item.object = .ok item) ∧
        ∀ cluster, item.SharesKey cluster) := by
  refine ⟨by simp [prepare_error_iff], fun named => ?_⟩
  cases prepared : prepare path entry object with
  | error error =>
    obtain ⟨_, nameless, empty⟩ := prepare_error_iff.mp prepared
    rcases named with ⟨name, has⟩ | nonempty
    · exact absurd has (nameless name)
    · exact absurd empty nonempty
  | ok item =>
    have reconciles := reconciles_of_prepare prepared
    exact ⟨item, rfl, reconciles, prepare_again prepared, sharesKey_of_named reconciles.named⟩

/-- An object that was moved: it names another namespace than its entry, and itself otherwise. -/
theorem prepare_reconciles_moved :
    let entry : Entry := ⟨⟨"", "v1", "configmaps"⟩, some "web", "old"⟩
    let object : Document := [("kind", .string "ConfigMap"), ("metadata", .object
      [("labels", .null), ("name", .string "settings"), ("namespace", .string "db")])]
    let item : RestoreItem := ⟨{ entry with name := "settings" }, [("kind", .string "ConfigMap"),
      ("metadata", .object
        [("labels", .null), ("name", .string "settings"), ("namespace", .string "web")])]⟩
    object.HasName "settings" ∧ prepare "old.json" entry object = .ok item ∧
      Reconciles entry object item ∧ ∀ cluster, item.SharesKey cluster := by
  intro entry object item
  have named : object.HasName "settings" := ⟨by decide, _, rfl, rfl⟩
  have prepared : prepare "old.json" entry object = .ok item := by rfl
  obtain ⟨other, same, reconciles, _, shares⟩ :=
    (prepare_reconciles "old.json" entry object).2 (.inl ⟨_, named⟩)
  obtain rfl : item = other := Except.ok.inj (prepared.symm.trans same)
  exact ⟨named, prepared, reconciles, shares⟩

end RestoreItem

end ClusterArchive
