import ClusterArchive.Proofs.Restore.Upsert
import Mathlib.Data.Finset.Card

/-! What a restore does to a cluster in memory. The items are applied cluster-scoped ones first, so
a namespace may stand anywhere among them; the run goes as far as the first item that is refused,
and up to there each key holds the last of its items. -/

namespace ClusterArchive

namespace RestoreItem

def latest (key : ObjectKey) (items : List RestoreItem) : Option RestoreItem :=
  (items.filter (·.key = key)).getLast?

@[simp] theorem latest_nil (key : ObjectKey) : latest key [] = none := rfl

theorem latest_concat (key : ObjectKey) (items : List RestoreItem) (item : RestoreItem) :
    latest key (items ++ [item]) = if item.key = key then some item else latest key items := by
  simp only [latest, List.filter_append]
  split
  next same => simp [same]
  next differ => simp [differ]

theorem latest_eq_none {key : ObjectKey} {items : List RestoreItem} :
    latest key items = none ↔ key ∉ items.map RestoreItem.key := by
  simp [latest]

theorem latest_of_nodup {items : List RestoreItem} (distinct : (items.map RestoreItem.key).Nodup)
    {item : RestoreItem} (member : item ∈ items) : latest item.key items = some item := by
  obtain ⟨before, rest, rfl⟩ := List.append_of_mem member
  rw [List.map_append, List.map_cons, List.nodup_middle, List.nodup_cons] at distinct
  have alone : (before ++ rest).filter (fun other => other.key = item.key) = [] := by
    apply List.filter_eq_nil_iff.mpr
    intro other isIn
    simp only [decide_eq_true_eq]
    intro same
    apply distinct.1
    rw [← List.map_append, ← same]
    exact List.mem_map_of_mem isIn
  obtain ⟨first, last⟩ := List.append_eq_nil_iff.mp (List.filter_append .. ▸ alone)
  simp [latest, List.filter_append, first, last]

/-- Items of one key have one scope, so they keep their order. -/
theorem latest_schedule (key : ObjectKey) (items : List RestoreItem) :
    latest key (Applier.schedule items) = latest key items := by
  have scope (item : RestoreItem) (same : item.key = key) :
      item.entry.isClusterScoped = key.ns.isNone := by
    rw [← same]
    rfl
  simp only [latest, Applier.schedule, List.filter_append, List.filter_filter]
  cases outside : key.ns.isNone with
  | true =>
    have first : items.filter (fun item => item.key = key && item.entry.isClusterScoped) =
        items.filter (·.key = key) := by
      apply List.filter_congr
      intro item _
      by_cases same : item.key = key <;> simp [same, scope, outside]
    have second : items.filter (fun item => item.key = key && !item.entry.isClusterScoped) = [] := by
      apply List.filter_eq_nil_iff.mpr
      intro item _
      by_cases same : item.key = key <;> simp [same, scope, outside]
    rw [first, second, List.append_nil]
  | false =>
    have first : items.filter (fun item => item.key = key && item.entry.isClusterScoped) = [] := by
      apply List.filter_eq_nil_iff.mpr
      intro item _
      by_cases same : item.key = key <;> simp [same, scope, outside]
    have second : items.filter (fun item => item.key = key && !item.entry.isClusterScoped) =
        items.filter (·.key = key) := by
      apply List.filter_congr
      intro item _
      by_cases same : item.key = key <;> simp [same, scope, outside]
    rw [first, second, List.nil_append]

theorem mem_schedule {item : RestoreItem} {items : List RestoreItem} :
    item ∈ Applier.schedule items ↔ item ∈ items := by
  simp only [Applier.schedule, List.mem_append, List.mem_filter]
  cases item.entry.isClusterScoped <;> simp

theorem length_schedule (items : List RestoreItem) :
    (Applier.schedule items).length = items.length := by
  rw [Applier.schedule, List.length_append, ← List.countP_eq_length_filter,
    ← List.countP_eq_length_filter]
  have split := List.length_eq_countP_add_countP
    (fun item : RestoreItem => item.entry.isClusterScoped) (l := items)
  simpa using split.symm

end RestoreItem

namespace MemoryCluster

def upserts (cluster : MemoryCluster) (items : List RestoreItem) : MemoryCluster :=
  items.foldl upsert cluster

@[simp] theorem upserts_nil (cluster : MemoryCluster) : cluster.upserts [] = cluster := rfl

@[simp] theorem upserts_cons (cluster : MemoryCluster) (item : RestoreItem)
    (rest : List RestoreItem) :
    cluster.upserts (item :: rest) = (cluster.upsert item).upserts rest := rfl

theorem upserts_append (cluster : MemoryCluster) (first second : List RestoreItem) :
    cluster.upserts (first ++ second) = (cluster.upserts first).upserts second :=
  List.foldl_append ..

def Admitted : MemoryCluster → List RestoreItem → Prop
  | _, [] => True
  | cluster, item :: rest =>
    cluster.checkScope item.entry.type item.entry.ns = .ok () ∧ Admitted (cluster.upsert item) rest

theorem admitted_append {cluster : MemoryCluster} {first second : List RestoreItem} :
    Admitted cluster (first ++ second) ↔
      Admitted cluster first ∧ Admitted (cluster.upserts first) second := by
  induction first generalizing cluster with
  | nil => simp [Admitted]
  | cons item rest ih => simp [Admitted, ih, and_assoc]

theorem upsert_object? (cluster : MemoryCluster) (item : RestoreItem) (key : ObjectKey) :
    (cluster.upsert item).object? key = if item.key = key then
      some (served (cluster.version + 1)
        ((cluster.uid? item.key).getD (uidText (cluster.version + 1))) item.object)
    else cluster.object? key :=
  object?_store ..

theorem Sound.upsert {cluster : MemoryCluster} (sound : Sound cluster) {item : RestoreItem}
    (named : item.object.name? = some item.entry.name) : Sound (cluster.upsert item) :=
  sound.store (isStored_served named _ _)

theorem isSome_upserts_object? (cluster : MemoryCluster) (items : List RestoreItem)
    (key : ObjectKey) : ((cluster.upserts items).object? key).isSome ↔
      (cluster.object? key).isSome ∨ key ∈ items.map RestoreItem.key := by
  induction items generalizing cluster with
  | nil => simp
  | cons item rest ih =>
    rw [upserts_cons, ih, upsert_object?]
    by_cases same : item.key = key
    · simp [same]
    · simp [same, Ne.symm same]

/-- What a cluster asks of an item among others: its type is registered with its scope, and its
namespace is stored, or is itself among the items, wherever it stands. -/
def Admits (cluster : MemoryCluster) (items : List RestoreItem) (item : RestoreItem) : Prop :=
  cluster.Registers item.entry.type item.entry.ns ∧
  ∀ name, item.entry.ns = some name → (cluster.object? (namespaceKey name)).isSome ∨
    namespaceKey name ∈ items.map RestoreItem.key

theorem registers_upserts (cluster : MemoryCluster) (items : List RestoreItem)
    (type : ResourceType) (ns : Option String) :
    (cluster.upserts items).Registers type ns ↔ cluster.Registers type ns := by
  induction items generalizing cluster with
  | nil => rfl
  | cons item rest ih => exact ih (cluster.upsert item)

/-- The cluster-scoped items bring all namespaces there are among the items, so an item is admitted
in its turn exactly if it is admitted among all of them. -/
theorem checkScope_scheduled (cluster : MemoryCluster) {items before rest : List RestoreItem}
    {item : RestoreItem} (split : Applier.schedule items = before ++ item :: rest) :
    (cluster.upserts before).checkScope item.entry.type item.entry.ns = .ok () ↔
      cluster.Admits items item := by
  rw [checkScope_eq_ok, registers_upserts, Admits]
  refine and_congr Iff.rfl (forall_congr' fun name => forall_congr' fun inside => ?_)
  rw [isSome_upserts_object?]
  apply or_congr Iff.rfl
  simp only [List.mem_map]
  constructor
  · rintro ⟨other, member, same⟩
    refine ⟨other, RestoreItem.mem_schedule.mp ?_, same⟩
    rw [split]
    exact List.mem_append_left _ member
  · rintro ⟨other, member, same⟩
    refine ⟨other, ?_, same⟩
    have outside : other.entry.ns = none := congrArg ObjectKey.ns same
    have first : other ∈ items.filter (·.entry.isClusterScoped) := by
      simp [member, Entry.isClusterScoped, outside]
    rcases List.append_eq_append_iff.mp split with ⟨more, rfl, _⟩ | ⟨more, all, tail⟩
    · exact List.mem_append_left _ first
    · cases more with
      | nil => rwa [all, List.append_nil] at first
      | cons head more =>
        obtain ⟨rfl, _⟩ := List.cons.inj tail
        have among : item ∈ items.filter (·.entry.isClusterScoped) := by simp [all]
        simp [Entry.isClusterScoped, inside] at among

/-- A list of items is admitted as a whole, or up to a first item that is refused. -/
theorem admitted_or_refused (cluster : MemoryCluster) (items : List RestoreItem) :
    Admitted cluster items ∨ ∃ before item rest refusal, items = before ++ item :: rest ∧
      Admitted cluster before ∧
      (cluster.upserts before).checkScope item.entry.type item.entry.ns = .error refusal := by
  induction items generalizing cluster with
  | nil => exact .inl trivial
  | cons item rest ih =>
    cases scope : cluster.checkScope item.entry.type item.entry.ns with
    | error refusal => exact .inr ⟨[], item, rest, refusal, rfl, trivial, scope⟩
    | ok =>
      rcases ih (cluster.upsert item) with
        admitted | ⟨before, next, later, refusal, rfl, admitted, refused⟩
      · exact .inl ⟨scope, admitted⟩
      · exact .inr ⟨item :: before, next, later, refusal, rfl, ⟨scope, admitted⟩, refused⟩

theorem admitted_schedule_iff {cluster : MemoryCluster} {items : List RestoreItem} :
    Admitted cluster (Applier.schedule items) ↔ ∀ item ∈ items, cluster.Admits items item := by
  constructor
  · intro admitted item member
    obtain ⟨before, rest, split⟩ := List.append_of_mem (RestoreItem.mem_schedule.mpr member)
    rw [split, admitted_append] at admitted
    exact (checkScope_scheduled cluster split).mp admitted.2.1
  · intro admits
    rcases admitted_or_refused cluster (Applier.schedule items) with
      admitted | ⟨before, item, rest, refusal, split, _, refused⟩
    · exact admitted
    · have member : item ∈ Applier.schedule items := by simp [split]
      have accepted := (checkScope_scheduled cluster split).mpr
        (admits item (RestoreItem.mem_schedule.mp member))
      rw [refused] at accepted
      cases accepted

def freshKeys (cluster : MemoryCluster) (items : List RestoreItem) : Finset ObjectKey :=
  (items.map RestoreItem.key).toFinset.filter fun key => cluster.object? key = none

theorem card_freshKeys_cons (cluster : MemoryCluster) (item : RestoreItem)
    (rest : List RestoreItem) : (cluster.freshKeys (item :: rest)).card =
      (if (cluster.object? item.key).isSome then 0 else 1) +
        ((cluster.upsert item).freshKeys rest).card := by
  have later : (cluster.upsert item).freshKeys rest =
      (cluster.freshKeys rest).erase item.key := by
    ext key
    simp only [freshKeys, Finset.mem_filter, List.mem_toFinset, Finset.mem_erase, upsert_object?]
    grind
  rw [later]
  cases found : cluster.object? item.key with
  | some object =>
    have same : cluster.freshKeys (item :: rest) = cluster.freshKeys rest := by
      ext key
      simp only [freshKeys, Finset.mem_filter, List.mem_toFinset, List.map_cons, List.mem_cons]
      grind
    have absent : item.key ∉ cluster.freshKeys rest := by simp [freshKeys, found]
    rw [same, Finset.erase_eq_of_notMem absent]
    simp
  | none =>
    have more : cluster.freshKeys (item :: rest) =
        Insert.insert item.key ((cluster.freshKeys rest).erase item.key) := by
      ext key
      simp only [freshKeys, Finset.mem_filter, List.mem_toFinset, List.map_cons, List.mem_cons,
        Finset.mem_insert, Finset.mem_erase]
      grind
    rw [more, Finset.card_insert_of_notMem (Finset.notMem_erase item.key _)]
    simp [Nat.add_comm]

end MemoryCluster

end ClusterArchive
