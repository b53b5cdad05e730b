import ClusterArchive.Proofs.Restore.Schedule

/-! What a restore does to a cluster in memory that fails no fetch and no update. The run goes as far
as the first item that is refused, and up to there each key holds the last of its items. -/

namespace ClusterArchive

open RestoreItem

namespace MemoryCluster

/-- No failure was put into the fetches and the updates that some items may need. -/
def Unhindered (cluster : MemoryCluster) (items : List RestoreItem) : Prop :=
  ∀ item ∈ items, (item.entry.type, item.entry.ns) ∉ cluster.failingGets ∧
    (item.entry.type, item.entry.ns) ∉ cluster.failingUpdates

/-- A cluster after some items. The keys of the items hold the last item each, with a version and an
identifier from the server; the identifier is the one from before, if there was one. -/
structure Restored (before : MemoryCluster) (items : List RestoreItem)
    (after : MemoryCluster) : Prop where
  keys : ∀ key, (after.object? key).isSome ↔
    (before.object? key).isSome ∨ key ∈ items.map RestoreItem.key
  untouched : ∀ key, key ∉ items.map RestoreItem.key → after.object? key = before.object? key
  placed : ∀ key item, latest key items = some item → ∃ version first,
    before.version < first ∧ first ≤ version ∧ version ≤ after.version ∧
    after.object? key =
      some (served version ((before.uid? key).getD (uidText first)) item.object)
  frame : after =
    { before with objects := after.objects, version := before.version + items.length }

theorem Sound.isSome_uid? {cluster : MemoryCluster} (sound : Sound cluster) (key : ObjectKey) :
    (cluster.uid? key).isSome ↔ (cluster.object? key).isSome := by
  unfold uid?
  cases found : cluster.object? key with
  | none => simp
  | some object =>
    obtain ⟨uid, identified⟩ := (sound.stored key object found).identified
    simp [identified]

theorem uid?_of_served {cluster : MemoryCluster} {key : ObjectKey} {version : Nat} {uid : Json}
    {object : Document} (found : cluster.object? key = some (served version uid object)) :
    cluster.uid? key = some uid := by
  simp [uid?, found, uid_served]

theorem Restored.nil (cluster : MemoryCluster) : Restored cluster [] cluster where
  keys := by simp
  untouched := fun _ _ => rfl
  placed := by simp
  frame := rfl

theorem Restored.concat {before after : MemoryCluster} {items : List RestoreItem}
    (restored : Restored before items after) (item : RestoreItem) :
    Restored before (items ++ [item]) (after.upsert item) where
  keys := by
    intro key
    rw [upsert_object?]
    by_cases same : item.key = key
    · simp [same]
    · simp [same, Ne.symm same, restored.keys]
  untouched := by
    intro key absent
    simp only [List.map_append, List.map_cons, List.map_nil, List.mem_append, List.mem_singleton,
      not_or] at absent
    rw [upsert_object?, if_neg (Ne.symm absent.2), restored.untouched key absent.1]
  placed := by
    intro key found lastOf
    rw [latest_concat] at lastOf
    have count : after.version = before.version + items.length :=
      congrArg MemoryCluster.version restored.frame
    have next : (after.upsert item).version = after.version + 1 := rfl
    rw [upsert_object?, next]
    split at lastOf
    next same =>
      obtain rfl := Option.some.inj lastOf
      subst same
      rw [if_pos rfl]
      cases earlier : latest item.key items with
      | none =>
        refine ⟨_, after.version + 1, by omega, le_refl _, le_refl _, ?_⟩
        simp only [uid?, restored.untouched _ (latest_eq_none.mp earlier)]
      | some other =>
        obtain ⟨version, first, new, order, bound, stored⟩ := restored.placed _ _ earlier
        refine ⟨after.version + 1, first, new, by omega, le_refl _, ?_⟩
        rw [uid?_of_served stored, Option.getD_some]
    next differ =>
      obtain ⟨version, first, new, order, bound, stored⟩ := restored.placed key found lastOf
      exact ⟨version, first, new, order, by omega, by rw [if_neg differ, stored]⟩
  frame := by
    rw [restored.frame]
    simp [upsert, store, Nat.add_assoc]

theorem restored_upserts (cluster : MemoryCluster) (items : List RestoreItem) :
    Restored cluster items (cluster.upserts items) := by
  induction items using List.reverseRecOn with
  | nil => exact .nil cluster
  | append_singleton items item ih =>
    rw [upserts_append]
    exact ih.concat item

theorem Restored.of_schedule {before after : MemoryCluster} {items : List RestoreItem}
    (restored : Restored before (Applier.schedule items) after) : Restored before items after where
  keys := by simpa [mem_schedule] using restored.keys
  untouched := by simpa [mem_schedule] using restored.untouched
  placed := by simpa only [latest_schedule] using restored.placed
  frame := by simpa only [length_schedule] using restored.frame

theorem upserts_faults (cluster : MemoryCluster) (items : List RestoreItem) :
    (cluster.upserts items).failingGets = cluster.failingGets ∧
    (cluster.upserts items).failingUpdates = cluster.failingUpdates := by
  rw [(restored_upserts cluster items).frame]
  exact ⟨rfl, rfl⟩

theorem Sound.upserts {cluster : MemoryCluster} (sound : Sound cluster) {items : List RestoreItem}
    (named : ∀ item ∈ items, item.object.name? = some item.entry.name) :
    Sound (cluster.upserts items) := by
  induction items generalizing cluster with
  | nil => exact sound
  | cons item rest ih =>
    obtain ⟨here, later⟩ := List.forall_mem_cons.mp named
    exact ih (sound.upsert here) later

theorem card_freshKeys_le (cluster : MemoryCluster) (items : List RestoreItem) :
    (cluster.freshKeys items).card ≤ items.length := by
  induction items generalizing cluster with
  | nil => simp [freshKeys]
  | cons item rest ih =>
    have later := ih (cluster.upsert item)
    rw [card_freshKeys_cons, List.length_cons]
    split <;> omega

/-- A run passes through items that are admitted. It creates the keys that are free, and counts all
other items as updates. -/
theorem applyInOrder_admitted {cluster : MemoryCluster} (sound : Sound cluster)
    {items : List RestoreItem} (named : ∀ item ∈ items, item.object.name? = some item.entry.name)
    (unhindered : Unhindered cluster items) (admitted : Admitted cluster items)
    (summary : ApplySummary) (rest : List RestoreItem) :
    client.applier.applyInOrder uncancelled summary (items ++ rest) cluster =
      client.applier.applyInOrder uncancelled
        ⟨summary.created + (cluster.freshKeys items).card,
          summary.updated + (items.length - (cluster.freshKeys items).card)⟩
        rest (cluster.upserts items) := by
  induction items generalizing cluster summary with
  | nil => simp [freshKeys]
  | cons item items ih =>
    obtain ⟨namedHere, namedLater⟩ := List.forall_mem_cons.mp named
    obtain ⟨⟨gets, updates⟩, clear⟩ := List.forall_mem_cons.mp unhindered
    have applied := applyItem_of_admitted sound namedHere gets updates admitted.1
    have bound := card_freshKeys_le (cluster.upsert item) items
    rw [List.cons_append, Applier.applyInOrder]
    simp only [uncancelled, applied]
    rw [ih (sound.upsert namedHere) namedLater clear admitted.2, card_freshKeys_cons,
      upserts_cons, List.length_cons]
    congr 1
    split <;> simp only [ApplySummary.record, ApplySummary.mk.injEq] <;> omega

theorem Unhindered.schedule {cluster : MemoryCluster} {items : List RestoreItem}
    (unhindered : Unhindered cluster items) : Unhindered cluster (Applier.schedule items) :=
  fun item member => unhindered item (mem_schedule.mp member)

theorem freshKeys_schedule (cluster : MemoryCluster) (items : List RestoreItem) :
    cluster.freshKeys (Applier.schedule items) = cluster.freshKeys items := by
  ext key
  simp [freshKeys, mem_schedule]

theorem applyItems_admitted {cluster : MemoryCluster} (sound : Sound cluster)
    {items : List RestoreItem} (named : ∀ item ∈ items, item.object.name? = some item.entry.name)
    (unhindered : Unhindered cluster items) (admits : ∀ item ∈ items, cluster.Admits items item) :
    client.applier.applyItems uncancelled items cluster =
      (.ok ⟨(cluster.freshKeys items).card, items.length - (cluster.freshKeys items).card⟩,
        cluster.upserts (Applier.schedule items)) := by
  have run := applyInOrder_admitted sound
    (fun item member => named item (mem_schedule.mp member)) unhindered.schedule
    (admitted_schedule_iff.mpr admits) ⟨0, 0⟩ []
  rw [List.append_nil, freshKeys_schedule, length_schedule] at run
  simpa only [Applier.applyItems, Applier.applyInOrder, Nat.zero_add] using run

/-- A restore succeeds exactly if the cluster admits all items, wherever in the list the namespaces
stand. It then creates the free keys and updates the others; otherwise the items before the first
refused one have been applied, and that refusal is the error. -/
theorem applyItems_exact {cluster : MemoryCluster} (reachable : Reachable cluster)
    (gets : cluster.failingGets = []) (updates : cluster.failingUpdates = [])
    {items : List RestoreItem} (prepared : ∀ item ∈ items, item.IsPrepared) :
    let run := client.applier.applyItems uncancelled items cluster
    ((∃ summary, run.1 = .ok summary) ↔ ∀ item ∈ items, cluster.Admits items item) ∧
    (∀ summary, run.1 = .ok summary →
      summary.created = (cluster.freshKeys items).card ∧
      summary.created + summary.updated = items.length ∧ Restored cluster items run.2) ∧
    (∀ error, run.1 = .error error → ∃ before item rest refusal,
      Applier.schedule items = before ++ item :: rest ∧
      (∀ prior ∈ before, cluster.Admits items prior) ∧ ¬cluster.Admits items item ∧
      Restored cluster before run.2 ∧
      run.2.checkScope item.entry.type item.entry.ns = .error refusal ∧
      error = .apply .create (item.entry.ns.getD "") item.entry.name refusal) := by
  have named : ∀ item ∈ items, item.object.name? = some item.entry.name :=
    fun item member => (prepared item member).named
  have unhindered : Unhindered cluster items := by simp [Unhindered, gets, updates]
  rcases admitted_or_refused cluster (Applier.schedule items) with
    admitted | ⟨before, item, rest, refusal, split, admitted, refused⟩
  · have admits := admitted_schedule_iff.mp admitted
    rw [applyItems_admitted reachable.sound named unhindered admits]
    refine ⟨by simpa using admits, ?_, by simp⟩
    rintro summary success
    obtain rfl := Except.ok.inj success
    have bound := card_freshKeys_le cluster items
    exact ⟨rfl, by simp only []; omega, (restored_upserts ..).of_schedule⟩
  · have member {prior : RestoreItem} (isIn : prior ∈ before) : prior ∈ items := by
      apply mem_schedule.mp
      rw [split]
      exact List.mem_append_left _ isIn
    have run := applyInOrder_admitted reachable.sound (fun prior isIn => named prior (member isIn))
      (fun prior isIn => unhindered prior (member isIn)) admitted ⟨0, 0⟩ (item :: rest)
    rw [← split, Applier.applyInOrder] at run
    simp only [uncancelled, applyItem_of_refused refused] at run
    have denied : ¬cluster.Admits items item := by
      rw [← checkScope_scheduled cluster split, refused]
      simp
    have itemMember : item ∈ items := by
      apply mem_schedule.mp
      simp [split]
    rw [Applier.applyItems]
    simp only [run]
    refine ⟨by simpa using ⟨item, itemMember, denied⟩, by simp, ?_⟩
    rintro error failure
    obtain rfl := Except.error.inj failure
    refine ⟨before, item, rest, refusal, split, ?_, denied, restored_upserts .., refused, rfl⟩
    intro prior isIn
    obtain ⟨first, last, rfl⟩ := List.append_of_mem isIn
    rw [List.append_assoc, List.cons_append] at split
    exact (checkScope_scheduled cluster split).mp (admitted_append.mp admitted).2.1

/-- A cluster that stores namespaces and, inside of them, objects of one more type. -/
def twoTypes : MemoryCluster :=
  (MemoryCluster.empty.register .namespaces).register
    ⟨⟨"", "v1", "configmaps"⟩, "ConfigMap", true, ["list"]⟩

theorem reachable_twoTypes : Reachable twoTypes :=
  (Relation.ReflTransGen.single (Step.arrange (.register .namespaces) trivial)).tail
    (.arrange (.register _) trivial)

/-- An object that a namespace is told to hold, and after it that namespace. -/
def lateNamespace : List RestoreItem :=
  [⟨⟨⟨"", "v1", "configmaps"⟩, some "web", "settings"⟩,
      [("metadata", .object [("name", .string "settings"), ("namespace", .string "web")])]⟩,
    ⟨⟨.namespaces, none, "web"⟩, [("metadata", .object [("name", .string "web")])]⟩]

theorem prepared_lateNamespace : ∀ item ∈ lateNamespace, item.IsPrepared := by
  intro item member
  refine ⟨"", item.entry, [], ?_⟩
  rcases List.mem_pair.mp member with rfl | rfl <;> rfl

theorem applyItems_exact_lateNamespace : ∃ after,
    client.applier.applyItems uncancelled lateNamespace twoTypes = (.ok ⟨2, 0⟩, after) ∧
    Restored twoTypes lateNamespace after := by
  have exact := applyItems_exact reachable_twoTypes rfl rfl prepared_lateNamespace
  have run : client.applier.applyItems uncancelled lateNamespace twoTypes =
      (.ok ⟨2, 0⟩, (client.applier.applyItems uncancelled lateNamespace twoTypes).2) := rfl
  exact ⟨_, run, (exact.2.1 ⟨2, 0⟩ rfl).2.2⟩

end MemoryCluster

end ClusterArchive
