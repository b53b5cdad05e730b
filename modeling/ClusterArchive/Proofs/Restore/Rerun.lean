import ClusterArchive.Proofs.Restore.Outcome

/-! Restoring the same items again. A first run that succeeded leaves every key and every namespace
that a second one needs; nothing that happens in between takes them away, and only failures of the
fetches and updates, which the first run may not have needed, can end the second. -/

namespace ClusterArchive.MemoryCluster

open RestoreItem

theorem applyInOrder_ok {cluster after : MemoryCluster} (sound : Sound cluster)
    {items : List RestoreItem} (named : ∀ item ∈ items, item.object.name? = some item.entry.name)
    {start summary : ApplySummary}
    (applied : client.applier.applyInOrder uncancelled start items cluster = (.ok summary, after)) :
    Admitted cluster items ∧ after = cluster.upserts items := by
  induction items generalizing cluster start with
  | nil => exact ⟨trivial, (Prod.mk.inj applied).2.symm⟩
  | cons item rest ih =>
    obtain ⟨namedHere, namedLater⟩ := List.forall_mem_cons.mp named
    rw [Applier.applyInOrder] at applied
    simp only [uncancelled] at applied
    split at applied
    next => simp at applied
    next outcome next here =>
      obtain ⟨scope, rfl⟩ := applyItem_ok sound namedHere here
      obtain ⟨admitted, rfl⟩ := ih (sound.upsert namedHere) namedLater applied
      exact ⟨⟨scope, admitted⟩, rfl⟩

/-- A run that finds every key taken fails where it meets a failure of a fetch or an update. -/
theorem applyInOrder_of_hindered {cluster : MemoryCluster} (sound : Sound cluster)
    {items : List RestoreItem} (named : ∀ item ∈ items, item.object.name? = some item.entry.name)
    (admitted : Admitted cluster items) (taken : ∀ item ∈ items, (cluster.object? item.key).isSome)
    (hindered : ¬Unhindered cluster items) (start : ApplySummary) :
    ∃ error after, client.applier.applyInOrder uncancelled start items cluster =
      (.error error, after) := by
  induction items generalizing cluster start with
  | nil => exact absurd (by simp [Unhindered]) hindered
  | cons item rest ih =>
    obtain ⟨namedHere, namedLater⟩ := List.forall_mem_cons.mp named
    obtain ⟨takenHere, takenLater⟩ := List.forall_mem_cons.mp taken
    rw [Applier.applyInOrder]
    simp only [uncancelled]
    by_cases here : (item.entry.type, item.entry.ns) ∈ cluster.failingGets ∨
        (item.entry.type, item.entry.ns) ∈ cluster.failingUpdates
    · obtain ⟨error, failed⟩ := replace_of_hindered here admitted.1 takenHere
      rw [applyItem_of_taken namedHere admitted.1 takenHere, failed]
      exact ⟨error, cluster, rfl⟩
    · have clear := not_or.mp here
      rw [applyItem_of_admitted sound namedHere clear.1 clear.2 admitted.1]
      refine ih (sound.upsert namedHere) namedLater admitted.2 (fun later member => ?_)
        (fun unhindered => hindered (List.forall_mem_cons.mpr ⟨clear, unhindered⟩)) _
      rw [upsert_object?]
      split
      next => rfl
      next => exact takenLater later member

/-- The cluster that a run left, and every later one, admits the items and holds their keys. -/
theorem admits_again {cluster later : MemoryCluster} {items : List RestoreItem}
    (admits : ∀ item ∈ items, cluster.Admits items item)
    (further : Extends (cluster.upserts (Applier.schedule items)) later) :
    (∀ item ∈ items, later.Admits items item) ∧
    ∀ item ∈ items, (later.object? item.key).isSome := by
  constructor
  · intro item member
    obtain ⟨registers, stored⟩ := admits item member
    refine ⟨further.registers ((registers_upserts ..).mpr registers), fun name inside => .inl ?_⟩
    refine further.keys _ ((isSome_upserts_object? ..).mpr ?_)
    simpa [mem_schedule] using stored name inside
  · intro item member
    refine further.keys _ ((isSome_upserts_object? ..).mpr (.inr ?_))
    exact List.mem_map_of_mem (mem_schedule.mpr member)

theorem freshKeys_eq_empty {cluster : MemoryCluster} {items : List RestoreItem}
    (taken : ∀ item ∈ items, (cluster.object? item.key).isSome) : cluster.freshKeys items = ∅ := by
  apply Finset.filter_eq_empty_iff.mpr
  intro key member free
  obtain ⟨item, isIn, rfl⟩ := List.mem_map.mp (List.mem_toFinset.mp member)
  simpa [free] using taken item isIn

/-- Two restores of the same items, one right after the other, leave the same objects but for their
versions. -/
theorem Restored.again {cluster first last : MemoryCluster} {items : List RestoreItem}
    (once : Restored cluster items first) (twice : Restored first items last) (key : ObjectKey) :
    last.object? key = first.object? key ∨ ∃ (object : Document) (version : Nat),
      first.object? key = some object ∧
      last.object? key = some (object.stamp "resourceVersion" (toString version)) := by
  cases found : latest key items with
  | none => exact .inl (twice.untouched key (latest_eq_none.mp found))
  | some item =>
    obtain ⟨version, identity, _, _, _, stored⟩ := once.placed key item found
    obtain ⟨next, _, _, _, _, storedAgain⟩ := twice.placed key item found
    refine .inr ⟨_, next, stored, ?_⟩
    rw [storedAgain, uid?_of_served stored, Option.getD_some]
    exact congrArg some (stampAll_served ..).symm

/-- After a restore that succeeded and whatever happened then, short of failures put into fetches and
updates, the same restore succeeds exactly if no such failure was there from the start. It updates
every item, keeps the identifiers it finds, and right after the first one changes versions only. -/
theorem applyItems_again {cluster first later : MemoryCluster} (reachable : Reachable cluster)
    {items : List RestoreItem} (prepared : ∀ item ∈ items, item.IsPrepared) {summary : ApplySummary}
    (ran : client.applier.applyItems uncancelled items cluster = (.ok summary, first))
    (history : History (fun arrangement => ¬arrangement.IsApplyFault) first later) :
    let run := client.applier.applyItems uncancelled items later
    ((∃ summary, run.1 = .ok summary) ↔ Unhindered cluster items) ∧
    ∀ summary, run.1 = .ok summary →
      summary = ⟨0, items.length⟩ ∧
      (∀ key item, latest key items = some item → ∃ version uid, later.uid? key = some uid ∧
        run.2.object? key = some (served version uid item.object)) ∧
      (later = first →
        run.2 = { first with objects := run.2.objects, version := first.version + items.length } ∧
        ∀ key, run.2.object? key = first.object? key ∨ ∃ (object : Document) (version : Nat),
          first.object? key = some object ∧
          run.2.object? key = some (object.stamp "resourceVersion" (toString version))) := by
  have named : ∀ item ∈ items, item.object.name? = some item.entry.name :=
    fun item member => (prepared item member).named
  have scheduled : ∀ item ∈ Applier.schedule items, item.object.name? = some item.entry.name :=
    fun item member => named item (mem_schedule.mp member)
  obtain ⟨admitted, rfl⟩ := applyInOrder_ok reachable.sound scheduled ran
  have soundFirst := reachable.sound.upserts scheduled
  obtain ⟨soundLater, further⟩ := history.sound soundFirst
  obtain ⟨admits, taken⟩ := admits_again (admitted_schedule_iff.mp admitted) further
  have faults : Unhindered later items ↔ Unhindered cluster items := by
    obtain ⟨gets, updates⟩ := history.faults soundFirst
    obtain ⟨getsFirst, updatesFirst⟩ := upserts_faults cluster (Applier.schedule items)
    simp only [Unhindered, gets, updates, getsFirst, updatesFirst]
  by_cases unhindered : Unhindered later items
  · rw [applyItems_admitted soundLater named unhindered admits, freshKeys_eq_empty taken]
    refine ⟨by simpa using faults.mp unhindered, ?_⟩
    rintro summary success
    obtain rfl := Except.ok.inj success
    have restored := (restored_upserts later (Applier.schedule items)).of_schedule
    refine ⟨by simp, ?_, ?_⟩
    · intro key item found
      obtain ⟨version, _, _, _, _, stored⟩ := restored.placed key item found
      have present : (later.uid? key).isSome := by
        have held : key ∈ items.map RestoreItem.key := by
          by_contra absent
          simp [latest_eq_none.mpr absent] at found
        obtain ⟨other, member, rfl⟩ := List.mem_map.mp held
        exact (soundLater.isSome_uid? _).mpr (taken other member)
      obtain ⟨uid, identified⟩ := Option.isSome_iff_exists.mp present
      rw [identified, Option.getD_some] at stored
      exact ⟨version, uid, identified, stored⟩
    · rintro rfl
      exact ⟨restored.frame, (restored_upserts ..).of_schedule.again restored⟩
  · obtain ⟨error, after, failed⟩ := applyInOrder_of_hindered soundLater scheduled
      (admitted_schedule_iff.mpr admits)
      (fun item member => taken item (mem_schedule.mp member))
      (fun clear => unhindered fun item member => clear item (mem_schedule.mpr member)) ⟨0, 0⟩
    rw [Applier.applyItems, failed]
    exact ⟨by simpa using fun clear => unhindered (faults.mpr clear), by simp⟩

theorem applyItems_again_lateNamespace : ∃ first later last,
    client.applier.applyItems uncancelled lateNamespace twoTypes = (.ok ⟨2, 0⟩, first) ∧
    first.undergo (.seed ⟨"", "v1", "configmaps"⟩ (some "web")
      (.object [("metadata", .object [("name", .string "settings")])])) = (.ok (), later) ∧
    client.applier.applyItems uncancelled lateNamespace later = (.ok ⟨0, 2⟩, last) := by
  have ran : client.applier.applyItems uncancelled lateNamespace twoTypes =
    (.ok ⟨2, 0⟩, (client.applier.applyItems uncancelled lateNamespace twoTypes).2) := rfl
  have again := applyItems_again reachable_twoTypes prepared_lateNamespace ran
    (Relation.ReflTransGen.single (.arrange (.seed ⟨"", "v1", "configmaps"⟩ (some "web")
      (.object [("metadata", .object [("name", .string "settings")])])) id))
  obtain ⟨summary, success⟩ := again.1.mpr (by simp [Unhindered, twoTypes, empty, register])
  obtain ⟨rfl, _⟩ := again.2 summary success
  exact ⟨_, _, _, rfl, rfl, Prod.ext success rfl⟩

/-- A failure put into fetches beforehand does not end a run that only creates, but the next one. -/
theorem applyItems_again_hindered :
    let cluster := { twoTypes with failingGets := [(⟨"", "v1", "configmaps"⟩, some "web")] }
    Reachable cluster ∧ (∀ item ∈ lateNamespace, item.IsPrepared) ∧ ∃ first error,
      client.applier.applyItems uncancelled lateNamespace cluster = (.ok ⟨2, 0⟩, first) ∧
      (client.applier.applyItems uncancelled lateNamespace first).1 = .error error :=
  ⟨reachable_twoTypes.tail (.arrange (.failGet ⟨"", "v1", "configmaps"⟩ (some "web")) trivial),
    prepared_lateNamespace, _, _, rfl, rfl⟩

end ClusterArchive.MemoryCluster
