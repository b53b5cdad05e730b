import ClusterArchive.Proofs.Cluster.Reachable
import ClusterArchive.Restore

/-! Applying one item to a cluster in memory. An item that is admitted puts its object under its
key, whether the key was taken or free; an item that is refused changes nothing. -/

namespace ClusterArchive

namespace RestoreItem

def key (item : RestoreItem) : ObjectKey := ⟨item.entry.type, item.entry.ns, item.entry.name⟩

def IsPrepared (item : RestoreItem) : Prop :=
  ∃ path entry object, prepare path entry object = .ok item

/-- Reconciliation leaves one name, in the entry as in the object. -/
theorem IsPrepared.named {item : RestoreItem} (prepared : item.IsPrepared) :
    item.object.name? = some item.entry.name := by
  obtain ⟨path, entry, object, prepared⟩ := prepared
  simp only [prepare] at prepared
  split at prepared
  next => simp at prepared
  next nonempty =>
    obtain rfl := Except.ok.inj prepared
    cases entry.ns with
    | none => exact Document.name?_stamp_name _ _ nonempty
    | some ns =>
      rw [Document.name?_stamp _ _ _ (by decide)]
      exact Document.name?_stamp_name _ _ nonempty

end RestoreItem

def uncancelled {σ : Type} (s : σ) : Bool × σ := (false, s)

namespace MemoryCluster

def client : Client MemoryCluster := ⟨fun request cluster => cluster.perform false request⟩

/-- The first registration of a type puts its objects in namespaces exactly if one is given. -/
def Registers (cluster : MemoryCluster) (type : ResourceType) (ns : Option String) : Prop :=
  ∃ resource, cluster.resource? type = .ok resource ∧ resource.namespaced = ns.isSome

def namespaceKey (name : String) : ObjectKey := ⟨.namespaces, none, name⟩

theorem checkScope_eq_ok {cluster : MemoryCluster} {type : ResourceType} {ns : Option String} :
    cluster.checkScope type ns = .ok () ↔
      cluster.Registers type ns ∧ ∀ name, ns = some name →
        (cluster.object? (namespaceKey name)).isSome := by
  unfold checkScope Registers namespaceKey
  cases cluster.resource? type with
  | error error => simp [bind, Except.bind]
  | ok resource =>
    cases scope : resource.namespaced <;> cases ns <;>
      simp [scope, Option.isSome_iff_ne_none, bind, Except.bind, pure, Except.pure, throw, throwThe,
        MonadExceptOf.throw]

theorem Extends.registers {before after : MemoryCluster} (further : Extends before after)
    {type : ResourceType} {ns : Option String} (registers : before.Registers type ns) :
    after.Registers type ns := by
  obtain ⟨resource, known, scope⟩ := registers
  exact ⟨resource, further.resources _ _ known, scope⟩

/-- A scope is never refused because something exists, nor because of a cancellation. -/
theorem checkScope_error {cluster : MemoryCluster} {type : ResourceType} {ns : Option String}
    {error : ClusterError} (refused : cluster.checkScope type ns = .error error) :
    (∃ code text, error = .api code text) ∨ ∃ name, error = .notFound "namespaces" name := by
  unfold checkScope at refused
  cases known : cluster.resource? type with
  | error reason =>
    simp only [known, bind, Except.bind, Except.error.injEq] at refused
    unfold resource? at known
    split at known
    next => simp at known
    next => exact .inl ⟨_, _, refused.symm.trans (Except.error.inj known).symm⟩
  | ok resource =>
    cases scope : resource.namespaced <;> cases ns <;>
      simp only [known, scope, bind, Except.bind, pure, Except.pure, throw, throwThe,
        MonadExceptOf.throw, reduceCtorEq, Except.error.injEq] at refused
    · exact .inl ⟨_, _, refused.symm⟩
    · exact .inl ⟨_, _, refused.symm⟩
    · split at refused
      next => simp at refused
      next => exact .inr ⟨_, (Except.error.inj refused).symm⟩

/-- The cluster with the object of an item under its key, which keeps its identifier. -/
def upsert (cluster : MemoryCluster) (item : RestoreItem) : MemoryCluster :=
  let version := cluster.version + 1
  cluster.store item.key
    (served version ((cluster.uid? item.key).getD (uidText version)) item.object)

theorem create_eq {cluster : MemoryCluster} {type : ResourceType} {ns : Option String}
    {object : Document} {name : String} (scope : cluster.checkScope type ns = .ok ())
    (named : object.name? = some name) :
    cluster.create type ns object =
      if (cluster.object? ⟨type, ns, name⟩).isSome then
        (.error (.alreadyExists type.resource name), cluster)
      else
        let stored := served (cluster.version + 1) (uidText (cluster.version + 1)) object
        (.ok stored, cluster.store ⟨type, ns, name⟩ stored) := by
  cases found : cluster.object? ⟨type, ns, name⟩ <;>
    simp [create, scope, requiredName_eq_ok.mpr named, found, served, store, Except.map]

theorem get_eq {cluster : MemoryCluster} {type : ResourceType} {ns : Option String} {name : String}
    {object : Document} (scope : cluster.checkScope type ns = .ok ())
    (clear : (type, ns) ∉ cluster.failingGets)
    (found : cluster.object? ⟨type, ns, name⟩ = some object) :
    cluster.get type ns name = .ok object := by
  obtain ⟨⟨resource, known, _⟩, _⟩ := checkScope_eq_ok.mp scope
  simp [get, known, checkFailure, clear, found, bind, Except.bind, pure, Except.pure]

theorem get_cases {cluster : MemoryCluster} {type : ResourceType} {ns : Option String} {name : String}
    {object : Document} (got : cluster.get type ns name = .ok object) :
    cluster.object? ⟨type, ns, name⟩ = some object := by
  simp only [get, bind, Except.bind] at got
  cases known : cluster.resource? type with
  | error error => simp [known] at got
  | ok resource =>
    cases clear : checkFailure cluster.failingGets "get" type ns with
    | error error => simp [known, clear] at got
    | ok =>
      cases found : cluster.object? ⟨type, ns, name⟩ with
      | none => simp [known, clear, found, throw, throwThe, MonadExceptOf.throw] at got
      | some stored =>
        simp only [known, clear, found] at got
        exact congrArg some (Except.ok.inj got)

theorem update_eq {cluster : MemoryCluster} {type : ResourceType} {ns : Option String}
    {object current : Document} {name : String} {uid : Json}
    (scope : cluster.checkScope type ns = .ok ()) (clear : (type, ns) ∉ cluster.failingUpdates)
    (named : object.name? = some name)
    (found : cluster.object? ⟨type, ns, name⟩ = some current)
    (identified : Assoc.get? "uid" current.metadata = some uid)
    (same : object.resourceVersion? = current.resourceVersion?) :
    cluster.update type ns object =
      (.ok (served (cluster.version + 1) uid object),
        cluster.store ⟨type, ns, name⟩ (served (cluster.version + 1) uid object)) := by
  have passes : checkFailure cluster.failingUpdates "update" type ns = .ok () := by
    simp [checkFailure, clear]
  simp [update, scope, passes, requiredName_eq_ok.mpr named, found, identified, same, served, store,
    Except.map]

theorem desired_eq (item : RestoreItem) {live : Document} {version : String}
    (versioned : live.resourceVersion? = some version) :
    item.desired live = item.object.stamp "resourceVersion" version := by
  simp [RestoreItem.desired, versioned]

open RestoreItem in
theorem applyItem_of_free {cluster : MemoryCluster} {item : RestoreItem}
    (named : item.object.name? = some item.entry.name)
    (scope : cluster.checkScope item.entry.type item.entry.ns = .ok ())
    (free : cluster.object? item.key = none) :
    client.applier.applyItem item cluster = (.ok .created, cluster.upsert item) := by
  have absent : cluster.object? ⟨item.entry.type, item.entry.ns, item.entry.name⟩ = none := free
  simp [Applier.applyItem, client, Client.applier, perform, answer, create_eq scope named, absent,
    upsert, uid?, key]

/-- Under a taken key the answer to the creation leads to a replacement. -/
theorem applyItem_of_taken {cluster : MemoryCluster} {item : RestoreItem}
    (named : item.object.name? = some item.entry.name)
    (scope : cluster.checkScope item.entry.type item.entry.ns = .ok ())
    (taken : (cluster.object? item.key).isSome) :
    client.applier.applyItem item cluster = client.applier.replace item cluster := by
  have present : (cluster.object? ⟨item.entry.type, item.entry.ns, item.entry.name⟩).isSome := taken
  simp [Applier.applyItem, client, Client.applier, perform, answer, create_eq scope named, present]

/-- A replacement stamps the stored version and keeps the stored identifier. The version that the
item may carry itself does not matter. -/
theorem replace_eq {cluster : MemoryCluster} (sound : Sound cluster) {item : RestoreItem}
    {live : Document} (named : item.object.name? = some item.entry.name)
    (gets : (item.entry.type, item.entry.ns) ∉ cluster.failingGets)
    (updates : (item.entry.type, item.entry.ns) ∉ cluster.failingUpdates)
    (scope : cluster.checkScope item.entry.type item.entry.ns = .ok ())
    (found : cluster.object? item.key = some live) :
    client.applier.replace item cluster = (.ok .updated, cluster.upsert item) := by
  have taken : cluster.object? ⟨item.entry.type, item.entry.ns, item.entry.name⟩ = some live := found
  obtain ⟨version, versioned⟩ := (sound.stored _ _ found).versioned
  obtain ⟨uid, identified⟩ := (sound.stored _ _ found).identified
  have namedAgain : (item.object.stamp "resourceVersion" version).name? = some item.entry.name := by
    rw [Document.name?_stamp _ _ _ (by decide), named]
  have same : (item.object.stamp "resourceVersion" version).resourceVersion? =
      live.resourceVersion? := by
    simp [Document.resourceVersion?, Document.metadataText?_stamp, ← versioned]
  have updated := update_eq scope updates namedAgain taken identified same
  have stored : cluster.upsert item =
      cluster.store item.key (served (cluster.version + 1) uid item.object) := by
    simp [upsert, uid?, found, identified]
  simp [Applier.replace, client, Client.applier, perform, answer, get_eq scope gets taken,
    desired_eq item versioned, updated, served_stamp_resourceVersion, stored, RestoreItem.key]

theorem replace_of_hindered {cluster : MemoryCluster} {item : RestoreItem}
    (hindered : (item.entry.type, item.entry.ns) ∈ cluster.failingGets ∨
      (item.entry.type, item.entry.ns) ∈ cluster.failingUpdates)
    (scope : cluster.checkScope item.entry.type item.entry.ns = .ok ())
    (taken : (cluster.object? item.key).isSome) :
    ∃ error, client.applier.replace item cluster = (.error error, cluster) := by
  obtain ⟨live, found⟩ := Option.isSome_iff_exists.mp taken
  by_cases gets : (item.entry.type, item.entry.ns) ∈ cluster.failingGets
  · obtain ⟨⟨resource, known, _⟩, _⟩ := checkScope_eq_ok.mp scope
    obtain ⟨error, failed⟩ : ∃ error,
        cluster.get item.entry.type item.entry.ns item.entry.name = .error error := by
      simp [MemoryCluster.get, known, checkFailure, gets, bind, Except.bind]
    refine ⟨Applier.failure .fetch item.entry error, ?_⟩
    simp [Applier.replace, client, Client.applier, perform, failed]
  · have updates := hindered.resolve_left gets
    have fetched : cluster.get item.entry.type item.entry.ns item.entry.name = .ok live :=
      get_eq scope gets found
    obtain ⟨error, fails⟩ : ∃ error,
        checkFailure cluster.failingUpdates "update" item.entry.type item.entry.ns = .error error := by
      simp [checkFailure, updates]
    have failed : cluster.update item.entry.type item.entry.ns (item.desired live) =
        (.error error, cluster) := by
      simp [MemoryCluster.update, scope, fails]
    refine ⟨Applier.failure .update item.entry error, ?_⟩
    simp [Applier.replace, client, Client.applier, perform, answer, fetched, failed]

/-- An admitted item is created or updated; both leave its object under its key. -/
theorem applyItem_of_admitted {cluster : MemoryCluster} (sound : Sound cluster)
    {item : RestoreItem} (named : item.object.name? = some item.entry.name)
    (gets : (item.entry.type, item.entry.ns) ∉ cluster.failingGets)
    (updates : (item.entry.type, item.entry.ns) ∉ cluster.failingUpdates)
    (scope : cluster.checkScope item.entry.type item.entry.ns = .ok ()) :
    client.applier.applyItem item cluster =
      (.ok (if (cluster.object? item.key).isSome then .updated else .created),
        cluster.upsert item) := by
  cases found : cluster.object? item.key with
  | none => exact applyItem_of_free named scope found
  | some live =>
    rw [applyItem_of_taken named scope (by simp [found])]
    exact replace_eq sound named gets updates scope found

/-- A refused item changes nothing, and the refusal of its creation is what is told. -/
theorem applyItem_of_refused {cluster : MemoryCluster} {item : RestoreItem} {error : ClusterError}
    (refused : cluster.checkScope item.entry.type item.entry.ns = .error error) :
    client.applier.applyItem item cluster =
      (.error (.apply .create (item.entry.ns.getD "") item.entry.name error), cluster) := by
  have created :
      cluster.create item.entry.type item.entry.ns item.object = (.error error, cluster) := by
    simp [create, refused]
  rcases checkScope_error refused with ⟨code, text, rfl⟩ | ⟨name, rfl⟩ <;>
    simp [Applier.applyItem, client, Client.applier, perform, answer, created, Applier.failure]

/-- An item is applied only if it is admitted, and never otherwise than by what it leaves. -/
theorem applyItem_ok {cluster after : MemoryCluster} (sound : Sound cluster) {item : RestoreItem}
    (named : item.object.name? = some item.entry.name) {outcome : ApplyOutcome}
    (applied : client.applier.applyItem item cluster = (.ok outcome, after)) :
    cluster.checkScope item.entry.type item.entry.ns = .ok () ∧ after = cluster.upsert item := by
  cases scope : cluster.checkScope item.entry.type item.entry.ns with
  | error error => simp [applyItem_of_refused scope] at applied
  | ok =>
    refine ⟨rfl, ?_⟩
    cases found : cluster.object? item.key with
    | none =>
      rw [applyItem_of_free named scope found] at applied
      exact (Prod.mk.inj applied).2.symm
    | some live =>
      have taken : (cluster.object? item.key).isSome := by simp [found]
      rw [applyItem_of_taken named scope taken] at applied
      by_cases hindered : (item.entry.type, item.entry.ns) ∈ cluster.failingGets ∨
          (item.entry.type, item.entry.ns) ∈ cluster.failingUpdates
      · obtain ⟨error, failed⟩ := replace_of_hindered hindered scope taken
        simp [failed] at applied
      · obtain ⟨gets, updates⟩ := not_or.mp hindered
        rw [replace_eq sound named gets updates scope found] at applied
        exact (Prod.mk.inj applied).2.symm

end MemoryCluster

end ClusterArchive
