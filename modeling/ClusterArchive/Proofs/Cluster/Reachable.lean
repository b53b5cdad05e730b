import ClusterArchive.Proofs.Cluster.Document
import ClusterArchive.Proofs.Cluster.Order
import Mathlib.Logic.Relation

/-! Clusters as they come to be, one arrangement or request after the other. Seeds, creations and
updates that succeed store one object under the next version, and nothing else changes an object. So
stored objects stand in the order of their keys, each carries the name of its key, a version and an
identifier; and no key and no registration is ever lost. -/

namespace ClusterArchive

/-- The key that a request writes when it succeeds. -/
def Request.target? {α : Type} : Request α → Option ObjectKey
  | .create type ns object | .update type ns object => some ⟨type, ns, object.name?.getD ""⟩
  | _ => none

def Arrangement.target? : Arrangement → Option ObjectKey
  | .seed type ns value => some ⟨type, ns, (value.object?.bind Document.name?).getD ""⟩
  | _ => none

/-- A failure put into the calls that a restore makes besides creations. -/
def Arrangement.IsApplyFault : Arrangement → Prop
  | .failGet .. | .failUpdate .. => True
  | _ => False

namespace MemoryCluster

/-- One thing that happens to a cluster. Requests may be cancelled, and all may fail. -/
inductive Step (allowed : Arrangement → Prop) : MemoryCluster → MemoryCluster → Prop
  | arrange {cluster} (arrangement : Arrangement) :
      allowed arrangement → Step allowed cluster (cluster.undergo arrangement).2
  | request {cluster} {α : Type} (cancelled : Bool) (request : Request α) :
      Step allowed cluster (cluster.perform cancelled request).2

abbrev History (allowed : Arrangement → Prop) : MemoryCluster → MemoryCluster → Prop :=
  Relation.ReflTransGen (Step allowed)

def Reachable (cluster : MemoryCluster) : Prop := History (fun _ => True) .empty cluster

/-- An object as it is stored: under its name, with a version and an identifier. -/
structure IsStored (key : ObjectKey) (object : Document) : Prop where
  named : object.name? = some key.name
  versioned : ∃ version, object.resourceVersion? = some version
  identified : ∃ uid, Assoc.get? "uid" object.metadata = some uid

structure Sound (cluster : MemoryCluster) : Prop where
  ascending : Assoc.Ascending cluster.objects
  stored : ∀ key object, cluster.object? key = some object → IsStored key object

/-- A later state of a cluster holds all keys of the earlier one and looks types up as that did. -/
structure Extends (before after : MemoryCluster) : Prop where
  keys : ∀ key, (before.object? key).isSome → (after.object? key).isSome
  resources : ∀ type resource, before.resource? type = .ok resource →
    after.resource? type = .ok resource

theorem Extends.refl (cluster : MemoryCluster) : Extends cluster cluster :=
  ⟨fun _ present => present, fun _ _ known => known⟩

theorem Extends.trans {a b c : MemoryCluster} (first : Extends a b) (second : Extends b c) :
    Extends a c :=
  ⟨fun key present => second.keys key (first.keys key present),
    fun type resource known => second.resources type resource (first.resources type resource known)⟩

def store (cluster : MemoryCluster) (key : ObjectKey) (object : Document) : MemoryCluster :=
  { cluster with objects := Assoc.insert key object cluster.objects, version := cluster.version + 1 }

@[simp] theorem object?_store (cluster : MemoryCluster) (key other : ObjectKey)
    (object : Document) :
    (cluster.store key object).object? other =
      if key = other then some object else cluster.object? other :=
  Assoc.get?_insert ..

@[simp] theorem resource?_store (cluster : MemoryCluster) (key : ObjectKey) (object : Document)
    (type : ResourceType) : (cluster.store key object).resource? type = cluster.resource? type :=
  rfl

theorem Sound.store {cluster : MemoryCluster} (sound : Sound cluster) {key : ObjectKey}
    {object : Document} (isStored : IsStored key object) : Sound (cluster.store key object) where
  ascending := sound.ascending.insert key object
  stored := by
    intro other found foundAt
    rw [object?_store] at foundAt
    split at foundAt
    next same =>
      obtain rfl := Option.some.inj foundAt
      exact same ▸ isStored
    next => exact sound.stored other found foundAt

theorem Extends.store (cluster : MemoryCluster) (key : ObjectKey) (object : Document) :
    Extends cluster (cluster.store key object) where
  keys := by
    intro other present
    rw [object?_store]
    split
    next => rfl
    next => exact present
  resources := fun _ _ known => known

theorem isStored_served {key : ObjectKey} {object : Document} (named : object.name? = some key.name)
    (version : Nat) (uid : Json) : IsStored key (served version uid object) where
  named := by rw [name?_served, named]
  versioned := ⟨_, resourceVersion?_served ..⟩
  identified := ⟨_, uid_served ..⟩

theorem requiredName_eq_ok {object : Document} {name : String} :
    requiredName object = .ok name ↔ object.name? = some name := by
  unfold requiredName
  cases object.name? <;> simp

def uid? (cluster : MemoryCluster) (key : ObjectKey) : Option Json :=
  (cluster.object? key).bind fun object => Assoc.get? "uid" object.metadata

/-- What a cluster writes under a key next: an object of that name, under the next version. Its
identifier is new, or that of the object in whose place it is put. -/
structure IsNext (cluster : MemoryCluster) (key : ObjectKey) (object : Document) : Prop where
  named : object.name? = some key.name
  versioned : object.resourceVersion? = some (toString (cluster.version + 1))
  identified : ∃ uid, Assoc.get? "uid" object.metadata = some uid ∧
    (uid = uidText (cluster.version + 1) ∨ cluster.uid? key = some uid)

theorem IsNext.isStored {cluster : MemoryCluster} {key : ObjectKey} {object : Document}
    (next : IsNext cluster key object) : IsStored key object where
  named := next.named
  versioned := ⟨_, next.versioned⟩
  identified := next.identified.imp fun _ is => is.1

theorem isNext_served {cluster : MemoryCluster} {key : ObjectKey} {object : Document} {uid : Json}
    (named : object.name? = some key.name)
    (identity : uid = uidText (cluster.version + 1) ∨ cluster.uid? key = some uid) :
    IsNext cluster key (served (cluster.version + 1) uid object) where
  named := by rw [name?_served, named]
  versioned := resourceVersion?_served ..
  identified := ⟨uid, uid_served .., identity⟩

/-- A seed is refused and changes nothing, or stores an object as a server would have. -/
theorem seed_outcome (cluster : MemoryCluster) (type : ResourceType) (ns : Option String)
    (value : Json) :
    (∃ error, cluster.seed type ns value = (.error error, cluster)) ∨
    ∃ (object : Document) (name : String) (stored : Document),
      value = .object object ∧ object.name? = some name ∧ IsNext cluster ⟨type, ns, name⟩ stored ∧
      cluster.seed type ns value = (.ok (), cluster.store ⟨type, ns, name⟩ stored) := by
  cases value with
  | object object =>
    cases required : requiredName object with
    | error error => exact .inl ⟨error, by simp [seed, required]⟩
    | ok name =>
      have named := requiredName_eq_ok.mp required
      refine .inr ⟨object, name, _, rfl, named, ⟨?_, ?_, uidText (cluster.version + 1), ?_, .inl rfl⟩,
        by simp only [seed, call_bind, call_check, call_nextVersion, call_put, required]; rfl⟩
      · rw [Document.name?_insert (by decide), name?_stampAll (by cases ns <;> simp), named]
      · cases ns <;> simp [Document.resourceVersion?, Document.metadataText?,
          Document.metadata_insert, metadata_stampAll, versionText, Json.string?]
      · cases ns <;> simp [Document.metadata_insert, metadata_stampAll]
  | null | bool | number | string | array => exact .inl ⟨_, rfl⟩

/-- A creation is refused and changes nothing, or stores an object under a key that was free. -/
theorem create_outcome (cluster : MemoryCluster) (type : ResourceType) (ns : Option String)
    (object : Document) :
    (∃ error, cluster.create type ns object = (.error error, cluster)) ∨
    ∃ name stored, object.name? = some name ∧ cluster.checkScope type ns = .ok () ∧
      cluster.object? ⟨type, ns, name⟩ = none ∧
      stored = served (cluster.version + 1) (uidText (cluster.version + 1)) object ∧
      cluster.create type ns object = (.ok stored, cluster.store ⟨type, ns, name⟩ stored) := by
  cases scope : cluster.checkScope type ns with
  | error error => exact .inl ⟨error, by simp [create, scope]⟩
  | ok =>
    cases required : requiredName object with
    | error error => exact .inl ⟨error, by simp [create, scope, required]⟩
    | ok name =>
      cases found : cluster.object? ⟨type, ns, name⟩ with
      | some taken => exact .inl ⟨_, by simp [create, scope, required, found]; rfl⟩
      | none =>
        refine .inr ⟨name, _, requiredName_eq_ok.mp required, rfl, found, rfl, ?_⟩
        simp [create, scope, required, found, served, store, Except.map]

/-- An update is refused and changes nothing, or stores an object under a key that was taken by one of
the same version, with the identifier from there. -/
theorem update_outcome (cluster : MemoryCluster) (type : ResourceType) (ns : Option String)
    (object : Document) :
    (∃ error, cluster.update type ns object = (.error error, cluster)) ∨
    ∃ name current stored, object.name? = some name ∧ cluster.checkScope type ns = .ok () ∧
      cluster.object? ⟨type, ns, name⟩ = some current ∧
      object.resourceVersion? = current.resourceVersion? ∧
      (∀ uid, Assoc.get? "uid" current.metadata = some uid →
        stored = served (cluster.version + 1) uid object) ∧
      cluster.update type ns object = (.ok stored, cluster.store ⟨type, ns, name⟩ stored) := by
  cases scope : cluster.checkScope type ns with
  | error error => exact .inl ⟨error, by simp [update, scope]⟩
  | ok =>
    cases failing : checkFailure cluster.failingUpdates "update" type ns with
    | error error => exact .inl ⟨error, by simp [update, scope, failing]⟩
    | ok =>
      cases required : requiredName object with
      | error error => exact .inl ⟨error, by simp [update, scope, failing, required]⟩
      | ok name =>
        cases found : cluster.object? ⟨type, ns, name⟩ with
        | none => exact .inl ⟨_, by simp [update, scope, failing, required, found]; rfl⟩
        | some current =>
          by_cases same : object.resourceVersion? = current.resourceVersion?
          · let uid := (Assoc.get? "uid" current.metadata).map fun uid => ("uid", uid)
            refine .inr ⟨name, current,
              stampAll (("resourceVersion", versionText (cluster.version + 1)) :: uid.toList) object,
              requiredName_eq_ok.mp required, rfl, found, same, ?_, ?_⟩
            · intro id identified
              simp [uid, identified, served]
            · simp [update, scope, failing, required, found, same, store, Except.map, uid]
          · exact .inl ⟨_, by simp [update, scope, failing, required, found, same]; rfl⟩

theorem create_cases {cluster after : MemoryCluster} {type : ResourceType} {ns : Option String}
    {object stored : Document} (created : cluster.create type ns object = (.ok stored, after)) :
    ∃ name, object.name? = some name ∧ cluster.checkScope type ns = .ok () ∧
      cluster.object? ⟨type, ns, name⟩ = none ∧
      stored = served (cluster.version + 1) (uidText (cluster.version + 1)) object ∧
      after = cluster.store ⟨type, ns, name⟩ stored := by
  rcases create_outcome cluster type ns object with
    ⟨error, refused⟩ | ⟨name, object, named, scope, free, is, done⟩
  · cases created.symm.trans refused
  · cases created.symm.trans done
    exact ⟨name, named, scope, free, is, rfl⟩

theorem update_cases {cluster after : MemoryCluster} {type : ResourceType} {ns : Option String}
    {object stored : Document} (updated : cluster.update type ns object = (.ok stored, after)) :
    ∃ name current, object.name? = some name ∧ cluster.checkScope type ns = .ok () ∧
      cluster.object? ⟨type, ns, name⟩ = some current ∧
      object.resourceVersion? = current.resourceVersion? ∧
      (∀ uid, Assoc.get? "uid" current.metadata = some uid →
        stored = served (cluster.version + 1) uid object) ∧
      after = cluster.store ⟨type, ns, name⟩ stored := by
  rcases update_outcome cluster type ns object with
    ⟨error, refused⟩ | ⟨name, current, object, named, scope, found, same, identity, done⟩
  · cases updated.symm.trans refused
  · cases updated.symm.trans done
    exact ⟨name, current, named, scope, found, same, identity, rfl⟩

@[simp] theorem answer_discover (cluster : MemoryCluster) :
    cluster.answer .discover = (cluster.discover, cluster) := by
  simp [answer]

@[simp] theorem answer_list (cluster : MemoryCluster) (resource : Resource) (ns : Option String) :
    cluster.answer (.list resource ns) = (cluster.list resource.type ns, cluster) := by
  simp [answer]

@[simp] theorem answer_get (cluster : MemoryCluster) (type : ResourceType) (ns : Option String)
    (name : String) : cluster.answer (.get type ns name) = (cluster.get type ns name, cluster) := by
  simp [answer]

theorem answer_refused (cluster : MemoryCluster) {α : Type} {request : Request α}
    {error : ClusterError} (refused : (cluster.answer request).1 = .error error) :
    (cluster.answer request).2 = cluster := by
  cases request with
  | discover | list | get => simp
  | create type ns object =>
    rcases create_outcome cluster type ns object with ⟨_, same⟩ | ⟨_, _, _, _, _, _, done⟩
    · simp [answer, same]
    · simp [answer, done] at refused
  | update type ns object =>
    rcases update_outcome cluster type ns object with ⟨_, same⟩ | ⟨_, _, _, _, _, _, _, _, done⟩
    · simp [answer, same]
    · simp [answer, done] at refused

/-- A request that is answered leaves a cluster as it was, or writes under its key. -/
theorem answer_cases {cluster after : MemoryCluster} (sound : Sound cluster) {α : Type}
    {request : Request α} {reply : α} (answered : cluster.answer request = (.ok reply, after)) :
    request.target? = none ∧ after = cluster ∨
    ∃ key object, request.target? = some key ∧ IsNext cluster key object ∧
      after = cluster.store key object := by
  cases request with
  | discover =>
    rw [answer_discover] at answered
    exact .inl ⟨rfl, (Prod.mk.inj answered).2.symm⟩
  | list resource ns =>
    rw [answer_list] at answered
    exact .inl ⟨rfl, (Prod.mk.inj answered).2.symm⟩
  | get type ns name =>
    rw [answer_get] at answered
    exact .inl ⟨rfl, (Prod.mk.inj answered).2.symm⟩
  | create type ns object =>
    obtain ⟨name, named, _, _, rfl, rfl⟩ := create_cases answered
    exact .inr ⟨_, _, by simp [Request.target?, named], isNext_served named (.inl rfl), rfl⟩
  | update type ns object =>
    obtain ⟨name, current, named, _, found, _, identity, rfl⟩ := update_cases answered
    obtain ⟨uid, identified⟩ := (sound.stored _ _ found).identified
    obtain rfl := identity uid identified
    refine .inr ⟨_, _, by simp [Request.target?, named], isNext_served named (.inr ?_), rfl⟩
    simpa [uid?, found] using identified

/-- A request that fails changes nothing, and one that succeeds was answered. -/
theorem perform_answered (cluster : MemoryCluster) {α : Type} (cancelled : Bool)
    (request : Request α) :
    (∃ error, cluster.perform cancelled request = (.error error, cluster)) ∨
    ∃ reply after, cluster.answer request = (.ok reply, after) ∧
      cluster.perform cancelled request = (.ok reply, after) := by
  cases cancelled with
  | true => exact .inl ⟨.cancelled, rfl⟩
  | false =>
    simp only [perform, Bool.false_eq_true, if_false]
    rcases answered : cluster.answer request with ⟨error | reply, after⟩
    · obtain rfl : after = cluster := by
        have same := cluster.answer_refused (congrArg Prod.fst answered)
        rwa [answered] at same
      exact .inl ⟨error, rfl⟩
    · exact .inr ⟨reply, after, rfl, rfl⟩

/-- A request leaves a cluster as it was, or stores one object. -/
theorem perform_cases {cluster : MemoryCluster} (sound : Sound cluster) {α : Type}
    (cancelled : Bool) (request : Request α) :
    (cluster.perform cancelled request).2 = cluster ∨
    ∃ key object, IsNext cluster key object ∧
      (cluster.perform cancelled request).2 = cluster.store key object := by
  rcases cluster.perform_answered cancelled request with ⟨error, failed⟩ | ⟨reply, after, answered, done⟩
  · exact .inl (by rw [failed])
  · rw [done]
    rcases answer_cases sound answered with ⟨_, same⟩ | ⟨key, object, _, next, stored⟩
    · exact .inl same
    · exact .inr ⟨key, object, next, stored⟩

theorem resource?_register {cluster : MemoryCluster} {type : ResourceType} {known : Resource}
    (registered : cluster.resource? type = .ok known) (resource : Resource) :
    (cluster.register resource).resource? type = .ok known := by
  unfold resource? at registered ⊢
  cases found : cluster.resources.find? (·.type = type) with
  | none => simp [found] at registered
  | some first => simpa [register, List.find?_append, found] using registered

/-- Nothing differs but what is served and what fails; types are looked up as before. -/
structure Rearranged (before after : MemoryCluster) : Prop where
  objects : after.objects = before.objects
  version : after.version = before.version
  resources : ∀ type resource, before.resource? type = .ok resource →
    after.resource? type = .ok resource

theorem Rearranged.sound {before after : MemoryCluster} (rearranged : Rearranged before after)
    (sound : Sound before) : Sound after ∧ Extends before after := by
  refine ⟨⟨rearranged.objects ▸ sound.ascending, ?_⟩, ⟨?_, rearranged.resources⟩⟩
  · intro key object found
    exact sound.stored key object (by simpa only [object?, rearranged.objects] using found)
  · intro key present
    simpa only [object?, rearranged.objects] using present

/-- What is arranged fails and changes nothing, or leaves the objects and their version as they were,
or writes under its key. -/
theorem undergo_outcome (cluster : MemoryCluster) (arrangement : Arrangement) :
    (∃ error, cluster.undergo arrangement = (.error error, cluster)) ∨
    (∃ after, cluster.undergo arrangement = (.ok (), after) ∧ arrangement.target? = none ∧
      Rearranged cluster after) ∨
    ∃ key object, cluster.undergo arrangement = (.ok (), cluster.store key object) ∧
      arrangement.target? = some key ∧ IsNext cluster key object := by
  cases arrangement with
  | register resource =>
    exact .inr (.inl ⟨_, rfl, rfl, rfl, rfl, fun _ _ registered =>
      resource?_register registered resource⟩)
  | seed type ns value =>
    rcases seed_outcome cluster type ns value with
      ⟨error, refused⟩ | ⟨object, name, stored, rfl, named, next, done⟩
    · exact .inl ⟨error, refused⟩
    · exact .inr (.inr ⟨_, stored, done, by simp [Arrangement.target?, Json.object?, named], next⟩)
  | failDiscovery | failGroupVersion | failList | failGet | failUpdate =>
    exact .inr (.inl ⟨_, rfl, rfl, rfl, rfl, fun _ _ registered => registered⟩)

/-- No step breaks the order or the form of the objects, and none loses a key or a registration. -/
theorem Step.sound {allowed : Arrangement → Prop} {cluster after : MemoryCluster}
    (step : Step allowed cluster after) (sound : Sound cluster) :
    Sound after ∧ Extends cluster after := by
  cases step with
  | arrange arrangement =>
    rcases cluster.undergo_outcome arrangement with
      ⟨_, same⟩ | ⟨after, done, _, rearranged⟩ | ⟨key, object, done, _, next⟩
    · rw [same]
      exact ⟨sound, .refl cluster⟩
    · rw [done]
      exact rearranged.sound sound
    · rw [done]
      exact ⟨sound.store next.isStored, .store ..⟩
  | request cancelled request =>
    rcases perform_cases sound cancelled request with same | ⟨key, object, next, stored⟩
    · rw [same]
      exact ⟨sound, .refl cluster⟩
    · rw [stored]
      exact ⟨sound.store next.isStored, .store ..⟩

theorem History.sound {allowed : Arrangement → Prop} {cluster after : MemoryCluster}
    (history : History allowed cluster after) (sound : Sound cluster) :
    Sound after ∧ Extends cluster after := by
  induction history with
  | refl => exact ⟨sound, .refl cluster⟩
  | tail _ step ih =>
    obtain ⟨soundNow, further⟩ := step.sound ih.1
    exact ⟨soundNow, ih.2.trans further⟩

theorem sound_empty : Sound .empty :=
  ⟨List.Pairwise.nil, fun key object found => by simp [object?, empty] at found⟩

theorem Reachable.sound {cluster : MemoryCluster} (reachable : Reachable cluster) : Sound cluster :=
  (History.sound reachable sound_empty).1

/-- Requests and stored objects leave the failures that were put in as they are. -/
theorem store_faults (cluster : MemoryCluster) (key : ObjectKey) (object : Document) :
    (cluster.store key object).failingGets = cluster.failingGets ∧
    (cluster.store key object).failingUpdates = cluster.failingUpdates := ⟨rfl, rfl⟩

theorem Step.faults {cluster after : MemoryCluster}
    (step : Step (fun arrangement => ¬arrangement.IsApplyFault) cluster after)
    (sound : Sound cluster) :
    after.failingGets = cluster.failingGets ∧ after.failingUpdates = cluster.failingUpdates := by
  cases step with
  | arrange arrangement allowed =>
    cases arrangement with
    | seed type ns value =>
      rcases seed_outcome cluster type ns value with ⟨_, same⟩ | ⟨_, _, _, _, _, _, done⟩
      · rw [undergo, same]
        exact ⟨rfl, rfl⟩
      · rw [undergo, done]
        exact store_faults ..
    | failGet | failUpdate => exact absurd trivial allowed
    | register | failDiscovery | failGroupVersion | failList => exact ⟨rfl, rfl⟩
  | request cancelled request =>
    rcases perform_cases sound cancelled request with same | ⟨key, object, _, stored⟩
    · rw [same]
      exact ⟨rfl, rfl⟩
    · rw [stored]
      exact store_faults ..

theorem History.faults {cluster after : MemoryCluster}
    (history : History (fun arrangement => ¬arrangement.IsApplyFault) cluster after)
    (sound : Sound cluster) :
    after.failingGets = cluster.failingGets ∧ after.failingUpdates = cluster.failingUpdates := by
  induction history with
  | refl => exact ⟨rfl, rfl⟩
  | tail earlier step ih =>
    obtain ⟨gets, updates⟩ := step.faults (History.sound earlier sound).1
    exact ⟨gets.trans ih.1, updates.trans ih.2⟩

end MemoryCluster

end ClusterArchive
