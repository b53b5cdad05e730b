import ClusterArchive.Proofs.Cluster.Reachable
import Mathlib.Data.List.Nodup

/-! The writes of a cluster. Clients take turns, one call at a time, and every call is an action of
someone. The writes are the seeds, creations and updates that succeed; each is given the next version,
so they are numbered without gaps, and an object carries the number of the last write under its key
and, as its identifier, that of an earlier one. -/

namespace ClusterArchive

/-- A call on a cluster. A request may have been cancelled before. -/
inductive Action
  | arrange (arrangement : Arrangement)
  | request {α : Type} (cancelled : Bool) (asked : Request α)

def Action.target? : Action → Option ObjectKey
  | .arrange arrangement => arrangement.target?
  | .request _ asked => asked.target?

namespace MemoryCluster

def act (cluster : MemoryCluster) : Action → MemoryCluster
  | .arrange arrangement => (cluster.undergo arrangement).2
  | .request cancelled asked => (cluster.perform cancelled asked).2

def succeeds (cluster : MemoryCluster) : Action → Bool
  | .arrange arrangement => (cluster.undergo arrangement).1.isOk
  | .request cancelled asked => (cluster.perform cancelled asked).1.isOk

/-- The write of a call that succeeds: its key, and the version that was given to it. -/
def write? (cluster : MemoryCluster) (action : Action) : Option (ObjectKey × Nat) :=
  if cluster.succeeds action then action.target?.map fun key => (key, (cluster.act action).version)
  else none

def run (cluster : MemoryCluster) (actions : List Action) : MemoryCluster := actions.foldl act cluster

def writes (cluster : MemoryCluster) : List Action → List (ObjectKey × Nat)
  | [] => []
  | action :: rest => (cluster.write? action).toList ++ (cluster.act action).writes rest

def lastVersion? (key : ObjectKey) (writes : List (ObjectKey × Nat)) : Option Nat :=
  (writes.filter (·.1 = key)).getLast?.map (·.2)

@[simp] theorem run_nil (cluster : MemoryCluster) : cluster.run [] = cluster := rfl

@[simp] theorem run_cons (cluster : MemoryCluster) (action : Action) (rest : List Action) :
    cluster.run (action :: rest) = (cluster.act action).run rest := rfl

/-- A call fails and changes nothing, or it succeeds and leaves the objects and their version as they
were, or it writes what comes next. -/
theorem act_outcome {cluster : MemoryCluster} (sound : Sound cluster) (action : Action) :
    cluster.succeeds action = false ∧ cluster.act action = cluster ∨
    cluster.succeeds action = true ∧ action.target? = none ∧
      (cluster.act action).objects = cluster.objects ∧
      (cluster.act action).version = cluster.version ∨
    cluster.succeeds action = true ∧ ∃ key object, action.target? = some key ∧
      IsNext cluster key object ∧ cluster.act action = cluster.store key object := by
  cases action with
  | arrange arrangement =>
    simp only [succeeds, act, Action.target?]
    rcases cluster.undergo_outcome arrangement with
      ⟨error, failed⟩ | ⟨after, done, quiet, rearranged⟩ | ⟨key, object, done, target, next⟩
    · rw [failed]
      exact .inl ⟨rfl, rfl⟩
    · rw [done]
      exact .inr (.inl ⟨rfl, quiet, rearranged.objects, rearranged.version⟩)
    · rw [done]
      exact .inr (.inr ⟨rfl, key, object, target, next, rfl⟩)
  | request cancelled asked =>
    simp only [succeeds, act, Action.target?]
    rcases cluster.perform_answered cancelled asked with ⟨error, failed⟩ | ⟨reply, after, answered, done⟩
    · rw [failed]
      exact .inl ⟨rfl, rfl⟩
    · rw [done]
      rcases answer_cases sound answered with ⟨quiet, rfl⟩ | ⟨key, object, target, next, is⟩
      · exact .inr (.inl ⟨rfl, quiet, rfl, rfl⟩)
      · exact .inr (.inr ⟨rfl, key, object, target, next, is⟩)

/-- A call leaves the objects and their version as they were, or writes what comes next. -/
theorem act_cases {cluster : MemoryCluster} (sound : Sound cluster) (action : Action) :
    cluster.write? action = none ∧ (cluster.act action).objects = cluster.objects ∧
      (cluster.act action).version = cluster.version ∨
    ∃ key object, cluster.write? action = some (key, cluster.version + 1) ∧
      IsNext cluster key object ∧ cluster.act action = cluster.store key object := by
  rcases act_outcome sound action with
    ⟨failed, same⟩ | ⟨_, quiet, objects, version⟩ | ⟨success, key, object, target, next, is⟩
  · exact .inl ⟨by simp [write?, failed], by rw [same], by rw [same]⟩
  · exact .inl ⟨by simp [write?, quiet], objects, version⟩
  · exact .inr ⟨key, object, by simp [write?, success, target, is, store], next, is⟩

theorem act_sound {cluster : MemoryCluster} (sound : Sound cluster) (action : Action) :
    Sound (cluster.act action) := by
  rcases act_cases sound action with ⟨_, same, _⟩ | ⟨key, object, _, next, is⟩
  · refine ⟨same ▸ sound.ascending, fun key object found => sound.stored key object ?_⟩
    simpa only [object?, same] using found
  · rw [is]
    exact sound.store next.isStored

theorem succeeds_request {cluster : MemoryCluster} {α : Type} {cancelled : Bool} {asked : Request α} :
    cluster.succeeds (.request cancelled asked) = true ↔
      ∃ reply after, cluster.answer asked = (.ok reply, after) ∧
        cluster.perform cancelled asked = (.ok reply, after) := by
  rw [succeeds]
  rcases cluster.perform_answered cancelled asked with ⟨error, failed⟩ | ⟨reply, after, answered, done⟩
  · simp [failed, Except.isOk, Except.toBool]
  · simp [done, answered, Except.isOk, Except.toBool]

theorem write?_request {cluster : MemoryCluster} {α : Type} {cancelled : Bool} {asked : Request α}
    {key : ObjectKey} {version : Nat}
    (written : cluster.write? (.request cancelled asked) = some (key, version)) :
    ∃ reply after, cluster.answer asked = (.ok reply, after) ∧
      cluster.perform cancelled asked = (.ok reply, after) ∧ asked.target? = some key := by
  unfold write? at written
  split at written
  next success =>
    obtain ⟨reply, after, answered, done⟩ := succeeds_request.mp success
    obtain ⟨_, target, same⟩ := Option.map_eq_some_iff.mp written
    exact ⟨reply, after, answered, done, (Prod.mk.inj same).1 ▸ target⟩
  next => cases written

/-! Texts of numbers. -/

theorem versionText_inj {first second : Nat} : versionText first = versionText second ↔ first = second := by
  refine ⟨fun same => ?_, congrArg versionText⟩
  have digits := congrArg (fun text => Nat.ofDigitChars 10 text.toList 0) (Json.string.inj same)
  simpa [Nat.toString_eq_ofList_toDigits] using digits

theorem uidText_inj {first second : Nat} : uidText first = uidText second ↔ first = second := by
  refine ⟨fun same => ?_, congrArg uidText⟩
  have texts := congrArg String.toList (Json.string.inj same)
  rw [String.toList_append, String.toList_append, List.append_cancel_left_eq] at texts
  exact versionText_inj.mp (congrArg Json.string (String.toList_inj.mp texts))

/-! The last write under a key. -/

theorem lastVersion?_append (key : ObjectKey) (first second : List (ObjectKey × Nat)) :
    lastVersion? key (first ++ second) = (lastVersion? key second).or (lastVersion? key first) := by
  simp only [lastVersion?, List.filter_append, List.getLast?_append]
  cases (second.filter (·.1 = key)).getLast? <;> rfl

@[simp] theorem lastVersion?_singleton (key : ObjectKey) (write : ObjectKey × Nat) :
    lastVersion? key [write] = if write.1 = key then some write.2 else none := by
  by_cases same : write.1 = key <;> simp [lastVersion?, same]

theorem mem_of_lastVersion? {key : ObjectKey} {writes : List (ObjectKey × Nat)} {version : Nat}
    (last : lastVersion? key writes = some version) : (key, version) ∈ writes := by
  obtain ⟨⟨other, _⟩, found, rfl⟩ := Option.map_eq_some_iff.mp last
  obtain ⟨member, same⟩ := List.mem_filter.mp (List.mem_of_getLast? found)
  obtain rfl : other = key := by simpa using same
  exact member

theorem lastVersion?_eq_none {key : ObjectKey} {writes : List (ObjectKey × Nat)} :
    lastVersion? key writes = none ↔ key ∉ writes.map Prod.fst := by
  simp only [lastVersion?, Option.map_eq_none_iff, List.getLast?_eq_none_iff, List.filter_eq_nil_iff,
    decide_eq_true_eq, List.mem_map, not_exists, not_and]

/-! The numbers of the writes. -/

/-- A cluster after its writes. They are numbered from one on. An object carries the number of the
last write under its key, and that of a write under its key as its identifier. -/
structure Numbered (cluster : MemoryCluster) (writes : List (ObjectKey × Nat)) : Prop where
  sound : Sound cluster
  versions : writes.map Prod.snd = List.range' 1 cluster.version
  versioned : ∀ key, (cluster.object? key).map Document.resourceVersion? =
    (lastVersion? key writes).map fun version => some (toString version)
  identified : ∀ key object, cluster.object? key = some object →
    ∃ first, Assoc.get? "uid" object.metadata = some (uidText first) ∧ (key, first) ∈ writes

theorem numbered_empty : Numbered .empty [] where
  sound := sound_empty
  versions := rfl
  versioned _ := rfl
  identified _ _ found := by simp [object?, empty] at found

theorem numbered_standard : Numbered .standard [] where
  sound := ⟨List.Pairwise.nil, fun key object found => by simp [object?, standard, empty] at found⟩
  versions := rfl
  versioned _ := rfl
  identified _ _ found := by simp [object?, standard, empty] at found

theorem Numbered.store {cluster : MemoryCluster} {writes : List (ObjectKey × Nat)}
    (numbered : Numbered cluster writes) {key : ObjectKey} {object : Document}
    (next : IsNext cluster key object) :
    Numbered (cluster.store key object) (writes ++ [(key, cluster.version + 1)]) where
  sound := numbered.sound.store next.isStored
  versions := by
    rw [List.map_append, numbered.versions]
    simp [MemoryCluster.store, List.range'_1_concat, Nat.add_comm]
  versioned := by
    intro other
    rw [object?_store, lastVersion?_append, lastVersion?_singleton]
    split
    next same => simp [next.versioned]
    next => simpa using numbered.versioned other
  identified := by
    intro other found foundAt
    rw [object?_store] at foundAt
    split at foundAt
    next same =>
      subst same
      obtain rfl := Option.some.inj foundAt
      -- The identifier is new, or that of the object which the write replaces.
      obtain ⟨uid, identified, rfl | kept⟩ := next.identified
      · exact ⟨_, identified, by simp⟩
      · obtain ⟨old, present, is⟩ := Option.bind_eq_some_iff.mp kept
        obtain ⟨first, same, member⟩ := numbered.identified _ _ present
        rw [is] at same
        exact ⟨first, identified.trans same, List.mem_append_left _ member⟩
    next =>
      obtain ⟨first, same, member⟩ := numbered.identified other found foundAt
      exact ⟨first, same, List.mem_append_left _ member⟩

theorem Numbered.act {cluster : MemoryCluster} {writes : List (ObjectKey × Nat)}
    (numbered : Numbered cluster writes) (action : Action) :
    Numbered (cluster.act action) (writes ++ (cluster.write? action).toList) := by
  rcases act_cases numbered.sound action with ⟨quiet, same, version⟩ | ⟨key, object, is, next, after⟩
  · rw [quiet, Option.toList_none, List.append_nil]
    refine ⟨act_sound numbered.sound action, ?_, ?_, ?_⟩
    · rw [version, numbered.versions]
    · intro key
      simpa only [object?, same] using numbered.versioned key
    · intro key object found
      exact numbered.identified key object (by simpa only [object?, same] using found)
  · rw [is, after]
    exact numbered.store next

theorem Numbered.run {cluster : MemoryCluster} {writes : List (ObjectKey × Nat)}
    (numbered : Numbered cluster writes) (actions : List Action) :
    Numbered (cluster.run actions) (writes ++ cluster.writes actions) := by
  induction actions generalizing cluster writes with
  | nil => simpa [MemoryCluster.writes] using numbered
  | cons action rest ih =>
    have later := ih (numbered.act action)
    rwa [List.append_assoc] at later

theorem Numbered.length {cluster : MemoryCluster} {writes : List (ObjectKey × Nat)}
    (numbered : Numbered cluster writes) : cluster.version = writes.length := by
  simpa using (congrArg List.length numbered.versions).symm

theorem Numbered.bounds {cluster : MemoryCluster} {writes : List (ObjectKey × Nat)}
    (numbered : Numbered cluster writes) {key : ObjectKey} {version : Nat}
    (member : (key, version) ∈ writes) : 1 ≤ version ∧ version ≤ cluster.version := by
  have isNumber : version ∈ writes.map Prod.snd := List.mem_map_of_mem member
  rw [numbered.versions, List.mem_range'_1] at isNumber
  omega

theorem Numbered.key_unique {cluster : MemoryCluster} {writes : List (ObjectKey × Nat)}
    (numbered : Numbered cluster writes) {key other : ObjectKey} {version : Nat}
    (first : (key, version) ∈ writes) (second : (other, version) ∈ writes) : key = other := by
  have once : (writes.map Prod.snd).Nodup := by
    rw [numbered.versions]
    exact List.nodup_range'
  exact congrArg Prod.fst (List.inj_on_of_nodup_map once first second rfl)

theorem Numbered.le_last {cluster : MemoryCluster} {writes : List (ObjectKey × Nat)}
    (numbered : Numbered cluster writes) {key : ObjectKey} {version last : Nat}
    (member : (key, version) ∈ writes) (isLast : lastVersion? key writes = some last) :
    version ≤ last := by
  have ascending : writes.Pairwise fun first second => first.2 < second.2 := by
    rw [← List.pairwise_map, numbered.versions]
    exact List.pairwise_lt_range'
  obtain ⟨⟨other, _⟩, found, rfl⟩ := Option.map_eq_some_iff.mp isLast
  obtain ⟨before, shape⟩ := List.getLast?_eq_some_iff.mp found
  have isIn : (key, version) ∈ writes.filter (·.1 = key) := List.mem_filter.mpr ⟨member, by simp⟩
  have among := ascending.filter (·.1 = key)
  rw [shape] at isIn among
  rcases List.mem_append.mp isIn with earlier | here
  · exact Nat.le_of_lt ((List.pairwise_append.mp among).2.2 _ earlier _ (List.mem_singleton_self _))
  · exact Nat.le_of_eq (congrArg Prod.snd (List.mem_singleton.mp here))

theorem Numbered.stored {cluster : MemoryCluster} {writes : List (ObjectKey × Nat)}
    (numbered : Numbered cluster writes) {key : ObjectKey} {object : Document}
    (found : cluster.object? key = some object) :
    ∃ version, lastVersion? key writes = some version ∧
      object.resourceVersion? = some (toString version) := by
  have same := numbered.versioned key
  rw [found, Option.map_some] at same
  obtain ⟨version, last, is⟩ := Option.map_eq_some_iff.mp same.symm
  exact ⟨version, last, is.symm⟩

end MemoryCluster

end ClusterArchive
