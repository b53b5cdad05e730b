import ClusterArchive.Proofs.Cluster.Consistent
import ClusterArchive.Proofs.Restore.Upsert

/-! Clients that share a cluster do not lose each other's writes. Whose call it is does not matter to
the cluster, so the calls of all clients are one list of actions, in any interleaving. An update
succeeds only with the version of the last write under its key, and no version is given twice; so
nothing was written between the fetch that an update goes back to and the update itself. -/

namespace ClusterArchive.MemoryCluster

def Touches (cluster : MemoryCluster) (actions : List Action) (key : ObjectKey) : Prop :=
  key ∈ (cluster.writes actions).map Prod.fst

theorem perform_error {cluster : MemoryCluster} {α : Type} {cancelled : Bool} {asked : Request α}
    {error : ClusterError} (failed : (cluster.perform cancelled asked).1 = .error error) :
    cluster.perform cancelled asked = (.error error, cluster) := by
  rcases cluster.perform_answered cancelled asked with ⟨reason, unchanged⟩ | ⟨_, _, _, done⟩
  · rw [unchanged] at failed
    rw [unchanged, Except.error.inj failed]
  · rw [done] at failed
    cases failed

/-- What a fetch returns is what is stored, and a fetch changes nothing. -/
theorem get_found {cluster : MemoryCluster} {cancelled : Bool} {type : ResourceType}
    {ns : Option String} {name : String} {live : Document}
    (fetched : (cluster.perform cancelled (.get type ns name)).1 = .ok live) :
    cluster.object? ⟨type, ns, name⟩ = some live ∧
      cluster.perform cancelled (.get type ns name) = (.ok live, cluster) := by
  rcases cluster.perform_answered cancelled (.get type ns name) with
    ⟨error, failed⟩ | ⟨reply, after, answered, done⟩
  · rw [failed] at fetched
    cases fetched
  · rw [done] at fetched ⊢
    obtain rfl := Except.ok.inj fetched
    rw [answer_get] at answered
    obtain ⟨got, rfl⟩ := Prod.mk.inj answered
    exact ⟨get_cases got, rfl⟩

/-- An update that is not refused for its scope, a failure or its name succeeds if it carries the
version that is stored. -/
theorem update_succeeds_iff {cluster : MemoryCluster} {type : ResourceType} {ns : Option String}
    {object : Document} {name : String} (scope : cluster.checkScope type ns = .ok ())
    (clear : checkFailure cluster.failingUpdates "update" type ns = .ok ())
    (named : object.name? = some name) :
    cluster.succeeds (.request false (.update type ns object)) = true ↔
      (cluster.object? ⟨type, ns, name⟩).map Document.resourceVersion? = some object.resourceVersion? := by
  cases found : cluster.object? ⟨type, ns, name⟩ with
  | none =>
    simp [succeeds, perform, answer, update, scope, clear, requiredName_eq_ok.mpr named, found,
      Except.isOk, Except.toBool]
  | some current =>
    by_cases same : object.resourceVersion? = current.resourceVersion?
    · simp [succeeds, perform, answer, update, scope, clear, requiredName_eq_ok.mpr named, found, same,
        Except.map, Except.isOk, Except.toBool]
    · simp [succeeds, perform, answer, update, scope, clear, requiredName_eq_ok.mpr named, found, same,
        Ne.symm same, Except.isOk, Except.toBool]

/-- An update that succeeds carries the version stored under its key, and writes there. -/
theorem update_writes {cluster : MemoryCluster} {cancelled : Bool} {type : ResourceType}
    {ns : Option String} {object : Document}
    (success : cluster.succeeds (.request cancelled (.update type ns object)) = true) :
    ∃ name current, object.name? = some name ∧ cluster.object? ⟨type, ns, name⟩ = some current ∧
      object.resourceVersion? = current.resourceVersion? ∧
      cluster.write? (.request cancelled (.update type ns object)) =
        some (⟨type, ns, name⟩, cluster.version + 1) := by
  obtain ⟨stored, after, answered, done⟩ := succeeds_request.mp success
  obtain ⟨name, current, named, _, found, same, _, rfl⟩ := update_cases answered
  refine ⟨name, current, named, found, same, ?_⟩
  rw [write?, if_pos success, act, done]
  simp [Action.target?, Request.target?, named, MemoryCluster.store]

/-- A version that is still the last under a key was not followed by a write there. -/
theorem Numbered.still_last {cluster : MemoryCluster} {writes more : List (ObjectKey × Nat)}
    (numbered : Numbered cluster (writes ++ more)) {key : ObjectKey} {version : Nat}
    (before : lastVersion? key writes = some version)
    (after : lastVersion? key (writes ++ more) = some version) : key ∉ more.map Prod.fst := by
  rw [← lastVersion?_eq_none, Option.eq_none_iff_forall_ne_some]
  intro later last
  rw [lastVersion?_append, last, Option.some_or, Option.some.injEq] at after
  subst after
  have once : ((writes ++ more).map Prod.snd).Nodup := by
    rw [numbered.versions]
    exact List.nodup_range'
  rw [List.map_append] at once
  exact (List.nodup_append.mp once).2.2 _ (List.mem_map_of_mem (mem_of_lastVersion? before)) _
    (List.mem_map_of_mem (mem_of_lastVersion? last)) rfl

/-- An update with the version of an object goes to that object, and follows no other write to it. -/
theorem Numbered.update_unwritten {cluster : MemoryCluster} {writes : List (ObjectKey × Nat)}
    (numbered : Numbered cluster writes) {key : ObjectKey} {live : Document}
    (found : cluster.object? key = some live) (between : List Action) {cancelled : Bool}
    {type : ResourceType} {ns : Option String} {object : Document}
    (same : object.resourceVersion? = live.resourceVersion?)
    (success : (cluster.run between).succeeds (.request cancelled (.update type ns object)) = true) :
    (∃ name, object.name? = some name ∧ key = ⟨type, ns, name⟩) ∧ ¬cluster.Touches between key := by
  have later := numbered.run between
  obtain ⟨name, current, named, foundLater, sameLater, _⟩ := update_writes success
  obtain ⟨version, last, is⟩ := numbered.stored found
  obtain ⟨number, lastLater, isLater⟩ := later.stored foundLater
  -- Both versions are numbers of last writes, before and after; equal numbers are one write.
  obtain rfl : version = number := by
    rw [same, is, isLater, Option.some.injEq] at sameLater
    exact versionText_inj.mp (congrArg Json.string sameLater)
  obtain rfl : key = ⟨type, ns, name⟩ := later.key_unique
    (List.mem_append_left _ (mem_of_lastVersion? last)) (mem_of_lastVersion? lastLater)
  exact ⟨⟨name, named, rfl⟩, later.still_last last lastLater⟩

theorem Numbered.keeps {cluster : MemoryCluster} {writes : List (ObjectKey × Nat)}
    (numbered : Numbered cluster writes) {key : ObjectKey} {object : Document}
    (found : cluster.object? key = some object) (actions : List Action) :
    (cluster.run actions).object? key ≠ none := by
  obtain ⟨version, last, _⟩ := numbered.stored found
  have versioned := (numbered.run actions).versioned key
  rw [lastVersion?_append, last] at versioned
  intro free
  rw [free] at versioned
  cases later : lastVersion? key (cluster.writes actions) <;> simp [later] at versioned

/-- A client of a cluster that others call as well. Before its call of each number theirs of that
number are answered, and it may be cancelled. -/
def amongOthers (others : Nat → List Action) (cancelled : Nat → Bool) : Client (MemoryCluster × Nat) where
  perform asked := fun (cluster, turn) =>
    let (reply, after) := (cluster.run (others turn)).perform (cancelled turn) asked
    (reply, after, turn + 1)

section AmongOthers

variable {others : Nat → List Action} {cancelled : Nat → Bool} {cluster : MemoryCluster}
  {item : RestoreItem} {turn : Nat}

theorem perform_amongOthers {α : Type} (asked : Request α) :
    (amongOthers others cancelled).perform asked (cluster, turn) =
      (((cluster.run (others turn)).perform (cancelled turn) asked).1,
        ((cluster.run (others turn)).perform (cancelled turn) asked).2, turn + 1) := rfl

/-- A refusal that something exists leads to a replacement, after what others call next. -/
theorem applyItem_amongOthers {resource name : String}
    (taken : ((cluster.run (others turn)).perform (cancelled turn)
      (.create item.entry.type item.entry.ns item.object)).1 = .error (.alreadyExists resource name)) :
    (amongOthers others cancelled).applier.applyItem item (cluster, turn) =
      (amongOthers others cancelled).applier.replace item (cluster.run (others turn), turn + 1) := by
  have unchanged := perform_error taken
  simp only [Applier.applyItem, Client.applier, perform_amongOthers, unchanged]

theorem replace_amongOthers {live : Document}
    (fetched : ((cluster.run (others turn)).perform (cancelled turn)
      (.get item.entry.type item.entry.ns item.entry.name)).1 = .ok live) :
    (amongOthers others cancelled).applier.replace item (cluster, turn) =
      match ((cluster.run (others turn)).run (others (turn + 1))).perform (cancelled (turn + 1))
        (.update item.entry.type item.entry.ns (item.desired live)) with
      | (.ok _, after) => (.ok .updated, after, turn + 2)
      | (.error error, after) => (.error (Applier.failure .update item.entry error), after, turn + 2) := by
  simp only [Applier.replace, Client.applier, perform_amongOthers, (get_found fetched).2]
  rcases ((cluster.run (others turn)).run (others (turn + 1))).perform (cancelled (turn + 1))
    (.update item.entry.type item.entry.ns (item.desired live)) with ⟨reply, after⟩
  cases reply <;> rfl

theorem applyItem_updated {after : MemoryCluster × Nat}
    (applied : (amongOthers others cancelled).applier.applyItem item (cluster, 0) =
      (.ok .updated, after)) :
    ∃ live, ((cluster.run (others 0)).run (others 1)).object? item.key = some live ∧
      (((cluster.run (others 0)).run (others 1)).run (others 2)).succeeds
        (.request (cancelled 2) (.update item.entry.type item.entry.ns (item.desired live))) = true := by
  cases created : ((cluster.run (others 0)).perform (cancelled 0)
    (.create item.entry.type item.entry.ns item.object)).1 with
  | ok => simp [Applier.applyItem, Client.applier, perform_amongOthers, created] at applied
  | error refusal =>
    cases refusal with
    | alreadyExists resource name =>
      rw [applyItem_amongOthers created] at applied
      cases fetched : (((cluster.run (others 0)).run (others 1)).perform (cancelled 1)
        (.get item.entry.type item.entry.ns item.entry.name)).1 with
      | error => simp [Applier.replace, Client.applier, perform_amongOthers, fetched] at applied
      | ok live =>
        refine ⟨live, (get_found fetched).1, ?_⟩
        rw [replace_amongOthers fetched] at applied
        split at applied
        next updated => rw [succeeds, updated]; rfl
        next => cases applied
    | _ => simp [Applier.applyItem, Client.applier, perform_amongOthers, created] at applied

end AmongOthers

theorem checkFailure_error {failing : List Scope} {call : String} {type : ResourceType}
    {ns : Option String} {error : ClusterError}
    (failed : checkFailure failing call type ns = .error error) : ∃ code text, error = .api code text := by
  unfold checkFailure at failed
  split at failed
  next => exact ⟨_, _, (Except.error.inj failed).symm⟩
  next => cases failed

theorem requiredName_error {object : Document} {error : ClusterError}
    (failed : requiredName object = .error error) : error = .api 422 "metadata.name is required" := by
  unfold requiredName at failed
  split at failed
  next => cases failed
  next => exact (Except.error.inj failed).symm

theorem update_error {cluster : MemoryCluster} {type : ResourceType} {ns : Option String}
    {object : Document} {error : ClusterError}
    (refused : (cluster.update type ns object).1 = .error error) : error ≠ .cancelled := by
  rintro rfl
  cases scope : cluster.checkScope type ns with
  | error error =>
    rcases checkScope_error scope with ⟨_, _, rfl⟩ | ⟨_, rfl⟩ <;> simp [update, scope] at refused
  | ok =>
    cases clear : checkFailure cluster.failingUpdates "update" type ns with
    | error error =>
      obtain ⟨_, _, rfl⟩ := checkFailure_error clear
      simp [update, scope, clear] at refused
    | ok =>
      cases named : requiredName object with
      | error error =>
        obtain rfl := requiredName_error named
        simp [update, scope, clear, named] at refused
      | ok name =>
        cases found : cluster.object? ⟨type, ns, name⟩ with
        | none => simp [update, scope, clear, named, found] at refused
        | some current =>
          by_cases same : object.resourceVersion? = current.resourceVersion? <;>
            simp [update, scope, clear, named, found, same, Except.map] at refused

theorem failure_update {cluster : MemoryCluster} {cancelled : Bool} {type : ResourceType}
    {ns : Option String} {object : Document} {error : ClusterError} (entry : Entry)
    (failed : (cluster.perform cancelled (.update type ns object)).1 = .error error) :
    ∃ source, Applier.failure .update entry error =
      if cancelled then .cancelled else .apply .update (entry.ns.getD "") entry.name source := by
  cases cancelled with
  | true =>
    obtain rfl : .cancelled = error := Except.error.inj failed
    exact ⟨.cancelled, rfl⟩
  | false =>
    refine ⟨error, ?_⟩
    have apart : error ≠ .cancelled := update_error failed
    cases error <;> simp_all [Applier.failure]

/-- An item that is to replace an object carries the version of that. -/
theorem Numbered.desired_version {cluster : MemoryCluster} {writes : List (ObjectKey × Nat)}
    (numbered : Numbered cluster writes) {key : ObjectKey} {live : Document}
    (found : cluster.object? key = some live) (item : RestoreItem) :
    (item.desired live).resourceVersion? = live.resourceVersion? := by
  obtain ⟨version, versioned⟩ := (numbered.sound.stored _ _ found).versioned
  rw [desired_eq item versioned, versioned]
  simp [Document.resourceVersion?, Document.metadataText?_stamp]

/-- A cluster, after some writes, at which no client overwrites what it did not see. -/
structure NoLostUpdate (cluster : MemoryCluster) (past : List (ObjectKey × Nat)) : Prop where
  /-- An update that no check stops succeeds if it carries the version of the last write. -/
  update_iff : ∀ type ns object name, cluster.checkScope type ns = .ok () →
    checkFailure cluster.failingUpdates "update" type ns = .ok () → object.name? = some name →
    (cluster.succeeds (.request false (.update type ns object)) = true ↔
      (cluster.object? ⟨type, ns, name⟩).isSome ∧ ∃ version,
        lastVersion? ⟨type, ns, name⟩ past = some version ∧
        object.resourceVersion? = some (toString version))
  /-- An update with the version that was fetched is the first write since the fetch. -/
  fetched : ∀ earlier type ns name live,
    (cluster.perform earlier (.get type ns name)).1 = .ok live →
    ∀ between cancelled object, object.resourceVersion? = live.resourceVersion? →
      (cluster.run between).succeeds (.request cancelled (.update type ns object)) = true →
      object.name? = some name ∧ ¬cluster.Touches between ⟨type, ns, name⟩
  /-- Of updates with one version, only the first succeeds. -/
  updates : ∀ cancelled type ns object, let first := .request cancelled (.update type ns object)
    cluster.succeeds first = true →
    ∀ between cancelled type ns other, other.resourceVersion? = object.resourceVersion? →
      ((cluster.act first).run between).succeeds (.request cancelled (.update type ns other)) = false
  /-- Of creations under one key, only the first succeeds. -/
  creations : ∀ cancelled type ns object, let first := .request cancelled (.create type ns object)
    cluster.succeeds first = true →
    ∀ between cancelled other, other.name? = object.name? →
      ((cluster.act first).run between).succeeds (.request cancelled (.create type ns other)) = false
  /-- The object of an item that was updated is not written between its fetch and its update. -/
  updated : ∀ others cancelled item after,
    (amongOthers others cancelled).applier.applyItem item (cluster, 0) = (.ok .updated, after) →
    ¬((cluster.run (others 0)).run (others 1)).Touches (others 2) item.key
  /-- A write that comes between stays, and the update fails. -/
  intervened : ∀ others cancelled item resource name live,
    let atFetch := (cluster.run (others 0)).run (others 1)
    ((cluster.run (others 0)).perform (cancelled 0)
      (.create item.entry.type item.entry.ns item.object)).1 = .error (.alreadyExists resource name) →
    (atFetch.perform (cancelled 1)
      (.get item.entry.type item.entry.ns item.entry.name)).1 = .ok live →
    atFetch.Touches (others 2) item.key →
    ∃ source, (amongOthers others cancelled).applier.applyItem item (cluster, 0) =
      (.error (if cancelled 2 then .cancelled
        else .apply .update (item.entry.ns.getD "") item.entry.name source), atFetch.run (others 2), 3)

/-- Where versions are the numbers of writes, no update is lost. -/
theorem Numbered.noLostUpdate {cluster : MemoryCluster} {past : List (ObjectKey × Nat)}
    (numbered : Numbered cluster past) : NoLostUpdate cluster past where
  update_iff := by
    intro type ns object name scope clear named
    rw [update_succeeds_iff scope clear named]
    constructor
    · intro same
      obtain ⟨live, found, versioned⟩ := Option.map_eq_some_iff.mp same
      obtain ⟨version, last, is⟩ := numbered.stored found
      exact ⟨by simp [found], version, last, versioned.symm.trans is⟩
    · rintro ⟨_, version, last, versioned⟩
      rw [numbered.versioned, last, versioned, Option.map_some]
  fetched := by
    intro earlier type ns name live fetched between cancelled object same success
    obtain ⟨⟨_, named, key⟩, untouched⟩ :=
      numbered.update_unwritten (get_found fetched).1 between same success
    exact ⟨(ObjectKey.mk.inj key).2.2 ▸ named, untouched⟩
  updates := by
    intro cancelled type ns object first success between late type' ns' other same
    obtain ⟨name, current, named, found, sameFirst, written⟩ := update_writes success
    by_contra again
    -- The first update is itself a write that comes between.
    have untouched := (numbered.update_unwritten found (first :: between) (same.trans sameFirst)
      (by simpa using again)).2
    exact untouched (by simp [Touches, writes, first, written])
  creations := by
    intro cancelled type ns object first success between late other same
    by_contra again
    obtain ⟨stored, after, created, done⟩ := succeeds_request.mp success
    obtain ⟨_, _, createdAgain, _⟩ := succeeds_request.mp (Bool.not_eq_false _ ▸ again)
    obtain ⟨name, named, _, _, _, isStored⟩ := create_cases created
    obtain ⟨nameAgain, namedAgain, _, free, _⟩ := create_cases createdAgain
    obtain rfl : nameAgain = name := Option.some.inj (namedAgain.symm.trans (same.trans named))
    have here : (cluster.act first).object? ⟨type, ns, nameAgain⟩ = some stored := by
      simp [first, MemoryCluster.act, done, isStored]
    exact (numbered.act first).keeps here between free
  updated := by
    intro others cancelled item after applied
    obtain ⟨live, found, success⟩ := applyItem_updated applied
    have atFetch := (numbered.run (others 0)).run (others 1)
    exact (atFetch.update_unwritten found _ (atFetch.desired_version found item) success).2
  intervened := by
    intro others cancelled item resource name live atFetch refused fetched touched
    have found := (get_found fetched).1
    have numberedAtFetch := (numbered.run (others 0)).run (others 1)
    rw [applyItem_amongOthers refused, replace_amongOthers fetched]
    split
    next reply after updated =>
      have success : (atFetch.run (others 2)).succeeds (.request (cancelled 2)
          (.update item.entry.type item.entry.ns (item.desired live))) = true := by
        rw [succeeds, updated]; rfl
      exact absurd touched (numberedAtFetch.update_unwritten found _
        (numberedAtFetch.desired_version found item) success).2
    next error after failed =>
      obtain ⟨source, is⟩ := failure_update item.entry (congrArg Prod.fst failed)
      obtain rfl := congrArg Prod.snd (failed.symm.trans (perform_error (congrArg Prod.fst failed)))
      exact ⟨source, by rw [is]⟩

/-- Whatever was called on a cluster before, no update is lost from there on. -/
theorem run_noLostUpdate {start : MemoryCluster} (fresh : start = .empty ∨ start = .standard)
    (past : List Action) : NoLostUpdate (start.run past) (start.writes past) := by
  have numbered := (Numbered.fresh fresh).run past
  rw [List.nil_append] at numbered
  exact numbered.noLostUpdate

def settingsItem : RestoreItem := ⟨⟨settingsKey.type, settingsKey.ns, settingsKey.name⟩, settings⟩

/-- Someone renews the configuration while it is restored, after it was fetched. -/
def renewing (turn : Nat) : List Action := if turn = 2 then [renewal] else []

theorem run_noLostUpdate_settings :
    (standard.run settingsCalls).succeeds renewal = true ∧
    (∀ between, (((standard.run settingsCalls).act renewal).run between).succeeds renewal = false) ∧
    ∃ source, (amongOthers renewing fun _ => false).applier.applyItem settingsItem
        (standard.run settingsCalls, 0) =
      (.error (.apply .update "web" "settings" source), (standard.run settingsCalls).act renewal, 3) := by
  have kept := run_noLostUpdate (.inr rfl) settingsCalls
  have renewed : (standard.run settingsCalls).writes (renewing 2) = [(settingsKey, 3)] := by rfl
  have success : (standard.run settingsCalls).succeeds renewal = true := by rfl
  refine ⟨success, ?_, ?_⟩
  · intro between
    exact kept.updates _ _ _ _ success between _ _ _ _ rfl
  · refine kept.intervened renewing (fun _ => false) settingsItem _ _ _ rfl rfl ?_
    exact List.mem_map_of_mem (renewed ▸ List.mem_singleton_self _)

end ClusterArchive.MemoryCluster
