import ClusterArchive.Engine.Backup

/-! What a capture does to the volume, whatever the cluster answers and whenever the run is cancelled.
It only writes objects that a listing may show, at places that may be looked into, so what such writes
preserve is preserved by the capture. -/

namespace ClusterArchive.Engine

variable {σ : Type}

/-- States that the questions of a run may lead to. -/
inductive Arises (around : Surroundings σ) (discoverer : Discoverer σ) (lister : Lister σ)
    (start : σ) : σ → Prop
  | start : Arises around discoverer lister start start
  | now {s : σ} : Arises around discoverer lister start s →
      Arises around discoverer lister start (around.now s).2
  | cancelled {s : σ} : Arises around discoverer lister start s →
      Arises around discoverer lister start (around.cancelled s).2
  | discover {s : σ} : Arises around discoverer lister start s →
      Arises around discoverer lister start (discoverer.discover s).2
  | list {s : σ} (resource : Resource) (ns : Option String) :
      Arises around discoverer lister start s →
      Arises around discoverer lister start (lister.list resource ns s).2

/-- A resource that a run may be told of in some states, and that it selects. -/
def Offers (A : σ → Prop) (discoverer : Discoverer σ) (options : BackupOptions)
    (resource : Resource) : Prop :=
  ∃ s report, A s ∧ (discoverer.discover s).1 = .ok report ∧
    resource ∈ (KindFilter.ofRequest options.resourceTypes).select report.resources

def Finds (A : σ → Prop) (lister : Lister σ) (options : BackupOptions) (names : List String) : Prop :=
  ∃ s, A s ∧ ((NamespaceResolver.make options.includeNamespaces options.excludeNamespaces).find
    lister s).1 = .ok names

/-- A place where a run may look for the objects of a resource. -/
def Visits (A : σ → Prop) (lister : Lister σ) (options : BackupOptions) (resource : Resource) :
    Option String → Prop
  | some ns => resource.namespaced = true ∧ ∃ names, Finds A lister options names ∧ ns ∈ names
  | none => resource.namespaced = false ∧ options.includeClusterResources = true

def Shows (A : σ → Prop) (lister : Lister σ) (resource : Resource) (ns : Option String)
    (name : String) : Prop :=
  ∃ s objects, A s ∧ (lister.list resource ns s).1 = .ok objects ∧
    ∃ object ∈ objects, object.name? = some name

def Captures (around : Surroundings σ) (discoverer : Discoverer σ) (lister : Lister σ)
    (options : BackupOptions) (start : σ) (entry : Entry) : Prop :=
  let A := Arises around discoverer lister start
  ∃ resource, Offers A discoverer options resource ∧ entry.type = resource.type ∧
    Visits A lister options resource entry.ns ∧ Shows A lister resource entry.ns entry.name

theorem ask_cases {α : Type} {world after : World σ} {question : σ → α × σ} {reply : α}
    (asked : world.ask question = (reply, after)) :
    (question world.outside).1 = reply ∧ after.volume = world.volume ∧
      after.outside = (question world.outside).2 := by
  obtain ⟨rfl, rfl⟩ := Prod.mk.inj asked
  exact ⟨rfl, rfl, rfl⟩

/-! What the capture of one resource makes of the capture of all. -/

section

variable {around : Surroundings σ} {lister : Lister σ} {staging : String} {now : Instant}
  {options : BackupOptions} {resolver next : NamespaceResolver} {resource : Resource}
  {rest : List Resource} {world ready between : World σ}

theorem captureAll_of_cancelled (asked : world.ask around.cancelled = (true, ready)) :
    captureAll around lister staging now options resolver (resource :: rest) world =
      (.error .cancelled, ready) := by
  simp only [captureAll, asked]

variable (asked : world.ask around.cancelled = (false, ready))

include asked

theorem captureAll_of_failed {error : RunError}
    (captured : captureOne lister staging now options resolver resource ready =
      (.error error, next, between)) :
    captureAll around lister staging now options resolver (resource :: rest) world =
      (.error error, between) := by
  simp only [captureAll, asked, captured]

theorem captureAll_of_captured {count : Nat}
    (captured : captureOne lister staging now options resolver resource ready =
      (.ok count, next, between)) :
    captureAll around lister staging now options resolver (resource :: rest) world =
      let run := captureAll around lister staging now options next rest between
      (run.1.map (count + ·), run.2) := by
  simp only [captureAll, asked, captured]
  generalize captureAll around lister staging now options next rest between = run
  obtain ⟨outcome, after⟩ := run
  cases outcome <;> rfl

end

/-- Writing any object under an entry preserves a property of the volume. -/
def Preserves (P : Volume → Prop) (staging : String) (now : Instant) (entry : Entry) : Prop :=
  ∀ object volume, P volume → P (writeObject staging entry object now volume).2

/-- The volume has a property, and what lies outside is as a run may find it. -/
structure Along (P : Volume → Prop) (A : σ → Prop) (world : World σ) : Prop where
  volume : P world.volume
  outside : A world.outside

section

variable {P : Volume → Prop} {staging : String} {now : Instant} {around : Surroundings σ}
  {discoverer : Discoverer σ} {lister : Lister σ} {options : BackupOptions} {start : σ}

theorem writeObjects_preserves {A : σ → Prop} {type : ResourceType} {ns : Option String}
    {objects : List Document} (each : ∀ object ∈ objects, ∀ name, object.name? = some name →
      Preserves P staging now ⟨type, ns, name⟩) {world : World σ} (along : Along P A world) :
    Along P A (writeObjects staging type ns now objects world).2 := by
  induction objects generalizing world with
  | nil => exact along
  | cons object rest ih =>
    obtain ⟨here, later⟩ := List.forall_mem_cons.mp each
    rw [writeObjects]
    cases named : object.name? with
    | none => exact ih later ⟨along.volume, along.outside⟩
    | some name =>
      have kept := here name named object world.volume along.volume
      simp only [World.onVolume]
      generalize writeObject staging ⟨type, ns, name⟩ object now world.volume = result at kept
      obtain ⟨outcome, volume⟩ := result
      cases outcome with
      | ok => exact ih later ⟨kept, along.outside⟩
      | error error => exact ih later ⟨kept, along.outside⟩

theorem captureResource_preserves {resource : Resource} {ns : Option String}
    (each : ∀ name, Shows (Arises around discoverer lister start) lister resource ns name →
      Preserves P staging now ⟨resource.type, ns, name⟩)
    {world : World σ} (along : Along P (Arises around discoverer lister start) world) :
    Along P (Arises around discoverer lister start)
      (captureResource lister staging now resource ns world).2 := by
  unfold captureResource
  generalize asked : world.ask (lister.list resource ns) = answer
  obtain ⟨outcome, between⟩ := answer
  obtain ⟨shown, volume, outside⟩ := ask_cases asked
  have alongNow : Along P (Arises around discoverer lister start) between :=
    ⟨volume ▸ along.volume, outside ▸ along.outside.list resource ns⟩
  cases outcome with
  | error error => cases error <;> exact ⟨alongNow.volume, alongNow.outside⟩
  | ok objects =>
    exact writeObjects_preserves (fun object member name named =>
      each name ⟨_, objects, along.outside, shown, object, member, named⟩) alongNow

theorem captureNamespaces_preserves {resource : Resource} {names : List String}
    (each : ∀ ns ∈ names, ∀ name,
      Shows (Arises around discoverer lister start) lister resource (some ns) name →
      Preserves P staging now ⟨resource.type, some ns, name⟩)
    {world : World σ} (along : Along P (Arises around discoverer lister start) world) :
    Along P (Arises around discoverer lister start)
      (captureNamespaces lister staging now resource names world).2 := by
  induction names generalizing world with
  | nil => exact along
  | cons ns rest ih =>
    obtain ⟨here, later⟩ := List.forall_mem_cons.mp each
    have first := captureResource_preserves here along
    rw [captureNamespaces]
    generalize captureResource lister staging now resource (some ns) world = result at first
    obtain ⟨outcome, between⟩ := result
    cases outcome with
    | error error => exact first
    | ok count =>
      have rested := ih later first
      simp only []
      generalize captureNamespaces lister staging now resource rest between = result at rested
      obtain ⟨outcome, after⟩ := result
      cases outcome <;> exact rested

/-- The namespaces that a resolver remembers are ones that may be found. -/
structure Recalls (A : σ → Prop) (lister : Lister σ) (options : BackupOptions)
    (resolver : NamespaceResolver) : Prop where
  same : ∀ s, resolver.find lister s =
    (NamespaceResolver.make options.includeNamespaces options.excludeNamespaces).find lister s
  found : ∀ names, resolver.resolved = some names → Finds A lister options names

theorem Recalls.make (A : σ → Prop) (lister : Lister σ) (options : BackupOptions) :
    Recalls A lister options
      (NamespaceResolver.make options.includeNamespaces options.excludeNamespaces) :=
  ⟨fun _ => rfl, fun _ known => nomatch known⟩

theorem Arises.find {s : σ} (arises : Arises around discoverer lister start s)
    (resolver : NamespaceResolver) :
    Arises around discoverer lister start (resolver.find lister s).2 := by
  unfold NamespaceResolver.find
  split
  next => exact arises
  next =>
    have listed := arises.list Resource.namespaces none
    split
    next answered =>
      rw [answered] at listed
      exact listed
    next answered =>
      rw [answered] at listed
      exact listed

/-- What a resolver answers may be found, and it goes on remembering such namespaces. -/
theorem Recalls.resolve {resolver : NamespaceResolver}
    (recalls : Recalls (Arises around discoverer lister start) lister options resolver) {s : σ}
    (arises : Arises around discoverer lister start s) :
    let answer := resolver.resolve lister s
    Recalls (Arises around discoverer lister start) lister options answer.2.1 ∧
      Arises around discoverer lister start answer.2.2 ∧
      ∀ names, answer.1 = .ok names →
        Finds (Arises around discoverer lister start) lister options names := by
  unfold NamespaceResolver.resolve
  cases known : resolver.resolved with
  | some names =>
    refine ⟨recalls, arises, fun others same => ?_⟩
    obtain rfl := Except.ok.inj same
    exact recalls.found names known
  | none =>
    simp only []
    have arisesNow := arises.find resolver
    generalize answered : resolver.find lister s = answer at arisesNow
    obtain ⟨outcome, after⟩ := answer
    cases outcome with
    | error error => exact ⟨recalls, arisesNow, by simp⟩
    | ok names =>
      have finds : Finds (Arises around discoverer lister start) lister options names :=
        ⟨s, arises, by rw [← recalls.same, answered]⟩
      refine ⟨⟨recalls.same, fun others same => ?_⟩, arisesNow, fun others same => ?_⟩
      · obtain rfl := Option.some.inj same
        exact finds
      · obtain rfl := Except.ok.inj same
        exact finds

theorem captureOne_preserves {resource : Resource}
    (each : ∀ ns, Visits (Arises around discoverer lister start) lister options resource ns →
      ∀ name, Shows (Arises around discoverer lister start) lister resource ns name →
      Preserves P staging now ⟨resource.type, ns, name⟩) {resolver : NamespaceResolver}
    (recalls : Recalls (Arises around discoverer lister start) lister options resolver)
    {world : World σ} (along : Along P (Arises around discoverer lister start) world) :
    let run := captureOne lister staging now options resolver resource world
    Along P (Arises around discoverer lister start) run.2.2 ∧
      Recalls (Arises around discoverer lister start) lister options run.2.1 := by
  simp only [captureOne]
  by_cases inside : resource.namespaced = true
  · obtain ⟨recallsNow, arises, found⟩ := recalls.resolve along.outside
    simp only [inside, if_true]
    generalize resolver.resolve lister world.outside = answer at recallsNow arises found
    obtain ⟨outcome, next, outside⟩ := answer
    have alongNow : Along P (Arises around discoverer lister start)
        { world with outside := outside } := ⟨along.volume, arises⟩
    cases outcome with
    | error error => exact ⟨alongNow, recallsNow⟩
    | ok names =>
      refine ⟨captureNamespaces_preserves (fun ns member => ?_) alongNow, recallsNow⟩
      exact each (some ns) ⟨inside, names, found names rfl, member⟩
  · have outside : resource.namespaced = false := by simpa using inside
    simp only [outside, Bool.false_eq_true, if_false]
    by_cases included : options.includeClusterResources = true
    · simp only [included, if_true]
      exact ⟨captureResource_preserves (each none ⟨outside, included⟩) along, recalls⟩
    · simp only [included]
      exact ⟨along, recalls⟩

theorem captureAll_preserves {resources : List Resource}
    (each : ∀ resource ∈ resources, ∀ ns,
      Visits (Arises around discoverer lister start) lister options resource ns → ∀ name,
      Shows (Arises around discoverer lister start) lister resource ns name →
      Preserves P staging now ⟨resource.type, ns, name⟩) {resolver : NamespaceResolver}
    (recalls : Recalls (Arises around discoverer lister start) lister options resolver)
    {world : World σ} (along : Along P (Arises around discoverer lister start) world) :
    Along P (Arises around discoverer lister start)
      (captureAll around lister staging now options resolver resources world).2 := by
  induction resources generalizing resolver world with
  | nil => exact along
  | cons resource rest ih =>
    obtain ⟨here, later⟩ := List.forall_mem_cons.mp each
    rcases asked : world.ask around.cancelled with ⟨cancelled, ready⟩
    obtain ⟨_, volume, outside⟩ := ask_cases asked
    have alongNow : Along P (Arises around discoverer lister start) ready :=
      ⟨volume ▸ along.volume, outside ▸ along.outside.cancelled⟩
    cases cancelled with
    | true => rwa [captureAll_of_cancelled asked]
    | false =>
      have first := captureOne_preserves here recalls alongNow
      rcases captured : captureOne lister staging now options resolver resource ready with
        ⟨outcome, next, between⟩
      rw [captured] at first
      obtain ⟨kept, recallsNow⟩ := first
      cases outcome with
      | error error => rwa [captureAll_of_failed asked captured]
      | ok count =>
        rw [captureAll_of_captured asked captured]
        exact ih later recallsNow kept

theorem warn_failures {τ : Type} (failures : List DiscoveryFailure) (world : World τ) :
    failures.foldl (fun world failure => world.warn "Skipping API group that failed discovery"
      [("group_version", failure.groupVersion), ("error", failure.error.message)]) world =
      { world with warnings := world.warnings ++ failures.map fun failure =>
        ⟨"Skipping API group that failed discovery",
          [("group_version", failure.groupVersion), ("error", failure.error.message)]⟩ } := by
  induction failures generalizing world with
  | nil => simp
  | cons failure rest ih => rw [List.foldl_cons, ih]; simp [World.warn]

theorem Along.warn_failures {A : σ → Prop} {world : World σ} (along : Along P A world)
    (failures : List DiscoveryFailure) :
    Along P A (failures.foldl (fun world failure => world.warn
      "Skipping API group that failed discovery"
      [("group_version", failure.groupVersion), ("error", failure.error.message)]) world) := by
  rw [Engine.warn_failures]
  exact ⟨along.volume, along.outside⟩

/-- What writing each entry that may be captured preserves is preserved by the capture. -/
theorem capture_preserves
    (each : ∀ entry, Captures around discoverer lister options start entry →
      Preserves P staging now entry)
    {world : World σ} (along : Along P (Arises around discoverer lister start) world) :
    Along P (Arises around discoverer lister start)
      (capture around discoverer lister staging now options world).2 := by
  unfold capture discoverResources
  generalize asked : world.ask discoverer.discover = answer
  obtain ⟨outcome, ready⟩ := answer
  obtain ⟨offered, volume, outside⟩ := ask_cases asked
  have alongNow : Along P (Arises around discoverer lister start) ready :=
    ⟨volume ▸ along.volume, outside ▸ along.outside.discover⟩
  cases outcome with
  | error error =>
    cases error with
    | cancelled => exact alongNow
    | _ =>
      refine captureAll_preserves (fun resource member => ?_) (.make ..)
        ⟨alongNow.volume, alongNow.outside⟩
      simp [KindFilter.select] at member
  | ok report =>
    refine captureAll_preserves (fun resource member ns visits name shows => ?_) (.make ..)
      (alongNow.warn_failures report.failures)
    exact each _ ⟨resource, ⟨_, report, along.outside, offered, member⟩, rfl, visits, shows⟩

/-! The course of a run. -/

/-- Capturing and packing fails with what the capture preserves, or comes to write the archive. -/
theorem captureAndPack_course (medium : Medium) (store : Store) (name : String) {A : σ → Prop}
    {world : World σ}
    (captured : Along P A (capture around discoverer lister staging now options world).2) :
    let run := captureAndPack medium around discoverer lister store name staging options now world
    (∃ error, run.1 = .error error ∧ P run.2.volume) ∨
      ∃ count later, P later.volume ∧
        let written := medium.writeArchive store name staging now later
        run = (written.1.map (count, ·), written.2) := by
  unfold captureAndPack
  generalize capture around discoverer lister staging now options world = result at captured
  obtain ⟨outcome, ready⟩ := result
  cases outcome with
  | error error => exact .inl ⟨error, rfl, captured.volume⟩
  | ok count =>
    simp only []
    generalize asked : ready.ask around.cancelled = answer
    obtain ⟨cancelled, later⟩ := answer
    obtain ⟨_, same, _⟩ := ask_cases asked
    have preserved : P later.volume := same ▸ captured.volume
    cases cancelled with
    | true => exact .inl ⟨.cancelled, rfl, preserved⟩
    | false =>
      refine .inr ⟨count, later, preserved, ?_⟩
      simp only []
      generalize medium.writeArchive store name staging now later = written
      obtain ⟨outcome, final⟩ := written
      cases outcome <;> rfl

end

/-- How a run may end, and the volume that it leaves. -/
inductive Course (engine : Engine) (medium : Medium) (around : Surroundings σ)
    (discoverer : Discoverer σ) (lister : Lister σ) (destination : String) (options : BackupOptions)
    (started : Instant) (world : World σ) : Except RunError BackupResult → Volume → Prop
  | misdirected {error : RunError} (refused : engine.store destination = .error error) :
    Course engine medium around discoverer lister destination options started world (.error error)
      world.volume
  | taken {store : Store} {error : RunError} (opens : engine.store destination = .ok store)
    (taken : store.ensureAvailable world.volume
      (Archive.fileName started engine.format.extension) = .error error) :
    Course engine medium around discoverer lister destination options started world (.error error)
      world.volume
  | cancelled {store : Store} (opens : engine.store destination = .ok store)
    (available : store.ensureAvailable world.volume
      (Archive.fileName started engine.format.extension) = .ok ()) :
    Course engine medium around discoverer lister destination options started world (.error .cancelled)
      world.volume
  | unstaged {store : Store} {error : RunError} {made : Volume}
    (opens : engine.store destination = .ok store)
    (available : store.ensureAvailable world.volume
      (Archive.fileName started engine.format.extension) = .ok ())
    (refused : engine.makeStaging world.volume = (.error error, made)) :
    Course engine medium around discoverer lister destination options started world (.error error) made
  | ended {store : Store} {staging : String} {ready last : World σ}
    {outcome : Except RunError (Nat × Nat × String)} (completed : Instant)
    (opens : engine.store destination = .ok store)
    (available : store.ensureAvailable world.volume
      (Archive.fileName started engine.format.extension) = .ok ())
    (staged : engine.makeStaging world.volume = (.ok staging, ready.volume))
    (arises : Arises around discoverer lister world.outside ready.outside)
    (packed : captureAndPack medium around discoverer lister store
      (Archive.fileName started engine.format.extension) staging options started ready =
        (outcome, last)) :
    Course engine medium around discoverer lister destination options started world
      (outcome.map fun packed => ⟨packed.1, Archive.fileName started engine.format.extension,
        store.pathOf (Archive.fileName started engine.format.extension), packed.2.1, packed.2.2,
        engine.format.algorithm, started, completed⟩)
      (removeStaging last.volume staging)

theorem backup_course (engine : Engine) (medium : Medium) (around : Surroundings σ)
    (discoverer : Discoverer σ) (lister : Lister σ) (destination : String) (options : BackupOptions)
    (world : World σ) :
    let run := engine.backup medium around discoverer lister destination options world
    Course engine medium around discoverer lister destination options (around.now world.outside).1 world
      run.1 run.2.volume := by
  unfold backup
  generalize asked : world.ask around.now = answer
  obtain ⟨started, first⟩ := answer
  obtain ⟨rfl, rfl⟩ := Prod.mk.inj asked
  cases opens : engine.store destination with
  | error error => exact .misdirected opens
  | ok store =>
    simp only []
    generalize (around.now world.outside).1 = started
    cases available : store.ensureAvailable world.volume
        (Archive.fileName started engine.format.extension) with
    | error error => exact .taken opens available
    | ok =>
      simp only []
      generalize cancelling : World.ask _ around.cancelled = answer
      obtain ⟨cancelled, ready⟩ := answer
      obtain ⟨rfl, rfl⟩ := Prod.mk.inj cancelling
      cases goes : (around.cancelled (around.now world.outside).2).1 with
      | true => exact .cancelled opens available
      | false =>
        simp only [World.onVolume]
        generalize staged : engine.makeStaging world.volume = result
        obtain ⟨outcome, made⟩ := result
        cases outcome with
        | error error => exact .unstaged opens available staged
        | ok staging =>
          simp only []
          generalize packed : captureAndPack medium around discoverer lister store
            (Archive.fileName started engine.format.extension) staging options started _ = result
          obtain ⟨outcome, last⟩ := result
          have ended (completed : Instant) :=
            Course.ended completed opens available staged Arises.start.now.cancelled packed
          cases outcome with
          | error error => exact ended default
          | ok => exact ended (around.now last.outside).1

end ClusterArchive.Engine
