import ClusterArchive.Proofs.Engine.Captured
import ClusterArchive.Proofs.Engine.Plan
import ClusterArchive.Proofs.Engine.Writing

/-! What a capture writes. It goes through a plan of entries that cluster and options make, and what
it wrote of the plan is below the staging directory; the cluster stays as it was. -/

namespace ClusterArchive

namespace MemoryCluster

def body (cluster : MemoryCluster) (entry : Entry) : Bytes :=
  ((cluster.object? entry.key).map Document.archivedBytes).getD []

end MemoryCluster

namespace Engine

open Volume

variable {τ : Type} {old : Volume} {staging : String} {root : Location} {body : Entry → Bytes}

/-- How a part of a capture went on: it wrote some of the entries that were planned, and all that
the volume could take. -/
structure Progress {σ : Type} (old : Volume) (staging : String) (root : Location)
    (body : Entry → Bytes) (written plan more : List Entry) (before after : World σ) : Prop where
  holds : Holds old root body (written ++ more) after.volume
  fewer : more.Sublist plan
  fitting : ∀ kept : List Entry, kept.Sublist plan →
    (∀ entry ∈ kept, EntryFits staging entry) → kept.Sublist more
  outside : after.outside = before.outside

section

variable {σ : Type} {written plan later more rest : List Entry} {a b c : World σ}

theorem Progress.nil (holds : Holds old root body written a.volume) (same : b.volume = a.volume)
    (outside : b.outside = a.outside) : Progress old staging root body written [] [] a b :=
  ⟨by rwa [List.append_nil, same], List.Sublist.refl _, fun _ within _ => within, outside⟩

theorem Progress.append (first : Progress old staging root body written plan more a b)
    (second : Progress old staging root body (written ++ more) later rest b c) :
    Progress old staging root body written (plan ++ later) (more ++ rest) a c where
  holds := by
    rw [← List.append_assoc]
    exact second.holds
  fewer := first.fewer.append second.fewer
  fitting := by
    intro kept within fits
    obtain ⟨here, there, rfl, isHere, isThere⟩ := List.sublist_append_iff.mp within
    obtain ⟨fitsHere, fitsThere⟩ := List.forall_mem_append.mp fits
    exact (first.fitting here isHere fitsHere).append (second.fitting there isThere fitsThere)
  outside := second.outside.trans first.outside

end

/-- Objects that a cluster stores under a type and a namespace, with names that can be written. -/
def AreObjects (cluster : MemoryCluster) (type : ResourceType) (ns : Option String)
    (pairs : List (ObjectKey × Document)) : Prop :=
  ∀ pair ∈ pairs, cluster.object? pair.1 = some pair.2 ∧ pair.1.type = type ∧ pair.1.ns = ns ∧
    pair.1.entry.IsValid

theorem writeObjects_progress {σ : Type} {cluster : MemoryCluster} (sound : cluster.Sound)
    (fresh : IsFresh old staging root) {type : ResourceType} {ns : Option String}
    {pairs : List (ObjectKey × Document)} (objects : AreObjects cluster type ns pairs)
    {written : List Entry} {world : World σ}
    (holds : Holds old root cluster.body written world.volume) (now : Instant) :
    ∃ more after, writeObjects staging type ns now (pairs.map (·.2)) world = (more.length, after) ∧
      Progress old staging root cluster.body written (pairs.map (·.1.entry)) more world after := by
  induction pairs generalizing written world with
  | nil => exact ⟨[], world, rfl, .nil holds rfl rfl⟩
  | cons pair rest ih =>
    obtain ⟨key, object⟩ := pair
    obtain ⟨⟨found, isType, isIn, valid⟩, later⟩ := List.forall_mem_cons.mp objects
    simp only [] at found isType isIn valid
    subst isType isIn
    have named : object.name? = some key.name := (sound.stored _ _ found).named
    have archived : object.archivedBytes = cluster.body key.entry := by
      have same : key.entry.key = key := rfl
      simp [MemoryCluster.body, same, found]
    have entry : (⟨key.type, key.ns, key.name⟩ : Entry) = key.entry := rfl
    rw [List.map_cons, List.map_cons, writeObjects]
    simp only [named, entry, World.onVolume]
    obtain ⟨volume, ⟨success, holdsNow⟩ | ⟨unfit, ⟨error, failed⟩, holdsNow⟩⟩ :=
      holds.writeObject fresh valid archived now
    · let between := { world with volume := volume }
      have first : Progress old staging root cluster.body written [key.entry] [key.entry] world
          between := ⟨holdsNow, List.Sublist.refl _, fun _ within _ => within, rfl⟩
      have hereNow : Holds old root cluster.body (written ++ [key.entry]) between.volume := holdsNow
      obtain ⟨more, after, wrote, progress⟩ := ih later hereNow
      refine ⟨key.entry :: more, after, ?_, first.append progress⟩
      rw [success]
      simp only [between] at wrote
      simp only [wrote, List.length_cons]
    · let between := { world with volume := volume }.warn "Failed to write object, skipping"
        [("entry", key.entry.path), ("error", error.message)]
      have holdsBetween : Holds old root cluster.body (written ++ []) between.volume := by
        rwa [List.append_nil]
      have first : Progress old staging root cluster.body written [key.entry] [] world between := by
        refine ⟨holdsBetween, List.nil_sublist _, fun kept within fits => ?_, rfl⟩
        cases within with
        | cons _ none_ => exact none_
        | cons_cons _ none_ => exact absurd (fits key.entry List.mem_cons_self) unfit
      obtain ⟨more, after, wrote, progress⟩ := ih later holdsBetween
      refine ⟨more, after, ?_, first.append progress⟩
      rw [failed]
      exact wrote

section

open MemoryCluster

variable {cluster : MemoryCluster} (sound : cluster.Sound) (inScope : cluster.Scoped)
  (fresh : IsFresh old staging root)

include sound inScope fresh

/-- A listing that fails plans nothing, and the capture goes on. -/
theorem captureResource_progress {resource : Resource} (registered : resource ∈ cluster.resources)
    {ns : Option String} (scope : resource.namespaced = ns.isSome)
    (valid : ∀ entry ∈ cluster.planned resource.type ns, entry.IsValid) {written : List Entry}
    {world : World (MemoryCluster × τ)} (here : world.outside.1 = cluster)
    (holds : Holds old root cluster.body written world.volume) (now : Instant) :
    ∃ more after,
      captureResource session.lister staging now resource ns world = (.ok more.length, after) ∧
      Progress old staging root cluster.body written (cluster.planned resource.type ns) more world
        after := by
  obtain ⟨first, known⟩ := resource?_of_mem registered
  have answered : world.ask (session.lister.list resource ns) =
      (cluster.list resource.type ns, world) := by
    simp [World.ask, session_list, here]
  rw [captureResource, answered, list_known known]
  by_cases failing : (resource.type, ns) ∈ cluster.failingLists
  · have nothing : cluster.planned resource.type ns = [] := by simp [planned, listed, failing]
    rw [if_pos failing, nothing]
    exact ⟨[], _, rfl, .nil holds rfl rfl⟩
  · have shown : cluster.listed resource.type ns = cluster.held resource.type ns := by
      simp [listed, failing]
    have objects : AreObjects cluster resource.type ns (cluster.held resource.type ns) := by
      intro pair member
      rw [← shown] at member
      obtain ⟨found, isType, isIn, _⟩ := (mem_listed sound inScope registered scope).mp member
      exact ⟨found, isType, isIn, valid _ (List.mem_map_of_mem member)⟩
    obtain ⟨more, after, wrote, progress⟩ := writeObjects_progress sound fresh objects holds now
    refine ⟨more, after, ?_, ?_⟩
    · rw [if_neg failing]
      simp only [wrote]
    · rwa [planned, shown]

theorem captureNamespaces_progress {resource : Resource} (registered : resource ∈ cluster.resources)
    (inside : resource.namespaced = true) {names : List String}
    (valid : ∀ ns ∈ names, ∀ entry ∈ cluster.planned resource.type (some ns), entry.IsValid)
    {written : List Entry} {world : World (MemoryCluster × τ)} (here : world.outside.1 = cluster)
    (holds : Holds old root cluster.body written world.volume) (now : Instant) :
    ∃ more after,
      captureNamespaces session.lister staging now resource names world = (.ok more.length, after) ∧
      Progress old staging root cluster.body written
        ((names.map some).flatMap (cluster.planned resource.type)) more world after := by
  induction names generalizing written world with
  | nil => exact ⟨[], world, rfl, .nil holds rfl rfl⟩
  | cons ns rest ih =>
    obtain ⟨validHere, validLater⟩ := List.forall_mem_cons.mp valid
    have scope : resource.namespaced = (some ns).isSome := inside
    obtain ⟨more, between, captured, first⟩ := captureResource_progress sound inScope fresh
      registered scope validHere here holds now
    obtain ⟨later, after, rested, second⟩ := ih validLater
      (by rw [first.outside, here]) first.holds
    refine ⟨more ++ later, after, ?_, first.append second⟩
    rw [captureNamespaces, captured]
    simp only [rested, List.length_append]

end

/-! The namespaces of a run. -/

/-- What a resolver knows in a run: nothing yet, or the namespaces that the run looks into. -/
def Remembers (cluster : MemoryCluster) (options : BackupOptions) (resolver : NamespaceResolver) :
    Prop :=
  let unaware := NamespaceResolver.make options.includeNamespaces options.excludeNamespaces
  resolver = unaware ∨ ∃ names, cluster.lookedInto options = .ok names ∧
    resolver = { unaware with resolved := some names }

theorem list_not_cancelled (cluster : MemoryCluster) (type : ResourceType) (ns : Option String) :
    cluster.list type ns ≠ .error .cancelled := by
  cases known : cluster.resource? type with
  | error error =>
    unfold MemoryCluster.resource? at known
    split at known
    next => cases known
    next =>
      obtain rfl := Except.error.inj known
      simp [MemoryCluster.list, MemoryCluster.resource?, *, bind, Except.bind]
  | ok first =>
    rw [MemoryCluster.list_known known]
    split <;> simp

theorem find_session (options : BackupOptions) (s : MemoryCluster × τ) :
    (NamespaceResolver.make options.includeNamespaces options.excludeNamespaces).find
      MemoryCluster.session.lister s = (s.1.lookedInto options, s) := by
  unfold NamespaceResolver.find MemoryCluster.lookedInto
  rw [MemoryCluster.session_list]
  simp only [Resource.namespaces]
  split
  next => rfl
  next =>
    cases shown : s.1.list .namespaces none with
    | ok objects => rfl
    | error error =>
      cases error with
      | cancelled => exact absurd shown (list_not_cancelled s.1 .namespaces none)
      | _ => rfl

/-- However often the namespaces are asked for, the answer is the same. -/
theorem Remembers.resolve {options : BackupOptions} {resolver : NamespaceResolver}
    {s : MemoryCluster × τ} (remembers : Remembers s.1 options resolver) :
    ∃ after, resolver.resolve MemoryCluster.session.lister s = (s.1.lookedInto options, after, s) ∧
      Remembers s.1 options after := by
  rcases remembers with rfl | ⟨names, looked, rfl⟩
  · have fresh : (NamespaceResolver.make options.includeNamespaces
        options.excludeNamespaces).resolved = none := rfl
    cases looked : s.1.lookedInto options with
    | ok names =>
      refine ⟨_, ?_, .inr ⟨names, looked, rfl⟩⟩
      simp only [NamespaceResolver.resolve, fresh, find_session, looked]
    | error error =>
      refine ⟨_, ?_, .inl rfl⟩
      simp only [NamespaceResolver.resolve, fresh, find_session, looked]
  · exact ⟨_, by rw [looked]; rfl, .inr ⟨names, looked, rfl⟩⟩

/-- Without the namespaces, the first resource that needs them ends the run. -/
theorem captureOne_failed (staging : String) {cluster : MemoryCluster}
    {options : BackupOptions} {resource : Resource} {error : RunError} (inside : resource.namespaced = true)
    (failed : cluster.lookedInto options = .error error) {world : World (MemoryCluster × τ)}
    (here : world.outside.1 = cluster) {resolver : NamespaceResolver}
    (remembers : Remembers cluster options resolver) (now : Instant) :
    ∃ next, captureOne MemoryCluster.session.lister staging now options resolver resource world =
      (.error error, next, world) := by
  subst here
  obtain ⟨next, resolved, _⟩ := remembers.resolve
  rw [failed] at resolved
  exact ⟨next, by simp only [captureOne, inside, if_true, resolved]⟩

section

open MemoryCluster

variable {cluster : MemoryCluster} (sound : cluster.Sound) (inScope : cluster.Scoped)
  (fresh : IsFresh old staging root)

include sound inScope fresh

/-- A resource is captured where it is planned, once the namespaces are known if it has any. -/
theorem captureOne_progress {options : BackupOptions} {names : List String} {resource : Resource}
    (registered : resource ∈ cluster.resources)
    (looked : resource.namespaced = true → cluster.lookedInto options = .ok names)
    (valid : ∀ entry ∈ cluster.planOf options names resource, entry.IsValid) {written : List Entry}
    {world : World (MemoryCluster × τ)} (here : world.outside.1 = cluster)
    (holds : Holds old root cluster.body written world.volume) {resolver : NamespaceResolver}
    (remembers : Remembers cluster options resolver) (now : Instant) :
    ∃ more next after,
      captureOne session.lister staging now options resolver resource world =
        (.ok more.length, next, after) ∧
      Remembers cluster options next ∧
      Progress old staging root cluster.body written (cluster.planOf options names resource) more
        world after := by
  subst here
  simp only [planOf, places] at valid ⊢
  by_cases inside : resource.namespaced = true
  · obtain ⟨next, resolved, knows⟩ := remembers.resolve
    rw [looked inside] at resolved
    simp only [inside, if_true] at valid ⊢
    obtain ⟨more, after, captured, progress⟩ := captureNamespaces_progress sound inScope fresh
      registered inside (fun ns isName entry member => valid entry
        (List.mem_flatMap.mpr ⟨some ns, List.mem_map_of_mem isName, member⟩)) rfl holds now
    refine ⟨more, next, after, ?_, knows, progress⟩
    simp only [captureOne, inside, if_true, resolved, captured]
  · have outside : resource.namespaced = false := by simpa using inside
    simp only [outside, Bool.false_eq_true, if_false] at valid ⊢
    by_cases included : options.includeClusterResources = true
    · simp only [included, if_true, List.flatMap_singleton] at valid ⊢
      have scope : resource.namespaced = (none : Option String).isSome := outside
      obtain ⟨more, after, captured, progress⟩ := captureResource_progress sound inScope fresh
        registered scope valid rfl holds now
      refine ⟨more, resolver, after, ?_, remembers, progress⟩
      simp only [captureOne, outside, Bool.false_eq_true, if_false, included, if_true, captured]
    · simp only [included, Bool.false_eq_true, if_false, List.flatMap_nil]
      refine ⟨[], resolver, world, ?_, remembers, .nil holds rfl rfl⟩
      simp [captureOne, outside, included]

theorem captureAll_progress (clock : τ → Instant × τ) {options : BackupOptions}
    {names : List String} {resources : List Resource}
    (registered : ∀ resource ∈ resources, resource ∈ cluster.resources)
    (looked : ∀ resource ∈ resources, resource.namespaced = true →
      cluster.lookedInto options = .ok names)
    (valid : ∀ entry ∈ resources.flatMap (cluster.planOf options names), entry.IsValid)
    {written : List Entry} {world : World (MemoryCluster × τ)} (here : world.outside.1 = cluster)
    (holds : Holds old root cluster.body written world.volume) {resolver : NamespaceResolver}
    (remembers : Remembers cluster options resolver) (now : Instant) :
    ∃ more after,
      captureAll (undisturbed clock) session.lister staging now options resolver resources world =
        (.ok more.length, after) ∧
      Progress old staging root cluster.body written
        (resources.flatMap (cluster.planOf options names)) more world after := by
  induction resources generalizing written world resolver with
  | nil => exact ⟨[], world, rfl, .nil holds rfl rfl⟩
  | cons resource rest ih =>
    obtain ⟨isHere, areLater⟩ := List.forall_mem_cons.mp registered
    obtain ⟨lookedHere, lookedLater⟩ := List.forall_mem_cons.mp looked
    rw [List.flatMap_cons, List.forall_mem_append] at valid
    obtain ⟨more, next, between, captured, knows, first⟩ := captureOne_progress sound inScope fresh
      isHere lookedHere valid.1 here holds remembers now
    obtain ⟨later, after, rested, second⟩ := ih areLater lookedLater valid.2
      (by rw [first.outside, here]) first.holds knows
    refine ⟨more ++ later, after, ?_, first.append second⟩
    simp only [captureAll, World.ask, undisturbed]
    simp only [undisturbed] at rested
    simp only [captured, rested, List.length_append]

theorem captureAll_failed (clock : τ → Instant × τ) {options : BackupOptions} {error : RunError}
    (failed : cluster.lookedInto options = .error error) {resources : List Resource}
    (registered : ∀ resource ∈ resources, resource ∈ cluster.resources)
    (needed : ∃ resource ∈ resources, resource.namespaced = true)
    (valid : ∀ entry ∈ resources.flatMap (cluster.planOf options []), entry.IsValid)
    {written : List Entry} {world : World (MemoryCluster × τ)} (here : world.outside.1 = cluster)
    (holds : Holds old root cluster.body written world.volume) {resolver : NamespaceResolver}
    (remembers : Remembers cluster options resolver) (now : Instant) :
    ∃ after,
      captureAll (undisturbed clock) session.lister staging now options resolver resources world =
        (.error error, after) := by
  induction resources generalizing written world resolver with
  | nil => simp at needed
  | cons resource rest ih =>
    obtain ⟨isHere, areLater⟩ := List.forall_mem_cons.mp registered
    rw [List.flatMap_cons, List.forall_mem_append] at valid
    by_cases inside : resource.namespaced = true
    · obtain ⟨next, refused⟩ := captureOne_failed staging inside failed here remembers now
      refine ⟨world, ?_⟩
      simp only [captureAll, World.ask, undisturbed]
      simp only [refused]
    · obtain ⟨more, next, between, captured, knows, first⟩ := captureOne_progress sound inScope fresh
        isHere (fun is => absurd is inside) valid.1 here holds remembers now
      have neededLater : ∃ resource ∈ rest, resource.namespaced = true := by
        simpa [inside] using needed
      obtain ⟨after, ended⟩ := ih areLater neededLater valid.2 (by rw [first.outside, here])
        first.holds knows
      refine ⟨after, ?_⟩
      simp only [captureAll, World.ask, undisturbed]
      simp only [undisturbed] at ended
      simp only [captured, ended]

end

/-! The capture as a whole. -/

theorem discoverResources_session (world : World (MemoryCluster × τ)) :
    ∃ resources after,
      discoverResources MemoryCluster.session.discoverer world = (.ok resources, after) ∧
      after.volume = world.volume ∧ after.outside = world.outside ∧ ∀ options : BackupOptions,
        (KindFilter.ofRequest options.resourceTypes).select resources =
          world.outside.1.selected options := by
  have answered : world.ask MemoryCluster.session.discoverer.discover =
      (world.outside.1.discover, world) := by
    simp only [World.ask, MemoryCluster.session_discover]
  rw [discoverResources, answered]
  by_cases down : world.outside.1.discoveryDown = true
  · simp only [MemoryCluster.discover, down, if_true, MemoryCluster.selected]
    exact ⟨[], _, rfl, rfl, rfl, fun _ => rfl⟩
  · simp only [MemoryCluster.discover, down, Bool.false_eq_true, if_false, MemoryCluster.selected]
    simp only [warn_failures]
    exact ⟨_, _, rfl, rfl, rfl, fun _ => rfl⟩

section

open MemoryCluster

variable {cluster : MemoryCluster} (sound : cluster.Sound) (inScope : cluster.Scoped)
  (fresh : IsFresh old staging root) (clock : τ → Instant × τ) {options : BackupOptions}

include sound inScope fresh

/-- A capture that knows its namespaces, or needs none, goes through its plan. -/
theorem capture_progress {names : List String}
    (looked : ∀ resource ∈ cluster.selected options, resource.namespaced = true →
      cluster.lookedInto options = .ok names)
    (valid : ∀ key, cluster.Eligible options key → key.entry.IsValid)
    {world : World (MemoryCluster × τ)} (here : world.outside.1 = cluster)
    (holds : Holds old root cluster.body [] world.volume) (now : Instant) :
    ∃ written after,
      capture (undisturbed clock) session.discoverer session.lister staging now options world =
        (.ok written.length, after) ∧
      Progress old staging root cluster.body [] (cluster.plan options names) written world after := by
  subst here
  obtain ⟨resources, between, found, sameVolume, sameOutside, all⟩ := discoverResources_session world
  have areValid : ∀ entry ∈ world.outside.1.plan options names, entry.IsValid :=
    fun entry member => valid entry.key ((mem_plan sound inScope looked).mp member)
  obtain ⟨written, after, captured, progress⟩ := captureAll_progress sound inScope fresh clock
    (fun resource is => (mem_selected.mp is).registered) looked areValid
    (congrArg Prod.fst sameOutside) (sameVolume ▸ holds) (.inl rfl) now
  refine ⟨written, after, ?_, ⟨progress.holds, progress.fewer, progress.fitting, ?_⟩⟩
  · rw [capture, found]
    simp only [all]
    exact captured
  · rw [progress.outside, sameOutside]

/-- A capture fails where it needs the namespaces and cannot know them. -/
theorem capture_failed {error : RunError} (failed : cluster.lookedInto options = .error error)
    (needed : ∃ resource ∈ cluster.selected options, resource.namespaced = true)
    (valid : ∀ key, cluster.Eligible options key → key.entry.IsValid)
    {world : World (MemoryCluster × τ)} (here : world.outside.1 = cluster)
    (holds : Holds old root cluster.body [] world.volume) (now : Instant) :
    ∃ after,
      capture (undisturbed clock) session.discoverer session.lister staging now options world =
        (.error error, after) := by
  subst here
  obtain ⟨resources, between, found, sameVolume, sameOutside, all⟩ := discoverResources_session world
  have areValid : ∀ entry ∈ (world.outside.1.selected options).flatMap
      (world.outside.1.planOf options []), entry.IsValid := by
    intro entry member
    obtain ⟨resource, isSelected, inside⟩ := List.mem_flatMap.mp member
    exact valid entry.key (eligible_of_mem_planOf sound inScope (mem_selected.mp isSelected)
      (by simp) inside)
  obtain ⟨after, ended⟩ := captureAll_failed sound inScope fresh clock failed
    (fun resource is => (mem_selected.mp is).registered) needed areValid
    (congrArg Prod.fst sameOutside) (sameVolume ▸ holds) (.inl rfl) now
  refine ⟨after, ?_⟩
  rw [capture, found]
  simp only [all]
  exact ended

end

end Engine

end ClusterArchive
