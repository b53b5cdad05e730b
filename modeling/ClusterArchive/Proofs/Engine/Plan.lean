import ClusterArchive.Engine.Backup
import ClusterArchive.Proofs.Cluster.Session
import Mathlib.Data.List.Nodup

/-! What a capture sets out to write: the entries of the objects that are listed, one resource and
one namespace after the other. An object is planned exactly if it is eligible, and only once. -/

namespace ClusterArchive

namespace ObjectKey

def entry (key : ObjectKey) : Entry := ⟨key.type, key.ns, key.name⟩

end ObjectKey

namespace Entry

def key (entry : Entry) : ObjectKey := ⟨entry.type, entry.ns, entry.name⟩

@[simp] theorem key_entry (entry : Entry) : entry.key.entry = entry := rfl

end Entry

@[simp] theorem ObjectKey.entry_key (key : ObjectKey) : key.entry.key = key := rfl

namespace MemoryCluster

/-- The objects of a type, in one namespace or in all, with their keys. -/
def held (cluster : MemoryCluster) (type : ResourceType) (ns : Option String) :
    List (ObjectKey × Document) :=
  cluster.objects.filter fun (key, _) => key.type = type && (ns.isNone || key.ns = ns)

/-- The objects that a listing shows. None are shown where listings fail. -/
def listed (cluster : MemoryCluster) (type : ResourceType) (ns : Option String) :
    List (ObjectKey × Document) :=
  if (type, ns) ∈ cluster.failingLists then [] else cluster.held type ns

/-- Every object lies in a namespace exactly if its resource says so. -/
def Scoped (cluster : MemoryCluster) : Prop :=
  ∀ key object, cluster.object? key = some object → ∀ resource ∈ cluster.resources,
    resource.type = key.type → resource.namespaced = key.ns.isSome

variable {cluster : MemoryCluster} {options : BackupOptions}

theorem resource?_of_mem {resource : Resource} (registered : resource ∈ cluster.resources) :
    ∃ first, cluster.resource? resource.type = .ok first := by
  unfold resource?
  cases found : cluster.resources.find? (·.type = resource.type) with
  | some first => exact ⟨first, rfl⟩
  | none =>
    have other := List.find?_eq_none.mp found resource registered
    simp at other

theorem list_known {type : ResourceType} {first : Resource}
    (known : cluster.resource? type = .ok first) (ns : Option String) :
    cluster.list type ns = if (type, ns) ∈ cluster.failingLists then
      .error (.api 500 ("injected list failure for " ++ type.display))
    else .ok ((cluster.held type ns).map (·.2)) := by
  by_cases failing : (type, ns) ∈ cluster.failingLists
  · simp [list, known, checkFailure, failing, bind, Except.bind]
  · simp [list, known, checkFailure, failing, held, bind, Except.bind, pure, Except.pure]

theorem list_ok {type : ResourceType} {ns : Option String} {objects : List Document}
    (shown : cluster.list type ns = .ok objects) : objects = (cluster.held type ns).map (·.2) := by
  cases known : cluster.resource? type with
  | error error => simp [list, known, bind, Except.bind] at shown
  | ok first =>
    rw [list_known known] at shown
    split at shown
    next => cases shown
    next => exact (Except.ok.inj shown).symm

/-- The namespaces that a run looks into, or why there are none. -/
def lookedInto (cluster : MemoryCluster) (options : BackupOptions) : Except RunError (List String) :=
  let resolver := NamespaceResolver.make options.includeNamespaces options.excludeNamespaces
  if resolver.included ≠ [] then .ok resolver.included
  else
    match cluster.list .namespaces none with
    | .ok objects => .ok (resolver.keep objects)
    | .error error => .error (.namespaceListing error)

def selected (cluster : MemoryCluster) (options : BackupOptions) : List Resource :=
  if cluster.discoveryDown then []
  else (KindFilter.ofRequest options.resourceTypes).select
    (cluster.resources.filter fun r => !cluster.failingGroupVersions.contains r.type.apiVersion)

def planned (cluster : MemoryCluster) (type : ResourceType) (ns : Option String) : List Entry :=
  (cluster.listed type ns).map fun (key, _) => key.entry

def places (options : BackupOptions) (names : List String) (resource : Resource) :
    List (Option String) :=
  if resource.namespaced then names.map some
  else if options.includeClusterResources then [none] else []

def planOf (cluster : MemoryCluster) (options : BackupOptions) (names : List String)
    (resource : Resource) : List Entry :=
  (places options names resource).flatMap (cluster.planned resource.type)

def plan (cluster : MemoryCluster) (options : BackupOptions) (names : List String) : List Entry :=
  (cluster.selected options).flatMap (cluster.planOf options names)

/-- Whether a capture looks into a namespace: it was asked for, or all that are stored were. -/
def LooksInto (cluster : MemoryCluster) (options : BackupOptions) (ns : String) : Prop :=
  if NamespaceResolver.normalize options.includeNamespaces = [] then
    ns ∉ NamespaceResolver.normalize options.excludeNamespaces ∧
      ∃ key : ObjectKey, (cluster.object? key).isSome ∧ key.type = .namespaces ∧ key.name = ns
  else ns ∈ NamespaceResolver.normalize options.includeNamespaces

/-- A resource that is announced, can be listed and has a kind that was asked for. -/
structure Selected (cluster : MemoryCluster) (options : BackupOptions) (resource : Resource) :
    Prop where
  registered : resource ∈ cluster.resources
  discovered : cluster.discoveryDown = false
  announced : resource.type.apiVersion ∉ cluster.failingGroupVersions
  listable : resource.isListable = true
  kind : (KindFilter.ofRequest options.resourceTypes).passes resource.kind = true

structure Eligible (cluster : MemoryCluster) (options : BackupOptions) (key : ObjectKey) : Prop where
  stored : (cluster.object? key).isSome
  resource : ∃ resource, cluster.Selected options resource ∧ resource.type = key.type
  place : match key.ns with
    | some ns => cluster.LooksInto options ns
    | none => options.includeClusterResources = true
  listed : (key.type, key.ns) ∉ cluster.failingLists

theorem mem_selected {resource : Resource} :
    resource ∈ cluster.selected options ↔ cluster.Selected options resource := by
  unfold selected
  by_cases down : cluster.discoveryDown = true
  · simp only [down, if_true, List.not_mem_nil, false_iff]
    intro is
    rw [is.discovered] at down
    cases down
  · simp only [down, Bool.false_eq_true, if_false, KindFilter.select, List.mem_filter,
      Bool.and_eq_true]
    constructor
    · rintro ⟨⟨registered, announced⟩, listable, kind⟩
      exact ⟨registered, by simpa using down, by simpa using announced, listable, kind⟩
    · intro is
      exact ⟨⟨is.registered, by simpa using is.announced⟩, is.listable, is.kind⟩

theorem mem_held (sound : cluster.Sound) {type : ResourceType} {ns : Option String}
    {key : ObjectKey} {object : Document} : (key, object) ∈ cluster.held type ns ↔
      cluster.object? key = some object ∧ key.type = type ∧ (ns = none ∨ key.ns = ns) := by
  simp [held, sound.ascending.mem_iff, object?]

/-- A listing shows the objects of its place; outside of namespaces no object has one. -/
theorem mem_listed (sound : cluster.Sound) (inScope : cluster.Scoped) {resource : Resource}
    (registered : resource ∈ cluster.resources) {ns : Option String}
    (scope : resource.namespaced = ns.isSome) {key : ObjectKey} {object : Document} :
    (key, object) ∈ cluster.listed resource.type ns ↔
      cluster.object? key = some object ∧ key.type = resource.type ∧ key.ns = ns ∧
        (resource.type, ns) ∉ cluster.failingLists := by
  unfold listed
  split
  next failing => simp [failing]
  next fine =>
    rw [mem_held sound]
    constructor
    · rintro ⟨found, isType, isIn⟩
      refine ⟨found, isType, ?_, fine⟩
      rcases isIn with rfl | same
      · have outside := inScope key object found resource registered isType.symm
        rw [scope] at outside
        exact Option.isNone_iff_eq_none.mp (by simpa using outside.symm)
      · exact same
    · rintro ⟨found, isType, same, _⟩
      exact ⟨found, isType, .inr same⟩

theorem eraseDups_eq_nil {texts : List String} : texts.eraseDups = [] ↔ texts = [] := by
  cases texts <;> simp [List.eraseDups_cons]

/-- The names that a run looks into are those it is told to look into. -/
theorem mem_lookedInto (sound : cluster.Sound) {names : List String}
    (looked : cluster.lookedInto options = .ok names) (ns : String) :
    ns ∈ names ↔ cluster.LooksInto options ns := by
  unfold lookedInto at looked
  unfold LooksInto
  by_cases all : NamespaceResolver.normalize options.includeNamespaces = []
  · simp only [NamespaceResolver.make, all, List.eraseDups_nil, ne_eq, not_true_eq_false,
      if_false] at looked
    cases shown : cluster.list .namespaces none with
    | error error => simp [shown] at looked
    | ok objects =>
      simp only [shown, Except.ok.injEq] at looked
      obtain rfl := looked
      obtain rfl := list_ok shown
      simp only [NamespaceResolver.keep, all, if_true, List.mem_filter, List.mem_filterMap,
        List.mem_map, Bool.not_eq_true', List.contains_eq_mem, decide_eq_false_iff_not]
      rw [and_comm]
      refine and_congr_right fun _ => ⟨?_, ?_⟩
      · rintro ⟨_, ⟨⟨key, object⟩, member, rfl⟩, named⟩
        obtain ⟨found, isType, _⟩ := (mem_held sound).mp member
        have same := (sound.stored key object found).named
        exact ⟨key, by simp [found], isType, Option.some.inj (same.symm.trans named)⟩
      · rintro ⟨key, stored, isType, rfl⟩
        obtain ⟨object, found⟩ := Option.isSome_iff_exists.mp stored
        exact ⟨object, ⟨(key, object), (mem_held sound).mpr ⟨found, isType, .inl rfl⟩, rfl⟩,
          (sound.stored key object found).named⟩
  · simp only [NamespaceResolver.make, ne_eq, eraseDups_eq_nil, all, not_false_eq_true, if_true,
      Except.ok.injEq] at looked
    subst looked
    simp [all]

theorem mem_places {names : List String} {resource : Resource} {place : Option String} :
    place ∈ places options names resource ↔ resource.namespaced = place.isSome ∧
      match place with
      | some ns => ns ∈ names
      | none => options.includeClusterResources = true := by
  unfold places
  cases inside : resource.namespaced <;> cases place <;> simp

theorem eligible_of_mem_planOf (sound : cluster.Sound) (inScope : cluster.Scoped)
    {names : List String} {resource : Resource} (is : cluster.Selected options resource)
    (into : resource.namespaced = true → ∀ ns ∈ names, cluster.LooksInto options ns) {entry : Entry}
    (member : entry ∈ cluster.planOf options names resource) :
    cluster.Eligible options entry.key := by
  simp only [planOf, List.mem_flatMap, planned, List.mem_map] at member
  obtain ⟨place, isPlace, ⟨key, object⟩, shown, rfl⟩ := member
  obtain ⟨scope, there⟩ := mem_places.mp isPlace
  obtain ⟨found, isType, rfl, fine⟩ := (mem_listed sound inScope is.registered scope).mp shown
  refine ⟨by simp [found], ⟨resource, is, isType.symm⟩, ?_, by simpa [isType] using fine⟩
  simp only [ObjectKey.entry_key]
  cases isNs : key.ns with
  | none => simpa [isNs] using there
  | some ns => exact into (by simp [scope, isNs]) ns (by simpa [isNs] using there)

/-- An entry is planned exactly if its object is eligible. -/
theorem mem_plan (sound : cluster.Sound) (inScope : cluster.Scoped) {names : List String}
    (looked : ∀ resource ∈ cluster.selected options, resource.namespaced = true →
      cluster.lookedInto options = .ok names) {entry : Entry} :
    entry ∈ cluster.plan options names ↔ cluster.Eligible options entry.key := by
  constructor
  · intro member
    obtain ⟨resource, isSelected, inside⟩ := List.mem_flatMap.mp member
    refine eligible_of_mem_planOf sound inScope (mem_selected.mp isSelected) ?_ inside
    intro namespaced ns isName
    exact (mem_lookedInto sound (looked resource isSelected namespaced) ns).mp isName
  · rintro ⟨stored, ⟨resource, is, isType⟩, place, fine⟩
    obtain ⟨object, found⟩ := Option.isSome_iff_exists.mp stored
    have scope : resource.namespaced = entry.key.ns.isSome :=
      inScope entry.key object found resource is.registered isType
    have shown := (mem_listed sound inScope is.registered scope).mpr
      ⟨found, isType.symm, rfl, by rwa [isType]⟩
    have planned : entry ∈ cluster.planned resource.type entry.key.ns :=
      List.mem_map.mpr ⟨(entry.key, object), shown, rfl⟩
    refine List.mem_flatMap.mpr ⟨resource, mem_selected.mpr is,
      List.mem_flatMap.mpr ⟨entry.key.ns, mem_places.mpr ⟨scope, ?_⟩, planned⟩⟩
    cases isNs : entry.key.ns with
    | none => simpa [isNs] using place
    | some ns =>
      have inside : resource.namespaced = true := by simp [scope, isNs]
      apply (mem_lookedInto sound (looked resource (mem_selected.mpr is) inside) ns).mpr
      simpa [isNs] using place

/-! No entry is planned twice. -/

def DistinctNamespaces (cluster : MemoryCluster) : Prop :=
  ∀ key other : ObjectKey, (cluster.object? key).isSome → (cluster.object? other).isSome →
    key.type = .namespaces → other.type = .namespaces → key.name = other.name → key = other

theorem nodup_eraseDups (texts : List String) : texts.eraseDups.Nodup := by
  induction h : texts.length using Nat.strongRecOn generalizing texts with
  | ind length ih =>
    cases texts with
    | nil => simp
    | cons text rest =>
      rw [List.eraseDups_cons, List.nodup_cons]
      have fewer : (rest.filter fun other => !other == text).length < length := by
        have := List.length_filter_le (fun other => !other == text) rest
        simp only [List.length_cons] at h
        omega
      exact ⟨by simp, ih _ fewer _ rfl⟩

theorem nodup_flatMap_of_tags {α β γ : Type} {parts : List α} {part : α → List β} (tag : β → γ)
    (tagOf : α → γ) (distinct : (parts.map tagOf).Nodup)
    (each : ∀ a ∈ parts, (part a).Nodup ∧ ∀ b ∈ part a, tag b = tagOf a) :
    (parts.flatMap part).Nodup := by
  refine List.nodup_flatMap.mpr ⟨fun a member => (each a member).1, ?_⟩
  have apart := List.pairwise_map.mp distinct
  refine apart.imp_of_mem fun {a b} isA isB differ => List.disjoint_left.mpr ?_
  intro x inA inB
  exact differ (((each a isA).2 x inA).symm.trans ((each b isB).2 x inB))

theorem nodup_held (sound : cluster.Sound) (type : ResourceType) (ns : Option String) :
    ((cluster.held type ns).map (·.1)).Nodup :=
  sound.ascending.nodup_keys.sublist (List.filter_sublist.map _)

theorem nodup_planned (sound : cluster.Sound) (type : ResourceType) (ns : Option String) :
    (cluster.planned type ns).Nodup := by
  have keys : ((cluster.listed type ns).map (·.1)).Nodup := by
    unfold listed
    split
    next => simp
    next => exact nodup_held sound type ns
  have all : cluster.planned type ns = ((cluster.listed type ns).map (·.1)).map ObjectKey.entry := by
    simp [planned]
  rw [all]
  apply keys.map
  intro key other same
  rw [← key.entry_key, same, other.entry_key]

theorem filterMap_name?_held (sound : cluster.Sound) (type : ResourceType) (ns : Option String) :
    ((cluster.held type ns).map (·.2)).filterMap Document.name? =
      ((cluster.held type ns).map (·.1)).map ObjectKey.name := by
  rw [List.filterMap_map, List.map_map, ← List.filterMap_eq_map]
  apply List.filterMap_congr
  intro pair member
  obtain ⟨found, _⟩ := (mem_held sound).mp member
  exact (sound.stored _ _ found).named

/-- No namespace is looked into twice, by a run that knows them or by one that needs none. -/
theorem nodup_lookedInto (sound : cluster.Sound) (distinct : cluster.DistinctNamespaces)
    {names : List String} (known : cluster.lookedInto options = .ok names ∨ names = []) :
    names.Nodup := by
  rcases known with looked | rfl
  · unfold lookedInto at looked
    simp only [] at looked
    split at looked
    next =>
      obtain rfl := Except.ok.inj looked
      exact nodup_eraseDups _
    next =>
      split at looked
      next objects shown =>
        obtain rfl := Except.ok.inj looked
        obtain rfl := list_ok shown
        refine List.Nodup.filter _ ?_
        rw [filterMap_name?_held sound]
        refine List.Nodup.map_on (fun key isKey other isOther same => ?_)
          (nodup_held sound .namespaces none)
        obtain ⟨⟨_, object⟩, member, rfl⟩ := List.mem_map.mp isKey
        obtain ⟨⟨_, object'⟩, member', rfl⟩ := List.mem_map.mp isOther
        obtain ⟨found, isType, _⟩ := (mem_held sound).mp member
        obtain ⟨found', isType', _⟩ := (mem_held sound).mp member'
        exact distinct _ _ (by simp [found]) (by simp [found']) isType isType' same
      next => cases looked
  · exact List.nodup_nil

theorem nodup_plan (sound : cluster.Sound) (inScope : cluster.Scoped)
    (once : (cluster.resources.map (·.type)).Nodup) {names : List String} (distinct : names.Nodup) :
    (cluster.plan options names).Nodup := by
  have place (resource : Resource) (isSelected : resource ∈ cluster.selected options)
      (ns : Option String) (isPlace : ns ∈ places options names resource) :
      ∀ entry ∈ cluster.planned resource.type ns, entry.type = resource.type ∧ entry.ns = ns := by
    intro entry member
    obtain ⟨⟨key, object⟩, shown, rfl⟩ := List.mem_map.mp member
    obtain ⟨_, isType, isIn, _⟩ := (mem_listed sound inScope (mem_selected.mp isSelected).registered
      (mem_places.mp isPlace).1).mp shown
    exact ⟨isType, isIn⟩
  have types : ((cluster.selected options).map (·.type)).Nodup := by
    unfold selected
    split
    next => simp
    next =>
      exact once.sublist ((List.filter_sublist.trans List.filter_sublist).map _)
  refine nodup_flatMap_of_tags (·.type) (·.type) types fun resource isSelected => ⟨?_, ?_⟩
  · refine nodup_flatMap_of_tags (·.ns) id ?_ fun ns isPlace =>
      ⟨nodup_planned sound _ _, fun entry member => (place resource isSelected ns isPlace entry member).2⟩
    rw [List.map_id]
    unfold places
    split
    next => exact distinct.map fun _ _ => Option.some.inj
    next => split <;> simp
  · intro entry member
    obtain ⟨ns, isPlace, inside⟩ := List.mem_flatMap.mp member
    exact (place resource isSelected ns isPlace entry inside).1

end MemoryCluster

end ClusterArchive
