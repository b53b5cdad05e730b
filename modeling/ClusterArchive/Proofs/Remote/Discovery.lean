import ClusterArchive.Remote.Client
import Mathlib.Data.List.Nodup
import Mathlib.Logic.Basic

/-! What a discovery tells of a server, whatever the server answers. Each request is recorded with its
answer. Every request that fails is reported once, every group is asked for once, and what a group is
answered with decides its own part of the report alone. -/

namespace ClusterArchive.Discovery

inductive Ask
  | coreVersions (answer : Except ExchangeFailure (List String))
  | coreResources (version : String) (answer : Except ExchangeFailure (List ListedResource))
  | groups (answer : Except ExchangeFailure (List ApiGroup))
  | groupResources (text : String) (answer : Except ExchangeFailure (List ListedResource))

namespace Ask

def failure? : Ask → Option DiscoveryFailure
  | coreVersions (.error failure) => some ⟨"v1", failure.toError "" ""⟩
  | coreResources version (.error failure) => some ⟨version, failure.toError "" ""⟩
  | groups (.error failure) => some ⟨"apis", failure.toError "" ""⟩
  | groupResources text (.error failure) => some ⟨text, failure.toError "" ""⟩
  | _ => none

def isOnGroup : Ask → Bool
  | groupResources .. => true
  | _ => false

end Ask

variable {σ τ α : Type}

def noting (ask : Except ExchangeFailure α → Ask) (inquiry : Inquiry σ α) :
    Inquiry (σ × List Ask) α := fun s =>
  let (answer, next) := inquiry s.1
  (answer, next, s.2 ++ [ask answer])

def Catalogue.recorded (catalogue : Catalogue σ) : Catalogue (σ × List Ask) where
  coreVersions := noting .coreVersions catalogue.coreVersions
  coreResources version := noting (.coreResources version) (catalogue.coreResources version)
  groups := noting .groups catalogue.groups
  groupResources text := noting (.groupResources text) (catalogue.groupResources text)

/-- What an answer lists; nothing if it is a failure. -/
def listed : Except ExchangeFailure (List α) → List α
  | .ok all => all
  | .error _ => []

/-- A group that was asked for, in a version of it. -/
structure Visit where
  group : ApiGroup
  chosen : GroupVersion
  answer : Except ExchangeFailure (List ListedResource)

namespace Visit

def ask (visit : Visit) : Ask := .groupResources visit.chosen.text visit.answer

def resources (visit : Visit) : List Resource :=
  (listed visit.answer).map (·.under visit.group.name visit.chosen.version)

/-- A group is asked for in the version that it prefers, or else in its first. -/
def IsPreferred (visit : Visit) : Prop :=
  visit.group.preferred = some visit.chosen ∨
    visit.group.preferred = none ∧ visit.group.versions.head? = some visit.chosen

/-- The group is told by its resources, and is not among the failures. -/
def IsListed (visit : Visit) : Prop :=
  ∃ all, visit.answer = .ok all ∧
    visit.resources = all.map (·.under visit.group.name visit.chosen.version) ∧
    visit.ask.failure? = none

/-- The group is among the failures, and nothing else is told of it. -/
def IsMissed (visit : Visit) : Prop :=
  ∃ failure, visit.answer = .error failure ∧ visit.resources = [] ∧
    visit.ask.failure? = some ⟨visit.chosen.text, failure.toError "" ""⟩

end Visit

def ApiGroup.hasVersion (group : ApiGroup) : Bool := group.preferred.isSome || !group.versions.isEmpty

theorem chosen?_cases (group : ApiGroup) :
    group.chosen? = none ∧ group.hasVersion = false ∨
    ∃ chosen, group.chosen? = some chosen ∧ group.hasVersion = true ∧
      ∀ answer, Visit.IsPreferred ⟨group, chosen, answer⟩ := by
  obtain ⟨name, preferred, versions⟩ := group
  cases preferred with
  | some chosen => exact .inr ⟨chosen, rfl, rfl, fun _ => .inl rfl⟩
  | none =>
    cases versions with
    | nil => exact .inl ⟨rfl, rfl⟩
    | cons first rest => exact .inr ⟨first, rfl, rfl, fun _ => .inr ⟨rfl, rfl⟩⟩

/-- The answers to a discovery. The resources of the core group are asked for if its versions are
known. -/
structure Survey where
  versions : Except ExchangeFailure (List String)
  core : Except ExchangeFailure (List ListedResource)
  groups : Except ExchangeFailure (List ApiGroup)
  visits : List Visit

namespace Survey

def coreVersion (versions : List String) : String := versions.head?.getD "v1"

def coreAsks (survey : Survey) : List Ask :=
  .coreVersions survey.versions :: match survey.versions with
    | .ok versions => [.coreResources (coreVersion versions) survey.core]
    | .error _ => []

def coreResources (survey : Survey) : List Resource :=
  match survey.versions with
  | .ok versions => (listed survey.core).map (·.under "" (coreVersion versions))
  | .error _ => []

def firstAsks (survey : Survey) : List Ask := survey.coreAsks ++ [.groups survey.groups]

def asks (survey : Survey) : List Ask := survey.firstAsks ++ survey.visits.map Visit.ask

end Survey

def toldOf (visits : List Visit) : DiscoveryReport :=
  ⟨visits.flatMap Visit.resources, (visits.map Visit.ask).filterMap Ask.failure?⟩

theorem append_toldOf (visit : Visit) (rest : List Visit) :
    append (report visit.chosen.text visit.group.name visit.chosen.version visit.answer)
      (toldOf rest) = toldOf (visit :: rest) := by
  obtain ⟨group, chosen, answer⟩ := visit
  cases answer <;> rfl

theorem core_recorded (catalogue : Catalogue σ) (s : σ) :
    ∃ versions answer next, ∀ groups visits,
      let survey : Survey := ⟨versions, answer, groups, visits⟩
      let told : DiscoveryReport := ⟨survey.coreResources, survey.coreAsks.filterMap Ask.failure?⟩
      core catalogue s = (told, next) ∧
        core catalogue.recorded (s, []) = (told, next, survey.coreAsks) := by
  rcases asked : catalogue.coreVersions s with ⟨versions, between⟩
  cases versions with
  | error failure =>
    refine ⟨.error failure, .error failure, between, fun groups visits => ⟨?_, ?_⟩⟩
    · simp only [core, asked]
      rfl
    · simp only [core, Catalogue.recorded, noting, asked]
      rfl
  | ok versions =>
    have version : versions.head?.getD "v1" = Survey.coreVersion versions := rfl
    rcases askedThen : catalogue.coreResources (Survey.coreVersion versions) between with
      ⟨answer, next⟩
    refine ⟨.ok versions, answer, next, fun groups visits => ⟨?_, ?_⟩⟩
    · simp only [core, asked, version, askedThen]
      cases answer <;> rfl
    · simp only [core, Catalogue.recorded, noting, asked, version, askedThen]
      cases answer <;> rfl

theorem groups_recorded (catalogue : Catalogue σ) (found : List ApiGroup) (s : σ) (log : List Ask) :
    ∃ (visits : List Visit) (next : σ),
      visits.map Visit.group = found.filter ApiGroup.hasVersion ∧
      (∀ visit ∈ visits, visit.IsPreferred) ∧
      groups catalogue found s = (toldOf visits, next) ∧
      groups catalogue.recorded found (s, log) =
        (toldOf visits, next, log ++ visits.map Visit.ask) := by
  induction found generalizing s log with
  | nil => exact ⟨[], s, rfl, by simp, rfl, by rw [List.map_nil, List.append_nil]; rfl⟩
  | cons group rest ih =>
    rcases chosen?_cases group with ⟨none_, without⟩ | ⟨chosen, is, with_, preferred⟩
    · obtain ⟨visits, next, order, chosen, plain, recorded⟩ := ih s log
      refine ⟨visits, next, ?_, chosen, ?_, ?_⟩
      · simpa [without] using order
      · simpa only [groups, none_] using plain
      · simpa only [groups, none_] using recorded
    · rcases asked : catalogue.groupResources chosen.text s with ⟨answer, between⟩
      have askedRecorded : catalogue.recorded.groupResources chosen.text (s, log) =
          (answer, between, log ++ [.groupResources chosen.text answer]) := by
        simp [Catalogue.recorded, noting, asked]
      obtain ⟨visits, next, order, preferredRest, plain, recorded⟩ :=
        ih between (log ++ [.groupResources chosen.text answer])
      have first := append_toldOf ⟨group, chosen, answer⟩ visits
      refine ⟨⟨group, chosen, answer⟩ :: visits, next, ?_, ?_, ?_, ?_⟩
      · simpa [with_] using order
      · exact List.forall_mem_cons.mpr ⟨preferred answer, preferredRest⟩
      · simp only [groups, is, asked, plain, first]
      · simp only [groups, is, askedRecorded, recorded, first, List.map_cons, Visit.ask,
          List.append_assoc, List.singleton_append]

namespace Survey

/-- No two groups have the same name, and none has that of the core group. -/
def NamesApart (survey : Survey) : Prop :=
  ((listed survey.groups).map ApiGroup.name).Nodup ∧ "" ∉ (listed survey.groups).map ApiGroup.name

end Survey

/-- What a discovery reports, told from the answers that it got. -/
structure Covers (survey : Survey) (report : DiscoveryReport) : Prop where
  order : survey.visits.map Visit.group = (listed survey.groups).filter ApiGroup.hasVersion
  preferred : ∀ visit ∈ survey.visits, visit.IsPreferred
  resources : report.resources = survey.coreResources ++ survey.visits.flatMap Visit.resources
  failures : report.failures = survey.asks.filterMap Ask.failure?
  exactlyOnce : ∀ visit ∈ survey.visits, Xor visit.IsListed visit.IsMissed
  /-- The resources under its name are those that it was answered with. -/
  own : survey.NamesApart → ∀ visit ∈ survey.visits,
    report.resources.filter (·.type.group = visit.group.name) = visit.resources
  uniform : survey.NamesApart → ∀ a ∈ report.resources, ∀ b ∈ report.resources,
    a.type.group = b.type.group → a.type.version = b.type.version

theorem Visit.listed_xor_missed (visit : Visit) : Xor visit.IsListed visit.IsMissed := by
  obtain ⟨group, chosen, answer⟩ := visit
  cases answer with
  | ok all => exact .inl ⟨⟨all, rfl, rfl, rfl⟩, by simp [IsMissed]⟩
  | error failure => exact .inr ⟨⟨failure, rfl, rfl, rfl⟩, by simp [IsListed]⟩

theorem Visit.type_of_mem {visit : Visit} {resource : Resource} (mem : resource ∈ visit.resources) :
    resource.type.group = visit.group.name ∧ resource.type.version = visit.chosen.version := by
  obtain ⟨listed, -, rfl⟩ := List.mem_map.mp mem
  exact ⟨rfl, rfl⟩

theorem Survey.type_of_mem_core (survey : Survey) :
    ∃ version, ∀ resource ∈ survey.coreResources,
      resource.type.group = "" ∧ resource.type.version = version := by
  obtain ⟨versions, core, groups, visits⟩ := survey
  cases versions with
  | error failure => exact ⟨"", by simp [coreResources]⟩
  | ok versions =>
    refine ⟨coreVersion versions, fun resource mem => ?_⟩
    obtain ⟨listed, -, rfl⟩ := List.mem_map.mp mem
    exact ⟨rfl, rfl⟩

section Names

variable {survey : Survey}
  (order : survey.visits.map Visit.group = (listed survey.groups).filter ApiGroup.hasVersion)
  (apart : survey.NamesApart)

include order

theorem visitNames_sublist :
    (survey.visits.map (·.group.name)).Sublist ((listed survey.groups).map ApiGroup.name) := by
  have names : survey.visits.map (·.group.name) = (survey.visits.map Visit.group).map ApiGroup.name :=
    List.map_map.symm
  rw [names, order]
  exact List.filter_sublist.map _

include apart

theorem visitNames_nodup : (survey.visits.map (·.group.name)).Nodup :=
  apart.1.sublist (visitNames_sublist order)

theorem visitName_ne {visit : Visit} (mem : visit ∈ survey.visits) : visit.group.name ≠ "" := by
  intro empty
  have named := List.mem_map_of_mem (f := fun visit : Visit => visit.group.name) mem
  exact apart.2 (empty ▸ (visitNames_sublist order).subset named)

theorem own_resources {visit : Visit} (mem : visit ∈ survey.visits) :
    (survey.coreResources ++ survey.visits.flatMap Visit.resources).filter
      (·.type.group = visit.group.name) = visit.resources := by
  obtain ⟨version, core⟩ := survey.type_of_mem_core
  have named := visitName_ne order apart mem
  have distinct := visitNames_nodup order apart
  obtain ⟨before, after, split⟩ := List.append_of_mem mem
  rw [split, List.map_append, List.map_cons, List.nodup_append, List.nodup_cons] at distinct
  obtain ⟨-, ⟨notAfter, -⟩, notBefore⟩ := distinct
  have others : ∀ some : List Visit, visit.group.name ∉ some.map (·.group.name) →
      (some.flatMap Visit.resources).filter (·.type.group = visit.group.name) = [] := by
    intro some absent
    simp only [List.filter_eq_nil_iff, decide_eq_true_eq, List.mem_flatMap]
    rintro resource ⟨other, otherMem, listed⟩ same
    exact absent (List.mem_map.mpr ⟨other, otherMem, (Visit.type_of_mem listed).1.symm.trans same⟩)
  have coreNone : survey.coreResources.filter (·.type.group = visit.group.name) = [] := by
    simp only [List.filter_eq_nil_iff, decide_eq_true_eq]
    exact fun resource listed same => named (same.symm.trans (core resource listed).1)
  have all : visit.resources.filter (·.type.group = visit.group.name) = visit.resources := by
    simp only [List.filter_eq_self, decide_eq_true_eq]
    exact fun resource listed => (Visit.type_of_mem listed).1
  rw [split, List.flatMap_append, List.flatMap_cons, List.filter_append, List.filter_append,
    List.filter_append, coreNone, all, others before fun mem => notBefore _ mem _ (by simp) rfl,
    others after notAfter]
  simp

theorem uniform_versions {a b : Resource}
    (memA : a ∈ survey.coreResources ++ survey.visits.flatMap Visit.resources)
    (memB : b ∈ survey.coreResources ++ survey.visits.flatMap Visit.resources)
    (same : a.type.group = b.type.group) : a.type.version = b.type.version := by
  obtain ⟨version, core⟩ := survey.type_of_mem_core
  simp only [List.mem_append, List.mem_flatMap] at memA memB
  rcases memA with coreA | ⟨visitA, visitedA, listedA⟩ <;>
    rcases memB with coreB | ⟨visitB, visitedB, listedB⟩
  · exact (core a coreA).2.trans (core b coreB).2.symm
  · have named := visitName_ne order apart visitedB
    exact absurd ((Visit.type_of_mem listedB).1.symm.trans (same.symm.trans (core a coreA).1)) named
  · have named := visitName_ne order apart visitedA
    exact absurd ((Visit.type_of_mem listedA).1.symm.trans (same.trans (core b coreB).1)) named
  · have sameName : visitA.group.name = visitB.group.name :=
      (Visit.type_of_mem listedA).1.symm.trans (same.trans (Visit.type_of_mem listedB).1)
    have sameVisit := List.inj_on_of_nodup_map (visitNames_nodup order apart) visitedA visitedB sameName
    rw [(Visit.type_of_mem listedA).2, (Visit.type_of_mem listedB).2, sameVisit]

end Names

theorem covers_told {survey : Survey}
    (order : survey.visits.map Visit.group = (listed survey.groups).filter ApiGroup.hasVersion)
    (preferred : ∀ visit ∈ survey.visits, visit.IsPreferred) :
    Covers survey ⟨survey.coreResources ++ survey.visits.flatMap Visit.resources,
      survey.asks.filterMap Ask.failure?⟩ where
  order := order
  preferred := preferred
  resources := rfl
  failures := rfl
  exactlyOnce visit _ := visit.listed_xor_missed
  own apart _ mem := own_resources order apart mem
  uniform apart _ memA _ memB same := uniform_versions order apart memA memB same

/-- Discovery asks for each group once, and reports what its requests were answered with. -/
theorem discover_recorded (catalogue : Catalogue σ) (s : σ) :
    ∃ survey report next, Covers survey report ∧
      discover catalogue s = (.ok report, next) ∧
      discover catalogue.recorded (s, []) = (.ok report, next, survey.asks) := by
  obtain ⟨versions, core, between, told⟩ := core_recorded catalogue s
  rcases asked : catalogue.groups between with ⟨found, later⟩
  have askedRecorded : ∀ log, catalogue.recorded.groups (between, log) =
      (found, later, log ++ [.groups found]) := by
    simp [Catalogue.recorded, noting, asked]
  cases found with
  | error failure =>
    let survey : Survey := ⟨versions, core, .error failure, []⟩
    obtain ⟨plain, recorded⟩ := told survey.groups survey.visits
    have whole : append ⟨survey.coreResources, survey.coreAsks.filterMap Ask.failure?⟩
        (failed "apis" failure) = ⟨survey.coreResources ++ survey.visits.flatMap Visit.resources,
          survey.asks.filterMap Ask.failure?⟩ := by
      simp [survey, Survey.asks, Survey.firstAsks, append, failed, Ask.failure?]
    refine ⟨survey, _, later, covers_told rfl (List.forall_mem_nil _), ?_, ?_⟩
    · simp only [discover, plain, asked, survey, whole]
    · simp only [discover, recorded, askedRecorded, survey, whole]
      simp [Survey.asks, Survey.firstAsks]
  | ok found =>
    obtain ⟨visits, last, order, preferred, plainGroups, recordedGroups⟩ :=
      groups_recorded catalogue found later
        ((Survey.mk versions core (.ok found) []).coreAsks ++ [.groups (.ok found)])
    let survey : Survey := ⟨versions, core, .ok found, visits⟩
    obtain ⟨plain, recorded⟩ := told survey.groups survey.visits
    have whole : append ⟨survey.coreResources, survey.coreAsks.filterMap Ask.failure?⟩
        (toldOf visits) = ⟨survey.coreResources ++ survey.visits.flatMap Visit.resources,
          survey.asks.filterMap Ask.failure?⟩ := by
      simp [survey, Survey.asks, Survey.firstAsks, append, toldOf, List.filterMap_cons, Ask.failure?]
    -- what is asked before the groups does not depend on which groups follow
    have recordedGroups : groups catalogue.recorded found
        (later, survey.coreAsks ++ [.groups (.ok found)]) = (toldOf visits, last, survey.asks) :=
      recordedGroups
    refine ⟨survey, _, last, covers_told order preferred, ?_, ?_⟩
    · simp only [discover, plain, asked, plainGroups, survey, whole]
    · simp only [discover, recorded, askedRecorded]
      simp only [survey] at recordedGroups
      simp only [recordedGroups, survey, whole]

/-! Two discoveries that are answered alike, but for one group. -/

theorem Visit.IsPreferred.chosen? {visit : Visit} (preferred : visit.IsPreferred) :
    visit.group.chosen? = some visit.chosen := by
  rcases preferred with preferred | ⟨none_, first⟩
  · simp [ApiGroup.chosen?, preferred]
  · simp [ApiGroup.chosen?, none_, first]

theorem Visit.eq_of_ask {a b : Visit} (preferredA : a.IsPreferred) (preferredB : b.IsPreferred)
    (group : a.group = b.group) (ask : a.ask = b.ask) : a = b := by
  have chosen : a.chosen = b.chosen :=
    Option.some.inj (preferredA.chosen?.symm.trans (group ▸ preferredB.chosen?))
  have answer : a.answer = b.answer := (Ask.groupResources.inj ask).2
  obtain ⟨_, _, _⟩ := a
  obtain ⟨_, _, _⟩ := b
  simp only at group chosen answer
  rw [group, chosen, answer]

/-- The groups that are asked for, and what they are answered with, settle the visits. -/
theorem visits_unique {a b : List Visit} (groups : a.map Visit.group = b.map Visit.group)
    (asks : a.map Visit.ask = b.map Visit.ask) (preferredA : ∀ visit ∈ a, visit.IsPreferred)
    (preferredB : ∀ visit ∈ b, visit.IsPreferred) : a = b := by
  induction a generalizing b with
  | nil => exact (List.map_eq_nil_iff.mp groups.symm).symm
  | cons first rest ih =>
    cases b with
    | nil => simp at groups
    | cons firstB restB =>
      simp only [List.map_cons, List.cons.injEq] at groups asks
      rw [List.forall_mem_cons] at preferredA preferredB
      rw [Visit.eq_of_ask preferredA.1 preferredB.1 groups.1 asks.1,
        ih groups.2 asks.2 preferredA.2 preferredB.2]

namespace Survey

theorem not_onGroup (survey : Survey) : ∀ ask ∈ survey.firstAsks, ask.isOnGroup = false := by
  obtain ⟨versions, core, groups, visits⟩ := survey
  cases versions <;> simp [firstAsks, coreAsks, Ask.isOnGroup]

theorem filter_not_onGroup (survey : Survey) :
    survey.asks.filter (!·.isOnGroup) = survey.firstAsks := by
  have first : survey.firstAsks.filter (!·.isOnGroup) = survey.firstAsks := by
    simpa using survey.not_onGroup
  have visits : (survey.visits.map Visit.ask).filter (!·.isOnGroup) = [] := by
    simp [Visit.ask, Ask.isOnGroup]
  rw [asks, List.filter_append, first, visits, List.append_nil]

theorem filter_onGroup (survey : Survey) :
    survey.asks.filter Ask.isOnGroup = survey.visits.map Visit.ask := by
  have first : survey.firstAsks.filter Ask.isOnGroup = [] := by
    simpa using survey.not_onGroup
  rw [asks, List.filter_append, first, List.nil_append, List.filter_eq_self]
  simp [Visit.ask, Ask.isOnGroup]

/-- What is asked before any group, with its answers, settles what is told of the core group, and
which groups there are. -/
theorem firstAsks_inj {a b : Survey} (same : a.firstAsks = b.firstAsks) :
    a.coreResources = b.coreResources ∧ a.groups = b.groups := by
  obtain ⟨core, groups⟩ := List.append_inj' same rfl
  refine ⟨?_, by simpa using groups⟩
  obtain ⟨versionsA, coreA, groupsA, visitsA⟩ := a
  obtain ⟨versionsB, coreB, groupsB, visitsB⟩ := b
  cases versionsA <;> cases versionsB <;> simp_all [coreAsks, coreResources]

end Survey

/-- What is told of one group stands between what is told before and behind it. -/
theorem Covers.report_eq {survey : Survey} {told : DiscoveryReport} (covers : Covers survey told)
    {before after : List Visit} {visit : Visit} (split : survey.visits = before ++ visit :: after) :
    told = append ⟨survey.coreResources ++ before.flatMap Visit.resources,
        (survey.firstAsks ++ before.map Visit.ask).filterMap Ask.failure?⟩
      (append (report visit.chosen.text visit.group.name visit.chosen.version visit.answer)
        (toldOf after)) := by
  have resources := covers.resources
  have failures := covers.failures
  obtain ⟨toldResources, toldFailures⟩ := told
  simp only at resources failures
  rw [append_toldOf, resources, failures]
  simp only [append, toldOf, Survey.asks, split, List.flatMap_append, List.map_append,
    List.filterMap_append, List.append_assoc]

/-- A request for a group is that of a visit, with the others before and behind it. -/
theorem Survey.visit_of_asks {survey : Survey} {front back : List Ask} {text : String}
    {answer : Except ExchangeFailure (List ListedResource)}
    (asks : survey.asks = front ++ .groupResources text answer :: back) :
    ∃ before visit after, survey.visits = before ++ visit :: after ∧
      before.map Visit.ask = front.filter Ask.isOnGroup ∧
      visit.ask = .groupResources text answer ∧
      after.map Visit.ask = back.filter Ask.isOnGroup := by
  have onGroups := survey.filter_onGroup
  rw [asks, List.filter_append, List.filter_cons_of_pos rfl, eq_comm, List.map_eq_append_iff]
    at onGroups
  obtain ⟨before, rest, split, beforeAsks, restAsks⟩ := onGroups
  obtain ⟨visit, after, rfl, ask, afterAsks⟩ := List.map_eq_cons_iff.mp restAsks
  exact ⟨before, visit, after, split, beforeAsks, ask, afterAsks⟩

/-- The answer to one group decides what is told of this group, and nothing else. -/
theorem Covers.isolated {a b : Survey} {toldA toldB : DiscoveryReport} (coversA : Covers a toldA)
    (coversB : Covers b toldB) {front back : List Ask} {text : String}
    {answerA answerB : Except ExchangeFailure (List ListedResource)}
    (asksA : a.asks = front ++ .groupResources text answerA :: back)
    (asksB : b.asks = front ++ .groupResources text answerB :: back) :
    ∃ before group version after,
      toldA = append before (append (report text group version answerA) after) ∧
      toldB = append before (append (report text group version answerB) after) := by
  have first : a.firstAsks = b.firstAsks := by
    rw [← a.filter_not_onGroup, ← b.filter_not_onGroup, asksA, asksB]
    simp [Ask.isOnGroup]
  obtain ⟨core, groups⟩ := Survey.firstAsks_inj first
  obtain ⟨beforeA, visitA, afterA, splitA, beforeAsksA, askA, afterAsksA⟩ := Survey.visit_of_asks asksA
  obtain ⟨beforeB, visitB, afterB, splitB, beforeAsksB, askB, afterAsksB⟩ := Survey.visit_of_asks asksB
  have order := coversA.order.trans (groups ▸ coversB.order.symm)
  have preferredA := coversA.preferred
  have preferredB := coversB.preferred
  rw [splitA, splitB, List.map_append, List.map_append, List.map_cons, List.map_cons] at order
  rw [splitA, List.forall_mem_append, List.forall_mem_cons] at preferredA
  rw [splitB, List.forall_mem_append, List.forall_mem_cons] at preferredB
  -- the groups come in the same order, so as many requests before lead to the same group
  have asksBefore := beforeAsksA.trans beforeAsksB.symm
  obtain ⟨groupsBefore, groupsRest⟩ := List.append_inj order
    (by simpa using congrArg List.length asksBefore)
  obtain ⟨group, groupsAfter⟩ := List.cons.inj groupsRest
  have before := visits_unique groupsBefore asksBefore preferredA.1 preferredB.1
  have after := visits_unique groupsAfter (afterAsksA.trans afterAsksB.symm) preferredA.2.2
    preferredB.2.2
  have chosen : visitA.chosen = visitB.chosen :=
    Option.some.inj (preferredA.2.1.chosen?.symm.trans (group ▸ preferredB.2.1.chosen?))
  obtain ⟨named, rfl⟩ := Ask.groupResources.inj askA
  obtain ⟨-, rfl⟩ := Ask.groupResources.inj askB
  refine ⟨_, visitA.group.name, visitA.chosen.version, _, named ▸ coversA.report_eq splitA, ?_⟩
  rw [coversB.report_eq splitB, ← first, ← core, ← before, ← after, ← group, ← chosen, named]

/-- A server with a group that prefers its second version, one without versions, one that prefers none,
and one that cannot be read. -/
def mixed (jobs : Except ExchangeFailure (List ListedResource)) : Catalogue Unit where
  coreVersions s := (.ok ["v1"], s)
  coreResources _ s := (.ok [⟨"pods", "Pod", true, ["list"]⟩], s)
  groups s := (.ok [⟨"apps", some ⟨"apps/v1", "v1"⟩, [⟨"apps/v1beta1", "v1beta1"⟩, ⟨"apps/v1", "v1"⟩]⟩,
    ⟨"empty", none, []⟩, ⟨"batch", none, [⟨"batch/v1", "v1"⟩]⟩, ⟨"odd", some ⟨"odd/v2", "v2"⟩, []⟩], s)
  groupResources text s :=
    (if text = "apps/v1" then .ok [⟨"deployments", "Deployment", true, ["list"]⟩]
      else if text = "batch/v1" then jobs else .error (.transport "down"), s)

end ClusterArchive.Discovery
