import ClusterArchive.Proofs.Engine.Plan
import ClusterArchive.Proofs.Engine.Watched
import ClusterArchive.Proofs.Engine.Writing

/-! What a capture asks of a lister, whatever it is told. Each listing is at a place of the plan, and
each object that is listed was written, has no name, or could not be written. The namespaces are
listed once, for the first resource that lives in them. -/

namespace ClusterArchive.Engine

variable {σ : Type}

inductive Fate
  | written
  | unnamed
  | unwritten (entry : Entry) (error : RunError)

namespace Fate

def isWritten : Fate → Bool
  | written => true
  | _ => false

def isUnnamed : Fate → Bool
  | unnamed => true
  | _ => false

def isUnwritten : Fate → Bool
  | unwritten .. => true
  | _ => false

def warning? (type : ResourceType) : Fate → Option Warning
  | written => none
  | unnamed => some ⟨"Skipping object without a name", [("resource", type.display)]⟩
  | unwritten entry error => some ⟨"Failed to write object, skipping",
      [("entry", entry.path), ("error", error.message)]⟩

theorem countP_all (fates : List Fate) :
    fates.countP isWritten + fates.countP isUnnamed + fates.countP isUnwritten = fates.length := by
  induction fates with
  | nil => rfl
  | cons fate rest ih =>
    simp only [List.countP_cons, List.length_cons, ← ih]
    cases fate <;> simp [isWritten, isUnnamed, isUnwritten] <;> omega

end Fate

/-- Listed objects meet their fates one after the other, while the volume changes. An object with a
name is written at the place of its entry, as far as that can be done. -/
inductive Stores (staging : String) (now : Instant) (type : ResourceType) (ns : Option String) :
    Volume → List Document → List Fate → Volume → Prop
  | done {volume : Volume} : Stores staging now type ns volume [] [] volume
  | written {before between after : Volume} {object : Document} {rest : List Document}
    {fates : List Fate} {name : String} (named : object.name? = some name)
    (wrote : writeObject staging ⟨type, ns, name⟩ object now before = (.ok (), between))
    (later : Stores staging now type ns between rest fates after) :
    Stores staging now type ns before (object :: rest) (.written :: fates) after
  | unnamed {before after : Volume} {object : Document} {rest : List Document} {fates : List Fate}
    (unnamed : object.name? = none) (later : Stores staging now type ns before rest fates after) :
    Stores staging now type ns before (object :: rest) (.unnamed :: fates) after
  | unwritten {before between after : Volume} {object : Document} {rest : List Document}
    {fates : List Fate} {name : String} {error : RunError} (named : object.name? = some name)
    (failed : writeObject staging ⟨type, ns, name⟩ object now before = (.error error, between))
    (later : Stores staging now type ns between rest fates after) :
    Stores staging now type ns before (object :: rest) (.unwritten ⟨type, ns, name⟩ error :: fates)
      after

/-- An object whose fate is to be written can be read at the path of its entry. -/
theorem writeObject_read {staging : String} {entry : Entry} {object : Document} {now : Instant}
    {before between : Volume} (wellFormed : before.WellFormed)
    (wrote : writeObject staging entry object now before = (.ok (), between)) :
    between.read (Path.join staging entry.path) = .ok object.archivedBytes := by
  obtain ⟨prepared, spreads, ⟨error, failed⟩ | ⟨after, written, success⟩⟩ :=
    writeObject_spreads before staging entry object now
  · rw [failed] at wrote
    cases wrote
  · obtain rfl : after = between := congrArg Prod.snd (success.symm.trans wrote)
    exact (spreads.wellFormed wellFormed).read_written written

/-- A listing that a capture asked for, with the fates of the objects. -/
structure Visit where
  resource : Resource
  ns : Option String
  answer : Except ClusterError (List Document)
  fates : List Fate

namespace Visit

def place (visit : Visit) : Resource × Option String := (visit.resource, visit.ns)

def asked (visit : Visit) : Reply := .listing visit.resource visit.ns visit.answer

def objects (visit : Visit) : List Document :=
  match visit.answer with
  | .ok objects => objects
  | .error _ => []

/-- What is warned of: a listing that failed, or the objects that were passed over. -/
def warnings (visit : Visit) : List Warning :=
  match visit.answer with
  | .ok _ => visit.fates.filterMap (Fate.warning? visit.resource.type)
  | .error .cancelled => []
  | .error error => [⟨"Failed to list resource, skipping",
      [("resource", visit.resource.type.display), ("namespace", visit.ns.getD ""),
        ("error", error.message)]⟩]

end Visit

inductive Tour (staging : String) (now : Instant) : Volume → List Visit → Volume → Prop
  | done {volume : Volume} : Tour staging now volume [] volume
  | visit {before between after : Volume} {visit : Visit} {visits : List Visit}
    (stores : Stores staging now visit.resource.type visit.ns before visit.objects visit.fates between)
    (later : Tour staging now between visits after) :
    Tour staging now before (visit :: visits) after

theorem Stores.length_eq {staging : String} {now : Instant} {type : ResourceType}
    {ns : Option String} {before after : Volume} {objects : List Document} {fates : List Fate}
    (stores : Stores staging now type ns before objects fates after) :
    fates.length = objects.length := by
  induction stores with
  | done => rfl
  | written _ _ _ ih => simp [ih]
  | unnamed _ _ ih => simp [ih]
  | unwritten _ _ _ ih => simp [ih]

namespace Tour

variable {staging : String} {now : Instant} {before between after : Volume}
  {visits others : List Visit}

theorem trans (first : Tour staging now before visits between)
    (second : Tour staging now between others after) :
    Tour staging now before (visits ++ others) after := by
  induction first with
  | done => exact second
  | visit stores _ ih => exact .visit stores (ih second)

theorem length_eq (tour : Tour staging now before visits after) :
    (visits.flatMap Visit.fates).length = (visits.flatMap Visit.objects).length := by
  induction tour with
  | done => rfl
  | visit stores _ ih => simpa [stores.length_eq] using ih

end Tour

def asks (log : List (Moment σ)) : List Reply :=
  (log.map Moment.reply).filter fun reply => match reply with
    | .check _ => false
    | _ => true

theorem asks_append (first second : List (Moment σ)) :
    asks (first ++ second) = asks first ++ asks second := by
  simp [asks]

structure Logs (staging : String) (now : Instant) (replies : List Reply) (visits : List Visit)
    (start final : World (σ × List (Moment σ))) : Prop where
  asked : asks final.outside.2 = asks start.outside.2 ++ replies
  stored : Tour staging now start.volume visits final.volume
  warned : final.warnings = start.warnings ++ visits.flatMap Visit.warnings

namespace Logs

variable {staging : String} {now : Instant} {replies more : List Reply} {visits others : List Visit}
  {start between final : World (σ × List (Moment σ))}

theorem refl (world : World (σ × List (Moment σ))) : Logs staging now [] [] world world :=
  ⟨by simp, .done, by simp⟩

theorem trans (first : Logs staging now replies visits start between)
    (second : Logs staging now more others between final) :
    Logs staging now (replies ++ more) (visits ++ others) start final where
  asked := by simp [second.asked, first.asked]
  stored := first.stored.trans second.stored
  warned := by simp [second.warned, first.warned]

end Logs

/-- The last thing that was asked is whether the run was cancelled, and it was. -/
def Stopped (world : World (σ × List (Moment σ))) : Prop :=
  ∃ earlier s, world.outside.2 = earlier ++ [⟨.check true, s⟩]

def Ended (plan : List (Resource × Option String)) (visits : List Visit)
    (final : World (σ × List (Moment σ))) : Except RunError Nat → Prop
  | .ok count => visits.map Visit.place = plan ∧
      count = (visits.flatMap Visit.fates).countP Fate.isWritten ∧
      ∀ visit ∈ visits, visit.answer ≠ .error .cancelled
  | .error error => visits.map Visit.place <+: plan ∧ error = .cancelled ∧
      ((∃ visit ∈ visits, visit.answer = .error .cancelled) ∨ Stopped final)

theorem Ended.error {plan others : List (Resource × Option String)} {visits : List Visit}
    {final : World (σ × List (Moment σ))} {error : RunError}
    (ended : Ended plan visits final (.error error)) :
    Ended (plan ++ others) visits final (.error error) :=
  ⟨ended.1.trans (List.prefix_append ..), ended.2⟩

theorem Ended.ok {plan others : List (Resource × Option String)} {visits later : List Visit}
    {between final : World (σ × List (Moment σ))} {count : Nat} {outcome : Except RunError Nat}
    (first : Ended plan visits between (.ok count)) (second : Ended others later final outcome) :
    Ended (plan ++ others) (visits ++ later) final (outcome.map (count + ·)) := by
  obtain ⟨whole, counted, fine⟩ := first
  cases outcome with
  | error error =>
    obtain ⟨part, rfl, why⟩ := second
    refine ⟨?_, rfl, ?_⟩
    · simpa [whole] using part
    · rcases why with ⟨visit, member, cancelled⟩ | stopped
      · exact .inl ⟨visit, List.mem_append_right _ member, cancelled⟩
      · exact .inr stopped
  | ok more =>
    obtain ⟨wholeLater, countedLater, fineLater⟩ := second
    refine ⟨by simp [whole, wholeLater], by simp [counted, countedLater], ?_⟩
    exact List.forall_mem_append.mpr ⟨fine, fineLater⟩

section

variable (staging : String) (now : Instant) (around : Surroundings σ) (lister : Lister σ)
  (options : BackupOptions)

theorem writeObjects_stores {τ : Type} (type : ResourceType) (ns : Option String)
    (objects : List Document) (world : World τ) :
    let run := writeObjects staging type ns now objects world
    ∃ fates, Stores staging now type ns world.volume objects fates run.2.volume ∧
      run.1 = fates.countP Fate.isWritten ∧ run.2.outside = world.outside ∧
      run.2.warnings = world.warnings ++ fates.filterMap (Fate.warning? type) := by
  induction objects generalizing world with
  | nil => exact ⟨[], .done, rfl, rfl, by simp [writeObjects]⟩
  | cons object rest ih =>
    simp only [writeObjects]
    cases named : object.name? with
    | none =>
      obtain ⟨fates, stores, counted, same, warned⟩ := ih (world.warn "Skipping object without a name"
        [("resource", type.display)])
      refine ⟨.unnamed :: fates, .unnamed named stores, ?_, same, ?_⟩
      · simpa [Fate.isWritten] using counted
      · simpa [Fate.warning?, World.warn] using warned
    | some name =>
      simp only [World.onVolume]
      generalize wrote : writeObject staging ⟨type, ns, name⟩ object now world.volume = result
      obtain ⟨outcome, volume⟩ := result
      cases outcome with
      | ok =>
        obtain ⟨fates, stores, counted, same, warned⟩ := ih { world with volume := volume }
        refine ⟨.written :: fates, .written named wrote stores, ?_, same, ?_⟩
        · simp [Fate.isWritten, List.countP_cons, counted]
        · simpa [Fate.warning?, List.filterMap_cons] using warned
      | error error =>
        obtain ⟨fates, stores, counted, same, warned⟩ :=
          ih ({ world with volume := volume }.warn "Failed to write object, skipping"
            [("entry", (Entry.mk type ns name).path), ("error", error.message)])
        refine ⟨.unwritten ⟨type, ns, name⟩ error :: fates, .unwritten named wrote stores, ?_, same, ?_⟩
        · simpa [Fate.isWritten] using counted
        · simpa [Fate.warning?, World.warn] using warned

theorem captureResource_visit (resource : Resource) (ns : Option String)
    (world : World (σ × List (Moment σ))) :
    let run := captureResource lister.watched staging now resource ns world
    ∃ visit : Visit, Logs staging now [visit.asked] [visit] world run.2 ∧
      Ended [(resource, ns)] [visit] run.2 run.1 := by
  unfold captureResource
  generalize answered : lister.list resource ns world.outside.1 = answer
  obtain ⟨outcome, next⟩ := answer
  have asked : world.ask (lister.watched.list resource ns) = (outcome, { world with
      outside := (next, world.outside.2 ++ [⟨.listing resource ns outcome, world.outside.1⟩]) }) := by
    simp [World.ask, Lister.watched, watch, answered]
  simp only [asked]
  cases outcome with
  | error error =>
    have logs : Logs staging now [.listing resource ns (.error error)] []
        world { world with outside := (next, world.outside.2 ++
          [⟨.listing resource ns (.error error), world.outside.1⟩]) } :=
      ⟨asks_append .., .done, by simp⟩
    by_cases cancelled : error = .cancelled
    · subst cancelled
      refine ⟨⟨resource, ns, .error .cancelled, []⟩, ⟨logs.asked, .visit .done .done, ?_⟩, ?_⟩
      · simp [Visit.warnings]
      · exact ⟨List.prefix_refl _, rfl, .inl ⟨_, List.mem_singleton_self _, rfl⟩⟩
    · have fine : Ended (σ := σ) [(resource, ns)] [⟨resource, ns, .error error, []⟩] world (.ok 0) := by
        refine ⟨rfl, rfl, ?_⟩
        simpa using cancelled
      refine ⟨⟨resource, ns, .error error, []⟩, ?_⟩
      cases error with
      | cancelled => exact absurd rfl cancelled
      | _ => exact ⟨⟨logs.asked, .visit .done .done, by simp [Visit.warnings, World.warn]⟩, fine⟩
  | ok objects =>
    simp only []
    obtain ⟨fates, stores, counted, same, warned⟩ := writeObjects_stores staging now resource.type ns
      objects { world with outside := (next, world.outside.2 ++
        [⟨.listing resource ns (.ok objects), world.outside.1⟩]) }
    refine ⟨⟨resource, ns, .ok objects, fates⟩, ⟨?_, .visit stores .done, ?_⟩, rfl, ?_, by simp⟩
    · rw [same]
      exact asks_append ..
    · simpa [Visit.warnings] using warned
    · simpa using counted

theorem captureNamespaces_visits (resource : Resource) (names : List String)
    (world : World (σ × List (Moment σ))) :
    let run := captureNamespaces lister.watched staging now resource names world
    ∃ visits : List Visit, Logs staging now (visits.map Visit.asked) visits world run.2 ∧
      Ended (names.map fun ns => (resource, some ns)) visits run.2 run.1 := by
  induction names generalizing world with
  | nil => exact ⟨[], .refl world, rfl, rfl, by simp⟩
  | cons ns rest ih =>
    obtain ⟨visit, logs, ended⟩ := captureResource_visit staging now lister resource (some ns) world
    simp only [captureNamespaces]
    generalize captureResource lister.watched staging now resource (some ns) world = result
      at logs ended
    obtain ⟨outcome, between⟩ := result
    cases outcome with
    | error error => exact ⟨[visit], logs, ended.error⟩
    | ok count =>
      obtain ⟨visits, logsLater, endedLater⟩ := ih between
      have logsAll := logs.trans logsLater
      have endedAll := ended.ok endedLater
      refine ⟨visit :: visits, ?_⟩
      simp only []
      generalize captureNamespaces lister.watched staging now resource rest between = result
        at logsAll endedAll
      obtain ⟨outcome, after⟩ := result
      cases outcome <;> exact ⟨logsAll, endedAll⟩

def whereabouts (options : BackupOptions) (names : List String) (resource : Resource) :
    List (Resource × Option String) :=
  (MemoryCluster.places options names resource).map fun ns => (resource, ns)

theorem captureOne_outside {resource : Resource} (outside : resource.namespaced = false)
    (resolver : NamespaceResolver) (world : World (σ × List (Moment σ))) :
    let run := captureOne lister.watched staging now options resolver resource world
    ∃ visits : List Visit, Logs staging now (visits.map Visit.asked) visits world run.2.2 ∧
      (∀ names, Ended (whereabouts options names resource) visits run.2.2 run.1) ∧
      run.2.1 = resolver := by
  simp only [captureOne, whereabouts, MemoryCluster.places, outside, Bool.false_eq_true, if_false]
  by_cases included : options.includeClusterResources = true
  · simp only [included, if_true]
    obtain ⟨visit, logs, ended⟩ := captureResource_visit staging now lister resource none world
    exact ⟨[visit], logs, fun _ => ended, trivial⟩
  · simp only [included]
    exact ⟨[], .refl world, fun _ => ⟨rfl, rfl, by simp⟩, rfl⟩

/-- The namespaces of a run, when no listing is needed for them. -/
def known (resolver : NamespaceResolver) : Option (List String) :=
  resolver.resolved.or (if resolver.included = [] then none else some resolver.included)

theorem resolve_known {resolver : NamespaceResolver} {names : List String}
    (knows : known resolver = some names) (s : σ) :
    ∃ next, resolver.resolve lister s = (.ok names, next, s) ∧ known next = some names := by
  unfold NamespaceResolver.resolve
  cases kept : resolver.resolved with
  | some earlier =>
    obtain rfl : earlier = names := by simpa [known, kept] using knows
    exact ⟨resolver, rfl, knows⟩
  | none =>
    by_cases none : resolver.included = []
    · simp [known, kept, none] at knows
    · obtain rfl : resolver.included = names := by simpa [known, kept, none] using knows
      exact ⟨{ resolver with resolved := some resolver.included },
        by simp [NamespaceResolver.find, none], rfl⟩

theorem captureOne_known {resolver : NamespaceResolver} {names : List String}
    (knows : known resolver = some names) (resource : Resource)
    (world : World (σ × List (Moment σ))) :
    let run := captureOne lister.watched staging now options resolver resource world
    ∃ visits : List Visit, Logs staging now (visits.map Visit.asked) visits world run.2.2 ∧
      Ended (whereabouts options names resource) visits run.2.2 run.1 ∧
      known run.2.1 = some names := by
  cases scope : resource.namespaced with
  | false =>
    obtain ⟨visits, logs, ended, same⟩ :=
      captureOne_outside staging now lister options scope resolver world
    exact ⟨visits, logs, ended names, by rwa [same]⟩
  | true =>
    obtain ⟨next, resolved, knowsNext⟩ := resolve_known lister.watched knows world.outside
    simp only [captureOne, whereabouts, MemoryCluster.places, scope, if_true, resolved,
      List.map_map]
    obtain ⟨visits, logs, ended⟩ := captureNamespaces_visits staging now lister resource names world
    exact ⟨visits, logs, ended, knowsNext⟩

/-- Asking whether a run is cancelled is no part of its account. -/
theorem ask_cancelled (world : World (σ × List (Moment σ))) :
    let answer := world.ask around.watched.cancelled
    Logs staging now [] [] world answer.2 ∧ (answer.1 = true → Stopped answer.2) := by
  refine ⟨⟨?_, .done, by simp [World.ask]⟩, fun stop => ?_⟩
  · simp [World.ask, Surroundings.watched, watch, asks]
  · refine ⟨world.outside.2, world.outside.1, ?_⟩
    change (around.cancelled world.outside.1).1 = true at stop
    simp [World.ask, Surroundings.watched, watch, stop]

theorem captureAll_known {resolver : NamespaceResolver} {names : List String}
    (knows : known resolver = some names) (resources : List Resource)
    (world : World (σ × List (Moment σ))) :
    let run := captureAll around.watched lister.watched staging now options resolver resources world
    ∃ visits : List Visit, Logs staging now (visits.map Visit.asked) visits world run.2 ∧
      Ended (resources.flatMap (whereabouts options names)) visits run.2 run.1 := by
  induction resources generalizing resolver world with
  | nil => exact ⟨[], .refl world, rfl, rfl, by simp⟩
  | cons resource rest ih =>
    obtain ⟨checked, stopped⟩ := ask_cancelled staging now around world
    rcases asked : world.ask around.watched.cancelled with ⟨cancelled, ready⟩
    rw [asked] at checked stopped
    cases cancelled with
    | true =>
      rw [captureAll_of_cancelled asked]
      exact ⟨[], checked, List.nil_prefix, rfl, .inr (stopped rfl)⟩
    | false =>
      obtain ⟨visits, logs, ended, knowsNext⟩ :=
        captureOne_known staging now lister options knows resource ready
      have logs := checked.trans logs
      rcases captured : captureOne lister.watched staging now options resolver resource ready with
        ⟨outcome, next, between⟩
      rw [captured] at logs ended knowsNext
      cases outcome with
      | error error =>
        rw [captureAll_of_failed asked captured]
        exact ⟨visits, logs, ended.error⟩
      | ok count =>
        obtain ⟨later, logsLater, endedLater⟩ := ih knowsNext between
        rw [captureAll_of_captured asked captured]
        refine ⟨visits ++ later, ?_, ended.ok endedLater⟩
        rw [List.map_append]
        exact logs.trans logsLater

end

/-- What a capture asked of a lister: some listings, the namespaces if it looked for them, and more
listings. -/
structure Survey where
  before : List Visit
  namespaces : Option (Except ClusterError (List Document))
  after : List Visit

namespace Survey

def visits (survey : Survey) : List Visit := survey.before ++ survey.after

def asked (survey : Survey) : List Reply :=
  survey.before.map Visit.asked ++
    survey.namespaces.toList.map (Reply.listing .namespaces none) ++ survey.after.map Visit.asked

/-- The namespaces to look into: those to include, or those that were listed and are not excluded. -/
def names (options : BackupOptions) (survey : Survey) : List String :=
  let resolver := NamespaceResolver.make options.includeNamespaces options.excludeNamespaces
  if resolver.included = [] then
    match survey.namespaces with
    | some (.ok objects) => resolver.keep objects
    | _ => []
  else resolver.included

end Survey

/-- The namespaces must be listed: some resource lives in them, and none are to be included. -/
def Needed (options : BackupOptions) (resources : List Resource) : Prop :=
  (∃ resource ∈ resources, resource.namespaced = true) ∧
    ∀ text ∈ options.includeNamespaces, Text.trim text = ""

structure Surveys (staging : String) (now : Instant) (options : BackupOptions)
    (resources : List Resource) (survey : Survey) (start final : World (σ × List (Moment σ)))
    (outcome : Except RunError Nat) : Prop where
  logs : Logs staging now survey.asked survey.visits start final
  looked : survey.namespaces.isSome = true → Needed options resources ∧
    survey.before.map Visit.place =
      (resources.takeWhile (!·.namespaced)).flatMap (whereabouts options [])
  planned : survey.visits.map Visit.place <+:
    resources.flatMap (whereabouts options (survey.names options))
  succeeded : ∀ count, outcome = .ok count →
    survey.visits.map Visit.place = resources.flatMap (whereabouts options (survey.names options)) ∧
      (Needed options resources → ∃ objects, survey.namespaces = some (.ok objects)) ∧
      count = (survey.visits.flatMap Visit.fates).countP Fate.isWritten ∧
      ∀ visit ∈ survey.visits, visit.answer ≠ .error .cancelled
  failed : ∀ error, outcome = .error error →
    error = .cancelled ∧
        ((∃ visit ∈ survey.visits, visit.answer = .error .cancelled) ∨ Stopped final) ∨
      ∃ reason, survey.namespaces = some (.error reason) ∧
        error = NamespaceResolver.listingFailure reason

section

variable {staging : String} {now : Instant} {options : BackupOptions}

theorem Surveys.ofVisits {resources : List Resource} {visits : List Visit}
    {start final : World (σ × List (Moment σ))} {outcome : Except RunError Nat}
    (logs : Logs staging now (visits.map Visit.asked) visits start final)
    (ended : Ended (resources.flatMap
      (whereabouts options (Survey.names options ⟨visits, none, []⟩))) visits final outcome)
    (needless : ∀ count, outcome = .ok count → ¬Needed options resources) :
    Surveys staging now options resources ⟨visits, none, []⟩ start final outcome where
  logs := by simpa [Survey.asked, Survey.visits] using logs
  looked := by simp
  planned := by
    cases outcome with
    | ok count => simp [Survey.visits, ended.1]
    | error error => simpa [Survey.visits] using ended.1
  succeeded count same := by
    subst same
    obtain ⟨whole, counted, fine⟩ := ended
    refine ⟨?_, fun needed => absurd needed (needless count rfl), ?_, ?_⟩
    · simpa [Survey.visits] using whole
    · simpa [Survey.visits] using counted
    · simpa [Survey.visits] using fine
  failed error same := by
    subst same
    obtain ⟨_, rfl, why⟩ := ended
    exact .inl ⟨rfl, by simpa [Survey.visits] using why⟩

/-- Visits after the namespaces were listed are a survey, if the first resource lives in them. -/
theorem Surveys.ofListing {resource : Resource} {rest : List Resource} {objects : List Document}
    {visits : List Visit} {start between final : World (σ × List (Moment σ))}
    {outcome : Except RunError Nat} (inside : resource.namespaced = true)
    (needed : Needed options (resource :: rest))
    (looked : Logs staging now [.listing .namespaces none (.ok objects)] [] start between)
    (logs : Logs staging now (visits.map Visit.asked) visits between final)
    (ended : Ended ((resource :: rest).flatMap (whereabouts options
      (Survey.names options ⟨[], some (.ok objects), visits⟩))) visits final outcome) :
    Surveys staging now options (resource :: rest) ⟨[], some (.ok objects), visits⟩ start final
      outcome where
  logs := looked.trans logs
  looked _ := ⟨needed, by simp [inside]⟩
  planned := by
    cases outcome with
    | ok count => exact ended.1 ▸ List.prefix_refl _
    | error error => exact ended.1
  succeeded count same := by
    subst same
    obtain ⟨whole, counted, fine⟩ := ended
    exact ⟨whole, fun _ => ⟨objects, rfl⟩, counted, fine⟩
  failed error same := by
    subst same
    exact .inl ended.2

/-- A survey may begin with a resource that lives in no namespace. -/
theorem Surveys.cons {resource : Resource} {rest : List Resource} {visits : List Visit}
    {survey : Survey} {start between final : World (σ × List (Moment σ))} {count : Nat}
    {outcome : Except RunError Nat} (outside : resource.namespaced = false)
    (logs : Logs staging now (visits.map Visit.asked) visits start between)
    (ended : ∀ names, Ended (whereabouts options names resource) visits between (.ok count))
    (surveys : Surveys staging now options rest survey between final outcome) :
    Surveys staging now options (resource :: rest)
      ⟨visits ++ survey.before, survey.namespaces, survey.after⟩ start final
      (outcome.map (count + ·)) := by
  have apart : (Survey.visits ⟨visits ++ survey.before, survey.namespaces, survey.after⟩) =
      visits ++ survey.visits := by simp [Survey.visits]
  have names : (Survey.names options ⟨visits ++ survey.before, survey.namespaces, survey.after⟩) =
      survey.names options := rfl
  have needs : Needed options (resource :: rest) ↔ Needed options rest := by
    simp [Needed, outside]
  obtain ⟨whole, counted, fine⟩ := ended (survey.names options)
  refine ⟨?_, fun some => ?_, ?_, fun total same => ?_, fun error same => ?_⟩
  · rw [apart]
    simpa [Survey.asked] using logs.trans surveys.logs
  · obtain ⟨needed, first⟩ := surveys.looked some
    refine ⟨needs.mpr needed, ?_⟩
    simp [outside, first, (ended []).1]
  · rw [apart, names]
    simpa [whole] using surveys.planned
  · cases outcome with
    | error error => cases same
    | ok more =>
      obtain rfl : count + more = total := Except.ok.inj same
      obtain ⟨wholeLater, found, countedLater, fineLater⟩ := surveys.succeeded more rfl
      rw [apart, names]
      refine ⟨by simp [whole, wholeLater], fun needed => found (needs.mp needed), ?_, ?_⟩
      · simp [counted, countedLater]
      · exact List.forall_mem_append.mpr ⟨fine, fineLater⟩
  · cases outcome with
    | ok more => cases same
    | error reason =>
      obtain rfl : reason = error := Except.error.inj same
      rw [apart]
      rcases surveys.failed reason rfl with ⟨rfl, ⟨visit, member, cancelled⟩ | stopped⟩ | listing
      · exact .inl ⟨rfl, .inl ⟨visit, List.mem_append_right _ member, cancelled⟩⟩
      · exact .inl ⟨rfl, .inr stopped⟩
      · exact .inr listing

theorem included_eq_nil : (NamespaceResolver.make options.includeNamespaces
    options.excludeNamespaces).included = [] ↔
      ∀ text ∈ options.includeNamespaces, Text.trim text = "" := by
  simp [NamespaceResolver.make, NamespaceResolver.normalize, MemoryCluster.eraseDups_eq_nil]

end

section

variable (staging : String) (now : Instant) (around : Surroundings σ) (lister : Lister σ)
  (options : BackupOptions)

/-- The namespaces are listed for the first resource that lives in them. -/
theorem resolve_unknown {resolver : NamespaceResolver} (unresolved : resolver.resolved = none)
    (blank : resolver.included = []) (s : σ × List (Moment σ)) :
    ∃ answer s', asks s'.2 = asks s.2 ++ [.listing .namespaces none answer] ∧
      match answer with
      | .error reason => resolver.resolve lister.watched s =
          (.error (NamespaceResolver.listingFailure reason), resolver, s')
      | .ok objects => ∃ next, known next = some (resolver.keep objects) ∧
          resolver.resolve lister.watched s = (.ok (resolver.keep objects), next, s') := by
  rcases answered : lister.list .namespaces none s.1 with ⟨answer, outside⟩
  have asked : lister.watched.list .namespaces none s =
      (answer, outside, s.2 ++ [⟨.listing .namespaces none answer, s.1⟩]) := by
    simp [Lister.watched, watch, answered]
  refine ⟨answer, (outside, s.2 ++ [⟨.listing .namespaces none answer, s.1⟩]), asks_append .., ?_⟩
  cases answer with
  | error reason =>
    simp [NamespaceResolver.resolve, unresolved, NamespaceResolver.find, blank, asked]
  | ok objects =>
    exact ⟨{ resolver with resolved := some (resolver.keep objects) }, rfl, by
      simp [NamespaceResolver.resolve, unresolved, NamespaceResolver.find, blank, asked]⟩

/-- A resource that lives in namespaces is captured in those that are listed for it. -/
theorem captureOne_unknown {resource : Resource} (inside : resource.namespaced = true)
    {resolver : NamespaceResolver} (unresolved : resolver.resolved = none)
    (blank : resolver.included = []) (world : World (σ × List (Moment σ))) :
    let run := captureOne lister.watched staging now options resolver resource world
    ∃ answer between, Logs staging now [.listing .namespaces none answer] [] world between ∧
      match answer with
      | .error reason => run.1 = .error (NamespaceResolver.listingFailure reason) ∧
          run.2.2 = between
      | .ok objects => ∃ visits : List Visit,
          Logs staging now (visits.map Visit.asked) visits between run.2.2 ∧
          Ended (whereabouts options (resolver.keep objects) resource) visits run.2.2 run.1 ∧
          known run.2.1 = some (resolver.keep objects) := by
  obtain ⟨answer, s, found, resolved⟩ := resolve_unknown lister unresolved blank
    world.outside
  refine ⟨answer, { world with outside := s }, ⟨found, .done, by simp⟩, ?_⟩
  simp only [captureOne, inside, if_true]
  cases answer with
  | error reason => simp only [resolved, and_self]
  | ok objects =>
    obtain ⟨next, knows, resolved⟩ := resolved
    obtain ⟨visits, logs, ended⟩ := captureNamespaces_visits staging now lister resource
      (resolver.keep objects) { world with outside := s }
    refine ⟨visits, ?_⟩
    simp only [resolved, whereabouts, MemoryCluster.places, inside, if_true, List.map_map]
    exact ⟨logs, ended, knows⟩

/-- If the first resource lives in namespaces, they are listed first, and known for the others. -/
theorem captureAll_inside (blank : ∀ text ∈ options.includeNamespaces, Text.trim text = "")
    {resource : Resource} (inside : resource.namespaced = true) {rest : List Resource}
    {world ready : World (σ × List (Moment σ))} (checked : Logs staging now [] [] world ready)
    (asked : world.ask around.watched.cancelled = (false, ready)) :
    let run := captureAll around.watched lister.watched staging now options
      (.make options.includeNamespaces options.excludeNamespaces) (resource :: rest) world
    ∃ survey, Surveys staging now options (resource :: rest) survey world run.2 run.1 := by
  have none := included_eq_nil.mpr blank
  have needed : Needed options (resource :: rest) := ⟨⟨resource, by simp, inside⟩, blank⟩
  obtain ⟨answer, found, looked, captures⟩ :=
    captureOne_unknown staging now lister options inside rfl none ready
  have looked := checked.trans looked
  rcases captured : captureOne lister.watched staging now options
    (.make options.includeNamespaces options.excludeNamespaces) resource ready with
    ⟨outcome, next, between⟩
  rw [captured] at captures
  cases answer with
  | error reason =>
    obtain ⟨rfl, rfl⟩ := captures
    rw [captureAll_of_failed asked captured]
    refine ⟨⟨[], some (.error reason), []⟩, looked, fun _ => ⟨needed, by simp [inside]⟩,
      List.nil_prefix, by simp, fun error same => ?_⟩
    exact .inr ⟨reason, rfl, (Except.error.inj same).symm⟩
  | ok objects =>
    obtain ⟨visits, logs, ended, knows⟩ := captures
    have names (visits : List Visit) : Survey.names options ⟨[], some (.ok objects), visits⟩ =
        (NamespaceResolver.make options.includeNamespaces options.excludeNamespaces).keep objects := by
      simp [Survey.names, none]
    rw [← names visits] at ended
    cases outcome with
    | error error =>
      rw [captureAll_of_failed asked captured]
      exact ⟨⟨[], some (.ok objects), visits⟩, .ofListing inside needed looked logs ended.error⟩
    | ok count =>
      obtain ⟨later, logsLater, endedLater⟩ :=
        captureAll_known staging now around lister options knows rest between
      have logsAll := logs.trans logsLater
      rw [← List.map_append] at logsAll
      rw [captureAll_of_captured asked captured]
      exact ⟨⟨[], some (.ok objects), visits ++ later⟩,
        .ofListing inside needed looked logsAll (ended.ok (names visits ▸ endedLater))⟩

theorem captureAll_unknown (blank : ∀ text ∈ options.includeNamespaces, Text.trim text = "")
    (resources : List Resource) (world : World (σ × List (Moment σ))) :
    let run := captureAll around.watched lister.watched staging now options
      (.make options.includeNamespaces options.excludeNamespaces) resources world
    ∃ survey, Surveys staging now options resources survey world run.2 run.1 := by
  induction resources generalizing world with
  | nil =>
    exact ⟨⟨[], .none, []⟩, .ofVisits (.refl world) ⟨rfl, rfl, by simp⟩ fun _ _ => by simp [Needed]⟩
  | cons resource rest ih =>
    obtain ⟨checked, stopped⟩ := ask_cancelled staging now around world
    rcases asked : world.ask around.watched.cancelled with ⟨cancelled, ready⟩
    rw [asked] at checked stopped
    cases cancelled with
    | true =>
      rw [captureAll_of_cancelled asked]
      exact ⟨⟨[], .none, []⟩, .ofVisits checked ⟨List.nil_prefix, rfl, .inr (stopped rfl)⟩ (by simp)⟩
    | false =>
      cases scope : resource.namespaced with
      | true => exact captureAll_inside staging now around lister options blank scope checked asked
      | false =>
        obtain ⟨visits, logs, ended, same⟩ := captureOne_outside staging now lister options scope
          (.make options.includeNamespaces options.excludeNamespaces) ready
        have logs := checked.trans logs
        rcases captured : captureOne lister.watched staging now options
          (.make options.includeNamespaces options.excludeNamespaces) resource ready with
          ⟨outcome, next, between⟩
        rw [captured] at logs ended same
        obtain rfl : next = _ := same
        cases outcome with
        | error error =>
          rw [captureAll_of_failed asked captured]
          exact ⟨⟨visits, .none, []⟩, .ofVisits logs (ended _).error (by simp)⟩
        | ok count =>
          obtain ⟨survey, surveys⟩ := ih between
          rw [captureAll_of_captured asked captured]
          exact ⟨⟨visits ++ survey.before, survey.namespaces, survey.after⟩,
            surveys.cons scope logs ended⟩

/-- Whatever the namespaces to include, capturing resources is a survey of them. -/
theorem captureAll_surveys (resources : List Resource) (world : World (σ × List (Moment σ))) :
    let run := captureAll around.watched lister.watched staging now options
      (.make options.includeNamespaces options.excludeNamespaces) resources world
    ∃ survey, Surveys staging now options resources survey world run.2 run.1 := by
  by_cases blank : ∀ text ∈ options.includeNamespaces, Text.trim text = ""
  · exact captureAll_unknown staging now around lister options blank resources world
  · have included := mt included_eq_nil.mp blank
    have knows : known (.make options.includeNamespaces options.excludeNamespaces) = some _ :=
      if_neg included
    obtain ⟨visits, logs, ended⟩ := captureAll_known staging now around lister options knows resources
      world
    have names : (Survey.names options ⟨visits, none, []⟩) = _ := if_neg included
    rw [← names] at ended
    exact ⟨_, .ofVisits logs ended fun _ _ needed => blank needed.2⟩

end

end ClusterArchive.Engine
