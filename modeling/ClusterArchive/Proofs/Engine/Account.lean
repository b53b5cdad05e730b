import ClusterArchive.Proofs.Engine.Survey

/-! The account of a capture, whatever the cluster answers. All that is passed over is warned of. Only
a call that was cancelled and a listing of namespaces that was needed end a capture early. -/

namespace ClusterArchive.Engine

variable {σ : Type} {staging : String} {now : Instant} {options : BackupOptions}

/-- The resources that a capture selects of those that were discovered. -/
def selection (options : BackupOptions) :
    Except ClusterError DiscoveryReport → List Resource
  | .ok report => (KindFilter.ofRequest options.resourceTypes).select report.resources
  | .error _ => []

def discoveryWarnings : Except ClusterError DiscoveryReport → List Warning
  | .ok report => report.failures.map fun failure => ⟨"Skipping API group that failed discovery",
      [("group_version", failure.groupVersion), ("error", failure.error.message)]⟩
  | .error .cancelled => []
  | .error error => [⟨"Resource discovery failed, no resource types will be captured",
      [("error", error.message)]⟩]

theorem discoverResources_selection (discoverer : Discoverer σ) (options : BackupOptions)
    (world : World (σ × List (Moment σ))) :
    let run := discoverResources discoverer.watched world
    ∃ discovery, asks run.2.outside.2 = asks world.outside.2 ++ [.discovery discovery] ∧
      run.2.volume = world.volume ∧ run.2.warnings = world.warnings ++ discoveryWarnings discovery ∧
      match run.1 with
      | .error error => error = .cancelled ∧ discovery = .error .cancelled
      | .ok resources => discovery ≠ .error .cancelled ∧
          (KindFilter.ofRequest options.resourceTypes).select resources =
            selection options discovery := by
  rcases answered : discoverer.discover world.outside.1 with ⟨discovery, next⟩
  have asked : world.ask discoverer.watched.discover = (discovery, { world with
      outside := (next, world.outside.2 ++ [⟨.discovery discovery, world.outside.1⟩]) }) := by
    simp [World.ask, Discoverer.watched, watch, answered]
  simp only [discoverResources, asked]
  refine ⟨discovery, ?_⟩
  have logged := asks_append world.outside.2 [⟨.discovery discovery, world.outside.1⟩]
  cases discovery with
  | ok report =>
    simp only [warn_failures]
    exact ⟨logged, trivial, rfl, by simp, rfl⟩
  | error error =>
    cases error with
    | cancelled => exact ⟨logged, rfl, by simp [discoveryWarnings], rfl, rfl⟩
    | _ => exact ⟨logged, rfl, rfl, by simp, rfl⟩

/-- What a capture was told, what it wrote and what it warned of, and how that decides its end. -/
structure Accounts (staging : String) (now : Instant) (options : BackupOptions)
    (discovery : Except ClusterError DiscoveryReport) (survey : Survey) (start : World σ)
    (final : World (σ × List (Moment σ))) (outcome : Except RunError Nat) : Prop where
  asked : asks final.outside.2 = .discovery discovery :: survey.asked
  looked : survey.namespaces.isSome = true → Needed options (selection options discovery) ∧
    survey.before.map Visit.place = ((selection options discovery).takeWhile
      (!·.namespaced)).flatMap (whereabouts options [])
  planned : survey.visits.map Visit.place <+:
    (selection options discovery).flatMap (whereabouts options (survey.names options))
  complete : ∀ count, outcome = .ok count →
    survey.visits.map Visit.place =
        (selection options discovery).flatMap (whereabouts options (survey.names options)) ∧
      (Needed options (selection options discovery) →
        ∃ objects, survey.namespaces = some (.ok objects))
  fails : (∃ error, outcome = .error error) ↔ discovery = .error .cancelled ∨
    (∃ visit ∈ survey.visits, visit.answer = .error .cancelled) ∨
    Needed options (selection options discovery) ∧
      ∃ reason, survey.namespaces = some (.error reason)
  reason : ∀ error, outcome = .error error → error = .cancelled ∨
    ∃ reason, survey.namespaces = some (.error reason) ∧
      error = NamespaceResolver.listingFailure reason
  stored : Tour staging now start.volume survey.visits final.volume
  counted : ∀ count, outcome = .ok count →
    count = (survey.visits.flatMap Visit.fates).countP Fate.isWritten
  accounted : (survey.visits.flatMap Visit.fates).countP Fate.isWritten +
    (survey.visits.flatMap Visit.fates).countP Fate.isUnnamed +
    (survey.visits.flatMap Visit.fates).countP Fate.isUnwritten =
      (survey.visits.flatMap Visit.objects).length
  warned : final.warnings = start.warnings ++ discoveryWarnings discovery ++
    survey.visits.flatMap Visit.warnings

theorem Surveys.accounts {discovery : Except ClusterError DiscoveryReport} {survey : Survey}
    {start : World σ} {between final : World (σ × List (Moment σ))} {outcome : Except RunError Nat}
    (discovered : asks between.outside.2 = [.discovery discovery])
    (untouched : between.volume = start.volume)
    (told : between.warnings = start.warnings ++ discoveryWarnings discovery)
    (fine : discovery ≠ .error .cancelled) (going : ¬Stopped final)
    (surveys : Surveys staging now options (selection options discovery) survey between final
      outcome) : Accounts staging now options discovery survey start final outcome where
  asked := by simp [surveys.logs.asked, discovered]
  looked := surveys.looked
  planned := surveys.planned
  complete count same := ⟨(surveys.succeeded count same).1, (surveys.succeeded count same).2.1⟩
  fails := by
    constructor
    · rintro ⟨error, same⟩
      rcases surveys.failed error same with ⟨_, cancelled | stopped⟩ | ⟨reason, listing, _⟩
      · exact .inr (.inl cancelled)
      · exact absurd stopped going
      · exact .inr (.inr ⟨(surveys.looked (by simp [listing])).1, reason, listing⟩)
    · intro why
      cases outcome with
      | error error => exact ⟨error, rfl⟩
      | ok count =>
        obtain ⟨_, found, _, answers⟩ := surveys.succeeded count rfl
        rcases why with cancelled | ⟨visit, member, cancelled⟩ | ⟨needed, reason, listing⟩
        · exact absurd cancelled fine
        · exact absurd cancelled (answers visit member)
        · obtain ⟨objects, same⟩ := found needed
          rw [listing] at same
          cases same
  reason error same := (surveys.failed error same).imp And.left id
  stored := untouched ▸ surveys.logs.stored
  counted count same := (surveys.succeeded count same).2.2.1
  accounted := by rw [Fate.countP_all, surveys.logs.stored.length_eq]
  warned := by rw [surveys.logs.warned, told]

/-- Whatever a cluster answers, a capture that is not cancelled passes over nothing in silence. It
fails exactly if a call was cancelled or the namespaces were needed and could not be listed. -/
theorem capture_account (around : Surroundings σ) (discoverer : Discoverer σ) (lister : Lister σ)
    (staging : String) (now : Instant) (options : BackupOptions) (world : World σ)
    (uncancelled : ∀ s, Arises around discoverer lister world.outside s →
      (around.cancelled s).1 = false) :
    let run := capture around.watched discoverer.watched lister.watched staging now options
      (world.recording [])
    capture around discoverer lister staging now options world = (run.1, run.2.seen Prod.fst) ∧
      ∃ discovery survey, Accounts staging now options discovery survey world run.2 run.1 := by
  intro run
  have going : ¬Stopped run.2 := by
    rintro ⟨earlier, s, log⟩
    have along : Along (fun _ => True) (Arises around.watched discoverer.watched lister.watched
        (world.outside, [])) run.2 :=
      capture_preserves (fun _ _ _ _ _ => trivial) ⟨trivial, .start⟩
    have last : ⟨.check true, s⟩ ∈ run.2.outside.2 := by
      rw [log]
      simp
    obtain ⟨asked, answer⟩ := along.outside.watched.2 _ last
    have goes := uncancelled s asked
    rw [answer true rfl] at goes
    cases goes
  refine ⟨capture_seen around.watched_views discoverer.watched_views lister.watched_views
    (world.recording []), ?_⟩
  obtain ⟨discovery, discovered, untouched, told, ends⟩ :=
    discoverResources_selection discoverer options (world.recording [])
  refine ⟨discovery, ?_⟩
  simp only [run, capture] at going ⊢
  generalize discoverResources discoverer.watched (world.recording []) = result at *
  obtain ⟨outcome, between⟩ := result
  cases outcome with
  | error error =>
    obtain ⟨rfl, rfl⟩ := ends
    refine ⟨⟨[], none, []⟩, discovered, by simp, ?_, by simp, by simp, by simp, ?_, by simp, rfl, ?_⟩
    · exact List.nil_prefix
    · exact untouched ▸ .done
    · simpa [Survey.visits, World.recording] using told
  | ok resources =>
    obtain ⟨fine, selected⟩ := ends
    simp only [selected] at going ⊢
    obtain ⟨survey, surveys⟩ := captureAll_surveys staging now around lister options
      (selection options discovery) between
    exact ⟨survey, surveys.accounts discovered untouched told fine going⟩

/-! A capture with a group that fails discovery, an object without a name and a listing that fails. -/

def patchyDiscoverer : Discoverer Unit :=
  ⟨fun s => (.ok ⟨[⟨⟨"", "v1", "configmaps"⟩, "ConfigMap", true, ["list"]⟩],
    [⟨"metrics.k8s.io/v1beta1", .api 503 "service unavailable"⟩]⟩, s)⟩

def patchyLister : Lister Unit :=
  ⟨fun _ ns s => (if ns = some "web" then .ok [[]] else .error (.transport "connection refused"), s)⟩

theorem capture_account_patchy :
    let world : World Unit := ⟨⟨[], []⟩, [], default, ()⟩
    let around : Surroundings Unit := ⟨uncancelled, fun s => (⟨0, 0⟩, s)⟩
    let options : BackupOptions := ⟨["web", "db"], [], true, ["ConfigMap"]⟩
    let run := capture around patchyDiscoverer patchyLister "/tmp" ⟨0, 0⟩ options world
    (run.1 = .ok 0 ∧ run.2.warnings.map Warning.message = ["Skipping API group that failed discovery",
      "Skipping object without a name", "Failed to list resource, skipping"]) ∧
    ∃ discovery survey final, Accounts "/tmp" ⟨0, 0⟩ options discovery survey world final run.1 := by
  intro world around options run
  obtain ⟨same, discovery, survey, accounts⟩ := capture_account around patchyDiscoverer patchyLister
    "/tmp" ⟨0, 0⟩ options world fun _ _ => rfl
  generalize capture around.watched patchyDiscoverer.watched patchyLister.watched "/tmp" ⟨0, 0⟩ options
    (world.recording []) = watched at same accounts
  have outcome : run.1 = watched.1 := congrArg Prod.fst same
  refine ⟨⟨by decide +kernel, by decide +kernel⟩, discovery, survey, watched.2, ?_⟩
  rw [outcome]
  exact accounts

end ClusterArchive.Engine
