import ClusterArchive.Proofs.Engine.Account

/-! The namespaces of a run. Those to include are given without a question. Else each resolution lists
them up to the first that is answered, whose list stands for the rest of the run. So a capture lists
them at most once, and all that it captures in namespaces it captures in the same ones. -/

namespace ClusterArchive

variable {σ : Type}

structure FirstOccurrences (texts names : List String) : Prop where
  order : names.Pairwise fun a b => texts.idxOf a < texts.idxOf b
  members : ∀ name, name ∈ names ↔ name ∈ texts ∧ name ≠ ""

/-- Dropping repetitions leaves the first of each. The filter grows by the texts that were met. -/
theorem eraseDups_filter_order (keep : String → Bool) (texts : List String) :
    (texts.filter keep).eraseDups.Pairwise fun a b => texts.idxOf a < texts.idxOf b := by
  induction texts generalizing keep with
  | nil => simp
  | cons text rest ih =>
    have behind {names : List String} (later : ∀ name ∈ names, name ≠ text)
        (order : names.Pairwise fun a b => rest.idxOf a < rest.idxOf b) :
        names.Pairwise fun a b => (text :: rest).idxOf a < (text :: rest).idxOf b := by
      refine order.imp_of_mem fun isA isB before => ?_
      rw [List.idxOf_cons_ne rest (later _ isA).symm, List.idxOf_cons_ne rest (later _ isB).symm]
      exact Nat.succ_lt_succ before
    cases kept : keep text with
    | false =>
      rw [List.filter_cons_of_neg (by simp [kept])]
      refine behind (fun name member => ?_) (ih keep)
      rintro rfl
      have inside := List.mem_eraseDups.mp member
      rw [List.mem_filter, kept] at inside
      exact Bool.false_ne_true inside.2
    | true =>
      rw [List.filter_cons_of_pos kept, List.eraseDups_cons, List.filter_filter]
      have later : ∀ name ∈ (rest.filter fun name => !name == text && keep name).eraseDups,
          name ≠ text := by
        intro name member
        have inside := List.mem_eraseDups.mp member
        rw [List.mem_filter] at inside
        simpa using (Bool.and_eq_true_iff.mp inside.2).1
      refine List.pairwise_cons.mpr ⟨fun name member => ?_, behind later (ih _)⟩
      rw [List.idxOf_cons_self, List.idxOf_cons_ne rest (later name member).symm]
      exact Nat.succ_pos _

namespace NamespaceResolver

theorem firstOccurrences_included (included excluded : List String) :
    FirstOccurrences (included.map Text.trim) (make included excluded).included where
  order := eraseDups_filter_order _ _
  members := by simp [make, normalize]

def unexcluded (excluded : List String) (objects : List Document) : List String :=
  (objects.filterMap Document.name?).filter fun name => name ∉ excluded.map Text.trim

/-- An empty text that is to be left out makes no difference, as no name is empty. -/
theorem keep_eq (included excluded : List String) (objects : List Document) :
    (make included excluded).keep objects = unexcluded excluded objects := by
  apply List.filter_congr
  intro name member
  obtain ⟨object, _, named⟩ := List.mem_filterMap.mp member
  have nonempty := Document.ne_empty_of_name? named
  rw [Bool.eq_iff_iff]
  simp [make, normalize, nonempty]

structure Resolution where
  answer : Except RunError (List String)
  asked : List Reply

def resolveWatched (resolver : NamespaceResolver) (lister : Lister σ) (s : σ) :
    Resolution × NamespaceResolver :=
  let (answer, next, _, log) := resolver.resolve lister.watched (s, [])
  (⟨answer, log.map Moment.reply⟩, next)

/-- Resolves again and again. Between two times the lister and its state may have become any other. -/
def resolutions (resolver : NamespaceResolver) : List (Lister σ × σ) → List Resolution
  | [] => []
  | (lister, s) :: rest =>
    let (resolution, next) := resolver.resolveWatched lister s
    resolution :: next.resolutions rest

/-- Resolutions that list the namespaces. One that is not told fails and leaves no trace; the list of
the first that is told is that of all later ones, which ask nothing. -/
inductive Settles (excluded : List String) : List (Lister σ × σ) → List Resolution → Prop
  | untried : Settles excluded [] []
  | failed {lister : Lister σ} {s : σ} {rest : List (Lister σ × σ)} {later : List Resolution}
    (reason : ClusterError) (refused : (lister.list .namespaces none s).1 = .error reason)
    (going : Settles excluded rest later) :
    Settles excluded ((lister, s) :: rest)
      (⟨.error (if reason = .cancelled then .cancelled else .namespaceListing reason),
        [.listing .namespaces none (.error reason)]⟩ :: later)
  | settled {lister : Lister σ} {s : σ} (rest : List (Lister σ × σ)) (objects : List Document)
    (told : (lister.list .namespaces none s).1 = .ok objects) :
    Settles excluded ((lister, s) :: rest)
      (⟨.ok (unexcluded excluded objects), [.listing .namespaces none (.ok objects)]⟩ ::
        rest.map fun _ => ⟨.ok (unexcluded excluded objects), []⟩)

theorem listingFailure_eq (reason : ClusterError) : listingFailure reason =
    if reason = .cancelled then .cancelled else .namespaceListing reason := by
  cases reason <;> rfl

theorem resolutions_known {resolver : NamespaceResolver} {names : List String}
    (knows : Engine.known resolver = some names) (attempts : List (Lister σ × σ)) :
    resolver.resolutions attempts = attempts.map fun _ => ⟨.ok names, []⟩ := by
  induction attempts generalizing resolver with
  | nil => rfl
  | cons attempt rest ih =>
    obtain ⟨lister, s⟩ := attempt
    obtain ⟨next, resolved, knowsNext⟩ := Engine.resolve_known lister.watched knows (s, [])
    simp only [resolutions, resolveWatched, resolved, ih knowsNext, List.map_cons, List.map_nil]

theorem resolutions_settle {included : List String} (excluded : List String)
    (blank : (make included excluded).included = []) (attempts : List (Lister σ × σ)) :
    Settles excluded attempts ((make included excluded).resolutions attempts) := by
  induction attempts with
  | nil => exact .untried
  | cons attempt rest ih =>
    obtain ⟨lister, s⟩ := attempt
    rcases answered : lister.list .namespaces none s with ⟨answer, next⟩
    have asked : lister.watched.list .namespaces none (s, []) =
        (answer, next, [⟨.listing .namespaces none answer, s⟩]) := by
      simp [Lister.watched, watch, answered]
    have told : (lister.list .namespaces none s).1 = answer := congrArg Prod.fst answered
    have fresh : (make included excluded).resolved = none := rfl
    cases answer with
    | error reason =>
      have resolved : (make included excluded).resolveWatched lister s =
          (⟨.error (listingFailure reason), [.listing .namespaces none (.error reason)]⟩,
            make included excluded) := by
        simp [resolveWatched, resolve, fresh, find, blank, asked]
      simp only [resolutions, resolved, listingFailure_eq]
      exact .failed reason told ih
    | ok objects =>
      obtain ⟨later, knows, resolved⟩ : ∃ later,
          Engine.known later = some (unexcluded excluded objects) ∧
          (make included excluded).resolveWatched lister s =
            (⟨.ok (unexcluded excluded objects), [.listing .namespaces none (.ok objects)]⟩,
              later) := by
        refine ⟨{ make included excluded with resolved := some _ }, rfl, ?_⟩
        simp [resolveWatched, resolve, fresh, find, blank, asked, keep_eq]
      simp only [resolutions, resolved, resolutions_known knows]
      exact .settled rest objects told

end NamespaceResolver

namespace Engine

open NamespaceResolver

/-- The namespaces that a survey looked into: those that are given, or those that were listed. -/
structure LooksInto (options : BackupOptions) (survey : Survey) (names : List String) : Prop where
  given : (∃ text ∈ options.includeNamespaces, Text.trim text ≠ "") →
    survey.namespaces = none ∧ FirstOccurrences (options.includeNamespaces.map Text.trim) names
  listed : (∀ text ∈ options.includeNamespaces, Text.trim text = "") →
    names = match survey.namespaces with
      | some (.ok objects) => unexcluded options.excludeNamespaces objects
      | _ => []

/-- A survey that asks for the namespaces at most once, and looks into the same ones for all
resources that live in them. -/
structure LooksOnce (options : BackupOptions) (resources : List Resource) (survey : Survey) :
    Prop where
  asked : survey.namespaces.isSome = true → (∃ resource ∈ resources, resource.namespaced = true) ∧
    survey.before.map Visit.place =
      (resources.takeWhile (!·.namespaced)).flatMap (whereabouts options [])
  visited : ∃ names, LooksInto options survey names ∧
    survey.visits.map Visit.place <+: resources.flatMap (whereabouts options names)

theorem Surveys.looksOnce {staging : String} {now : Instant} {options : BackupOptions}
    {resources : List Resource} {survey : Survey} {start final : World (σ × List (Moment σ))}
    {outcome : Except RunError Nat}
    (surveys : Surveys staging now options resources survey start final outcome) :
    LooksOnce options resources survey where
  asked some := ⟨(surveys.looked some).1.1, (surveys.looked some).2⟩
  visited := by
    refine ⟨survey.names options, ⟨fun ⟨text, member, given⟩ => ?_, fun blank => ?_⟩,
      surveys.planned⟩
    · have needless : ¬∀ text ∈ options.includeNamespaces, Text.trim text = "" :=
        fun blank => given (blank text member)
      constructor
      · cases listing : survey.namespaces with
        | none => rfl
        | some answer => exact absurd (surveys.looked (by simp [listing])).1.2 needless
      · rw [Survey.names, if_neg (mt included_eq_nil.mp needless)]
        exact firstOccurrences_included _ _
    · rw [Survey.names, if_pos (included_eq_nil.mpr blank)]
      rcases survey.namespaces with _ | _ | objects
      · rfl
      · rfl
      · exact keep_eq _ _ objects

/-- What a capture asks: what there is, and then what is in its survey. -/
theorem capture_looksOnce (around : Surroundings σ) (discoverer : Discoverer σ) (lister : Lister σ)
    (staging : String) (now : Instant) (options : BackupOptions) (world : World σ) :
    let run := capture around.watched discoverer.watched lister.watched staging now options
      (world.recording [])
    ∃ discovery survey, asks run.2.outside.2 = .discovery discovery :: survey.asked ∧
      LooksOnce options (selection options discovery) survey := by
  intro run
  obtain ⟨discovery, discovered, _, _, ends⟩ :=
    discoverResources_selection discoverer options (world.recording [])
  refine ⟨discovery, ?_⟩
  simp only [run, capture]
  generalize discoverResources discoverer.watched (world.recording []) = result at *
  obtain ⟨outcome, between⟩ := result
  have goes {survey : Survey} {final : World (σ × List (Moment σ))} {outcome : Except RunError Nat}
      (surveys : Surveys staging now options (selection options discovery) survey between final
        outcome) : asks final.outside.2 = .discovery discovery :: survey.asked ∧
        LooksOnce options (selection options discovery) survey := by
    refine ⟨?_, surveys.looksOnce⟩
    rw [surveys.logs.asked, discovered]
    rfl
  cases outcome with
  | error error =>
    obtain ⟨rfl, rfl⟩ := ends
    have none : Surveys staging now options [] ⟨[], none, []⟩ between between (.ok 0) :=
      .ofVisits (.refl between) ⟨rfl, rfl, by simp⟩ fun _ _ => by simp [Needed]
    exact ⟨_, goes none⟩
  | ok resources =>
    obtain ⟨_, selected⟩ := ends
    simp only [selected]
    obtain ⟨survey, surveys⟩ := captureAll_surveys staging now around lister options
      (selection options discovery) between
    exact ⟨survey, goes surveys⟩

/-- Namespaces to include are returned without a question. Else the first listing that is answered
stands for all later resolutions, whatever a server would tell then. A capture asks for the
namespaces at most once, only if something lives in them, and uses one list of them throughout. -/
theorem namespaces_resolved_once (options : BackupOptions) (attempts : List (Lister σ × σ))
    (around : Surroundings σ) (discoverer : Discoverer σ) (lister : Lister σ) (staging : String)
    (now : Instant) (world : World σ) :
    let resolver := NamespaceResolver.make options.includeNamespaces options.excludeNamespaces
    let run := capture around.watched discoverer.watched lister.watched staging now options
      (world.recording [])
    ((∃ text ∈ options.includeNamespaces, Text.trim text ≠ "") →
      ∃ names, FirstOccurrences (options.includeNamespaces.map Text.trim) names ∧
        resolver.resolutions attempts = attempts.map fun _ => ⟨.ok names, []⟩) ∧
    ((∀ text ∈ options.includeNamespaces, Text.trim text = "") →
      Settles options.excludeNamespaces attempts (resolver.resolutions attempts)) ∧
    capture around discoverer lister staging now options world = (run.1, run.2.seen Prod.fst) ∧
    ∃ discovery survey, asks run.2.outside.2 = .discovery discovery :: survey.asked ∧
      LooksOnce options (selection options discovery) survey := by
  intro resolver run
  refine ⟨fun ⟨text, member, given⟩ => ?_, fun blank => ?_,
    capture_seen around.watched_views discoverer.watched_views lister.watched_views
      (world.recording []),
    capture_looksOnce around discoverer lister staging now options world⟩
  · have included : resolver.included ≠ [] :=
      mt included_eq_nil.mp fun blank => given (blank text member)
    have knows : known resolver = some resolver.included := if_neg included
    exact ⟨resolver.included, firstOccurrences_included _ _, resolutions_known knows attempts⟩
  · exact resolutions_settle _ (included_eq_nil.mpr blank) attempts

/-! A server that fails first, and then tells of other namespaces each time. -/

def restless : Lister Nat where
  list _ _ s :=
    let named (name : String) : Document := [("metadata", .object [("name", .string name)])]
    (if s = 0 then .error (.transport "connection refused")
      else .ok [named "kube-system", named ("web-" ++ toString s)], s + 1)

def idle : Discoverer Nat := ⟨fun s => (.ok ⟨[], []⟩, s)⟩

/-- The list that was told first stays, and one that is given needs no telling. -/
theorem namespaces_resolved_once_restless :
    let attempts := [(restless, 0), (restless, 1), (restless, 2)]
    let listed : BackupOptions := ⟨[" "], ["kube-system "], true, []⟩
    let given : BackupOptions := ⟨[" db", "web", "db"], ["web"], true, []⟩
    let answers (options : BackupOptions) := ((NamespaceResolver.make options.includeNamespaces
      options.excludeNamespaces).resolutions attempts).map Resolution.answer
    ((∀ text ∈ listed.includeNamespaces, Text.trim text = "") ∧
      (∃ text ∈ given.includeNamespaces, Text.trim text ≠ "")) ∧
    answers listed =
      [.error (.namespaceListing (.transport "connection refused")), .ok ["web-1"], .ok ["web-1"]] ∧
    answers given = [.ok ["db", "web"], .ok ["db", "web"], .ok ["db", "web"]] ∧
    Settles listed.excludeNamespaces attempts ((NamespaceResolver.make listed.includeNamespaces
      listed.excludeNamespaces).resolutions attempts) ∧
    ∃ names, FirstOccurrences (given.includeNamespaces.map Text.trim) names ∧
      (NamespaceResolver.make given.includeNamespaces given.excludeNamespaces).resolutions attempts =
        attempts.map fun _ => ⟨.ok names, []⟩ := by
  intro attempts listed given answers
  have blank : ∀ text ∈ listed.includeNamespaces, Text.trim text = "" := by decide
  have some_ : ∃ text ∈ given.includeNamespaces, Text.trim text ≠ "" := by decide
  have resolved (options : BackupOptions) := namespaces_resolved_once options attempts
    ⟨uncancelled, fun s => (⟨0, 0⟩, s)⟩ idle restless "/tmp" ⟨0, 0⟩ ⟨⟨[], []⟩, [], default, 0⟩
  exact ⟨⟨blank, some_⟩, by rfl, by rfl, (resolved listed).2.1 blank, (resolved given).1 some_⟩

end Engine

end ClusterArchive
