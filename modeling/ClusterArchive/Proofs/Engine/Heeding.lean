import ClusterArchive.Proofs.Engine.Chronicle

/-! How runs heed a cancellation. Once a part of a run is told that it was cancelled, by a check or
by a call, it asks nothing more and fails for that reason; so does the run. -/

namespace ClusterArchive

def Reply.isCancelled : Reply → Bool
  | .check cancelled => cancelled
  | .discovery (.error .cancelled) => true
  | .listing _ _ (.error .cancelled) => true
  | .exchange (.create _ _ _ (.error .cancelled)) => true
  | .exchange (.get _ _ _ (.error .cancelled)) => true
  | .exchange (.update _ _ _ (.error .cancelled)) => true
  | _ => false

variable {σ α β : Type}

/-- Nothing that was asked since told of a cancellation. -/
def Calm (before after : List (Moment σ)) : Prop :=
  ∃ later, after = before ++ later ∧ ∀ moment ∈ later, moment.reply.isCancelled = false

/-- The last of what was asked since told of a cancellation, and it alone. -/
def Told (before after : List (Moment σ)) : Prop :=
  ∃ between moment, Calm before between ∧ after = between ++ [moment] ∧
    moment.reply.isCancelled = true

/-- A part of a run that was told of a cancellation fails at once. -/
def Heeds (before after : List (Moment σ)) : Except RunError α → Prop
  | .ok _ => Calm before after
  | .error error => Calm before after ∨ error = .cancelled ∧ Told before after

namespace Calm

variable {before between after : List (Moment σ)}

theorem refl (log : List (Moment σ)) : Calm log log := ⟨[], by simp, by simp⟩

theorem trans (first : Calm before between) (second : Calm between after) : Calm before after := by
  obtain ⟨later, rfl, calm⟩ := first
  obtain ⟨latest, rfl, calmLater⟩ := second
  exact ⟨later ++ latest, by simp, List.forall_mem_append.mpr ⟨calm, calmLater⟩⟩

theorem all {log : List (Moment σ)} (calm : Calm [] log) :
    ∀ moment ∈ log, moment.reply.isCancelled = false := by
  obtain ⟨later, rfl, fine⟩ := calm
  exact fine

theorem heeds (calm : Calm before between) {outcome : Except RunError α}
    (heeds : Heeds between after outcome) : Heeds before after outcome := by
  cases outcome with
  | ok => exact calm.trans heeds
  | error error =>
    rcases heeds with later | ⟨rfl, last, moment, later, rfl, told⟩
    · exact .inl (calm.trans later)
    · exact .inr ⟨rfl, last, moment, calm.trans later, rfl, told⟩

theorem ask (log : List (Moment σ)) {moment : Moment σ} (calm : moment.reply.isCancelled = false) :
    Calm log (log ++ [moment]) :=
  ⟨[moment], rfl, by simpa using calm⟩

end Calm

theorem Told.ask (log : List (Moment σ)) {moment : Moment σ}
    (told : moment.reply.isCancelled = true) : Told log (log ++ [moment]) :=
  ⟨log, moment, .refl log, rfl, told⟩

theorem Told.last {log earlier later : List (Moment σ)} {moment : Moment σ} (told : Told [] log)
    (split : log = earlier ++ moment :: later) (cancelled : moment.reply.isCancelled = true) :
    later = [] := by
  obtain ⟨between, last, calm, rfl, _⟩ := told
  rcases concat_eq_split.mp split with ⟨_, _, none⟩ | ⟨rest, rfl, rfl⟩
  · exact none
  · rw [calm.all moment (by simp)] at cancelled
    cases cancelled

/-- A run that was told of a cancellation has failed for it, and it asked nothing more. -/
theorem Heeds.told {log earlier later : List (Moment σ)} {moment : Moment σ}
    {outcome : Except RunError α} (heeds : Heeds [] log outcome)
    (split : log = earlier ++ moment :: later) (cancelled : moment.reply.isCancelled = true) :
    outcome = .error .cancelled ∧ later = [] := by
  have loud : ¬Calm [] log := by
    intro calm
    rw [calm.all moment (by simp [split])] at cancelled
    cases cancelled
  cases outcome with
  | ok => exact absurd heeds loud
  | error error =>
    rcases heeds with calm | ⟨rfl, told⟩
    · exact absurd calm loud
    · exact ⟨rfl, told.last split cancelled⟩

/-- A question that is answered by an error in the one case that it tells of a cancellation. -/
theorem heeds_ask {reply : Reply} {s : σ} (log : List (Moment σ)) {error : RunError}
    (told : reply.isCancelled = true → error = .cancelled) :
    Heeds log (log ++ [⟨reply, s⟩]) (.error error : Except RunError α) := by
  cases cancelled : reply.isCancelled with
  | false => exact .inl (.ask log cancelled)
  | true => exact .inr ⟨told cancelled, .ask log cancelled⟩

namespace Engine

variable (staging : String) (now : Instant) (around : Surroundings σ) (discoverer : Discoverer σ)
  (lister : Lister σ) (options : BackupOptions)

/-- A question that is written down leaves all but what it asks. -/
theorem ask_watch (reply : α → Reply) {world after : World (σ × List (Moment σ))}
    {question : σ → α × σ} {answer : α} (asked : world.ask (watch reply question) = (answer, after)) :
    after.volume = world.volume ∧ after.outside = (watch reply question world.outside).2 ∧
      after.outside.2 = world.outside.2 ++ [⟨reply answer, world.outside.1⟩] := by
  obtain ⟨rfl, rfl⟩ := Prod.mk.inj asked
  exact ⟨rfl, rfl, rfl⟩

theorem captureResource_heeds (resource : Resource) (ns : Option String)
    (world : World (σ × List (Moment σ))) :
    let run := captureResource lister.watched staging now resource ns world
    Heeds world.outside.2 run.2.outside.2 run.1 := by
  have asked : (world.ask (lister.watched.list resource ns)).2.outside.2 = world.outside.2 ++
      [⟨.listing resource ns (world.ask (lister.watched.list resource ns)).1, world.outside.1⟩] := rfl
  unfold captureResource
  generalize world.ask (lister.watched.list resource ns) = answer at asked
  obtain ⟨outcome, between⟩ := answer
  cases outcome with
  | error error =>
    cases error with
    | cancelled =>
      simp only [] at asked ⊢
      exact asked ▸ heeds_ask _ fun _ => rfl
    | _ =>
      simp only [World.warn] at asked ⊢
      exact asked ▸ .ask _ rfl
  | ok objects =>
    simp only [writeObjects_outside] at asked ⊢
    exact asked ▸ .ask _ rfl

theorem captureNamespaces_heeds (resource : Resource) (names : List String)
    (world : World (σ × List (Moment σ))) :
    let run := captureNamespaces lister.watched staging now resource names world
    Heeds world.outside.2 run.2.outside.2 run.1 := by
  induction names generalizing world with
  | nil => exact .refl _
  | cons ns rest ih =>
    have first := captureResource_heeds staging now lister resource
      (some ns) world
    simp only [captureNamespaces]
    generalize captureResource lister.watched staging now resource (some ns) world = result at first
    obtain ⟨outcome, between⟩ := result
    cases outcome with
    | error error => exact first
    | ok count =>
      have all := first.heeds (ih between)
      simp only []
      generalize captureNamespaces lister.watched staging now resource rest between = result at all
      obtain ⟨outcome, after⟩ := result
      cases outcome <;> exact all

theorem resolve_heeds (resolver : NamespaceResolver) (s : σ × List (Moment σ)) :
    let answer := resolver.resolve lister.watched s
    Heeds s.2 answer.2.2.2 answer.1 := by
  unfold NamespaceResolver.resolve
  cases resolver.resolved with
  | some names => exact .refl _
  | none =>
    have asked : (lister.watched.list .namespaces none s).2.2 = s.2 ++
        [⟨.listing .namespaces none (lister.watched.list .namespaces none s).1, s.1⟩] := rfl
    by_cases given : resolver.included = []
    · simp only [NamespaceResolver.find, given, ne_eq, not_true_eq_false, if_false]
      generalize lister.watched.list .namespaces none s = answer at asked
      obtain ⟨outcome, next⟩ := answer
      cases outcome with
      | error error =>
        simp only [] at asked ⊢
        rw [asked]
        refine heeds_ask _ fun told => ?_
        cases error with
        | cancelled => rfl
        | _ => cases told
      | ok objects =>
        simp only [] at asked ⊢
        exact asked ▸ .ask _ rfl
    · simp only [NamespaceResolver.find, ne_eq, given, not_false_eq_true, if_true]
      exact .refl _

theorem captureOne_heeds (resolver : NamespaceResolver) (resource : Resource)
    (world : World (σ × List (Moment σ))) :
    let run := captureOne lister.watched staging now options resolver resource world
    Heeds world.outside.2 run.2.2.outside.2 run.1 := by
  simp only [captureOne]
  by_cases inside : resource.namespaced = true
  · have resolved := resolve_heeds lister resolver world.outside
    simp only [inside, if_true]
    generalize resolver.resolve lister.watched world.outside = answer at resolved
    obtain ⟨outcome, next, outside⟩ := answer
    cases outcome with
    | error error => exact resolved
    | ok names => exact resolved.heeds (captureNamespaces_heeds staging now lister resource names _)
  · by_cases included : options.includeClusterResources = true
    · simp only [inside, included, if_true]
      exact captureResource_heeds staging now lister resource none world
    · simp only [inside, included]
      exact .refl _

theorem captureAll_heeds (resolver : NamespaceResolver) (resources : List Resource)
    (world : World (σ × List (Moment σ))) :
    let run := captureAll around.watched lister.watched staging now options resolver resources world
    Heeds world.outside.2 run.2.outside.2 run.1 := by
  induction resources generalizing resolver world with
  | nil => exact .refl _
  | cons resource rest ih =>
    rcases asked : world.ask around.watched.cancelled with ⟨cancelled, ready⟩
    obtain ⟨_, _, logged⟩ := ask_watch .check asked
    cases cancelled with
    | true =>
      rw [captureAll_of_cancelled asked]
      simp only [logged]
      exact heeds_ask _ fun _ => rfl
    | false =>
      have checked : Calm world.outside.2 ready.outside.2 := logged ▸ .ask _ rfl
      have first := checked.heeds (captureOne_heeds staging now lister options resolver resource ready)
      rcases captured : captureOne lister.watched staging now options resolver resource ready with
        ⟨outcome, next, between⟩
      rw [captured] at first
      cases outcome with
      | error error =>
        rw [captureAll_of_failed asked captured]
        exact first
      | ok count =>
        rw [captureAll_of_captured asked captured]
        have all := first.heeds (ih next between)
        generalize captureAll around.watched lister.watched staging now options next rest between =
          result at all ⊢
        obtain ⟨outcome, after⟩ := result
        cases outcome <;> exact all

theorem capture_heeds (world : World (σ × List (Moment σ))) :
    let run := capture around.watched discoverer.watched lister.watched staging now options world
    Heeds world.outside.2 run.2.outside.2 run.1 := by
  have asked : (world.ask discoverer.watched.discover).2.outside.2 = world.outside.2 ++
      [⟨.discovery (world.ask discoverer.watched.discover).1, world.outside.1⟩] := rfl
  simp only [capture, discoverResources]
  generalize world.ask discoverer.watched.discover = answer at asked
  obtain ⟨outcome, between⟩ := answer
  simp only [] at asked
  cases outcome with
  | error error =>
    cases error with
    | cancelled => exact asked ▸ heeds_ask _ fun _ => rfl
    | _ =>
      have calm : Calm world.outside.2 between.outside.2 := asked ▸ .ask _ rfl
      exact calm.heeds (captureAll_heeds staging now around lister options _ _ (between.warn ..))
  | ok report =>
    have calm : Calm world.outside.2 between.outside.2 := asked ▸ .ask _ rfl
    simp only [warn_failures]
    exact calm.heeds (captureAll_heeds staging now around lister options _ _ _)

end Engine

/-! Restores. -/

def Reply.isCreate : Reply → Bool
  | .exchange (.create ..) => true
  | _ => false

/-- Every object is sent for creation right behind a check that was passed. -/
def Guarded (log : List (Moment σ)) : Prop :=
  ∀ earlier moment later, log = earlier ++ moment :: later → moment.reply.isCreate = true →
    ∃ front s, earlier = front ++ [⟨.check false, s⟩]

theorem Guarded.ask {log : List (Moment σ)} (guarded : Guarded log) (moment : Moment σ)
    (behind : moment.reply.isCreate = true → ∃ front s, log = front ++ [⟨.check false, s⟩]) :
    Guarded (log ++ [moment]) := by
  intro earlier other later split create
  rcases concat_eq_split.mp split with ⟨rfl, rfl, rfl⟩ | ⟨rest, rfl, same⟩
  · exact behind create
  · exact guarded earlier other rest same create

theorem Guarded.other {log : List (Moment σ)} (guarded : Guarded log) (moment : Moment σ)
    (other : moment.reply.isCreate = false) : Guarded (log ++ [moment]) := by
  refine guarded.ask moment fun create => ?_
  rw [other] at create
  cases create

structure Proceeds (around : Surroundings σ) (applier : Applier σ) (start : σ)
    (before : List (Moment σ)) (after : σ × List (Moment σ)) (outcome : Except RunError α) :
    Prop where
  chronicle : Chronicle (RestoreAnswers around applier) start after.1 after.2
  guarded : Guarded after.2
  heeds : Heeds before after.2 outcome

namespace Applier

variable {around : Surroundings σ} {applier : Applier σ} {start : σ}

theorem watched_create (applier : Applier σ) (type : ResourceType) (ns : Option String)
    (object : Document) (s : σ × List (Moment σ)) : applier.watched.create type ns object s =
      ((applier.create type ns object s.1).1, (applier.create type ns object s.1).2, s.2 ++
        [⟨.exchange (.create type ns object (applier.create type ns object s.1).1), s.1⟩]) := rfl

theorem watched_get (applier : Applier σ) (type : ResourceType) (ns : Option String)
    (name : String) (s : σ × List (Moment σ)) : applier.watched.get type ns name s =
      ((applier.get type ns name s.1).1, (applier.get type ns name s.1).2, s.2 ++
        [⟨.exchange (.get type ns name (applier.get type ns name s.1).1), s.1⟩]) := rfl

theorem watched_update (applier : Applier σ) (type : ResourceType) (ns : Option String)
    (object : Document) (s : σ × List (Moment σ)) : applier.watched.update type ns object s =
      ((applier.update type ns object s.1).1, (applier.update type ns object s.1).2, s.2 ++
        [⟨.exchange (.update type ns object (applier.update type ns object s.1).1), s.1⟩]) := rfl

theorem replace_proceeds (item : RestoreItem) (s : σ × List (Moment σ))
    (chronicle : Chronicle (RestoreAnswers around applier) start s.1 s.2) (guarded : Guarded s.2) :
    let run := applier.watched.replace item s
    Proceeds around applier start s.2 run.2 run.1 := by
  have fetched := chronicle.ask (.get item.entry.type item.entry.ns item.entry.name s.1)
  have guardedThen := guarded.other ⟨.exchange (.get item.entry.type item.entry.ns
    item.entry.name (applier.get item.entry.type item.entry.ns item.entry.name s.1).1), s.1⟩ rfl
  simp only [replace, watched_get, watched_update]
  generalize applier.get item.entry.type item.entry.ns item.entry.name s.1 = answer
    at fetched guardedThen
  obtain ⟨outcome, next⟩ := answer
  cases outcome with
  | error error =>
    refine ⟨fetched, guardedThen, heeds_ask _ fun told => ?_⟩
    cases error with
    | cancelled => rfl
    | _ => cases told
  | ok live =>
    have sent := fetched.ask (.update item.entry.type item.entry.ns (item.desired live) next)
    have guardedLast := guardedThen.other ⟨.exchange (.update item.entry.type item.entry.ns
      (item.desired live) (applier.update item.entry.type item.entry.ns (item.desired live) next).1),
      next⟩ rfl
    have calm : Calm s.2 (s.2 ++ [⟨.exchange (.get item.entry.type item.entry.ns item.entry.name
      (.ok live)), s.1⟩]) := .ask _ rfl
    simp only [] at sent guardedLast ⊢
    generalize applier.update item.entry.type item.entry.ns (item.desired live) next = answer
      at sent guardedLast
    obtain ⟨outcome, last⟩ := answer
    cases outcome with
    | ok stored => exact ⟨sent, guardedLast, calm.trans (.ask _ rfl)⟩
    | error error =>
      refine ⟨sent, guardedLast, calm.heeds (heeds_ask _ fun told => ?_)⟩
      cases error with
      | cancelled => rfl
      | _ => cases told

/-- An item begins with its creation, behind the check that let it begin. -/
theorem applyItem_proceeds (item : RestoreItem) (s : σ × List (Moment σ))
    (chronicle : Chronicle (RestoreAnswers around applier) start s.1 s.2) (guarded : Guarded s.2)
    (checked : ∃ front state, s.2 = front ++ [⟨.check false, state⟩]) :
    let run := applier.watched.applyItem item s
    Proceeds around applier start s.2 run.2 run.1 := by
  have created := chronicle.ask (.create item.entry.type item.entry.ns item.object s.1)
  have guardedThen := guarded.ask ⟨.exchange (.create item.entry.type item.entry.ns
    item.object (applier.create item.entry.type item.entry.ns item.object s.1).1), s.1⟩
    fun _ => checked
  simp only [applyItem, watched_create]
  generalize applier.create item.entry.type item.entry.ns item.object s.1 = answer
    at created guardedThen
  obtain ⟨outcome, next⟩ := answer
  cases outcome with
  | ok stored => exact ⟨created, guardedThen, .ask _ rfl⟩
  | error error =>
    cases error with
    | alreadyExists resource name =>
      have replaced := replace_proceeds item (next, s.2 ++ [⟨.exchange (.create item.entry.type
        item.entry.ns item.object (.error (.alreadyExists resource name))), s.1⟩]) created guardedThen
      exact ⟨replaced.chronicle, replaced.guarded, (Calm.ask _ rfl).heeds replaced.heeds⟩
    | cancelled => exact ⟨created, guardedThen, heeds_ask _ fun _ => rfl⟩
    | _ => exact ⟨created, guardedThen, heeds_ask _ fun told => by cases told⟩

theorem applyInOrder_proceeds (summary : ApplySummary) (items : List RestoreItem)
    (s : σ × List (Moment σ)) (chronicle : Chronicle (RestoreAnswers around applier) start s.1 s.2)
    (guarded : Guarded s.2) :
    let run := applier.watched.applyInOrder around.watched.cancelled summary items s
    Proceeds around applier start s.2 run.2 run.1 := by
  induction items generalizing summary s with
  | nil => exact ⟨chronicle, guarded, .refl _⟩
  | cons item rest ih =>
    have checked := chronicle.ask (.check s.1)
    have guardedThen := guarded.other ⟨.check (around.cancelled s.1).1, s.1⟩ rfl
    have asked : around.watched.cancelled s = ((around.cancelled s.1).1, (around.cancelled s.1).2,
        s.2 ++ [⟨.check (around.cancelled s.1).1, s.1⟩]) := rfl
    simp only [applyInOrder, asked]
    generalize around.cancelled s.1 = answer at checked guardedThen
    obtain ⟨cancelled, next⟩ := answer
    cases cancelled with
    | true => exact ⟨checked, guardedThen, heeds_ask _ fun _ => rfl⟩
    | false =>
      have applied := applyItem_proceeds item (next, s.2 ++ [⟨.check false, s.1⟩]) checked
        guardedThen ⟨s.2, s.1, rfl⟩
      simp only []
      generalize applier.watched.applyItem item _ = result at applied
      obtain ⟨outcome, after⟩ := result
      have passed : Calm s.2 (s.2 ++ [⟨.check false, s.1⟩]) := .ask _ rfl
      have heeds := passed.heeds applied.heeds
      cases outcome with
      | error error => exact ⟨applied.chronicle, applied.guarded, heeds⟩
      | ok outcome =>
        have later := ih (summary.record outcome) after applied.chronicle applied.guarded
        exact ⟨later.chronicle, later.guarded, heeds.heeds later.heeds⟩

end Applier

namespace Engine

theorem runRestore_proceeds (engine : Engine) (around : Surroundings σ) (applier : Applier σ)
    (destination archive : String) (world : World σ) :
    let run := engine.runRestore around.watched applier.watched destination archive
      (world.recording [])
    Proceeds around applier world.outside [] run.2.outside run.1 := by
  have timed : Chronicle (RestoreAnswers around applier) world.outside
      (around.now world.outside).2 [⟨.time (around.now world.outside).1, world.outside⟩] :=
    Chronicle.start.ask (.time world.outside)
  have guarded : Guarded [⟨.time (around.now world.outside).1, world.outside⟩] := by
    intro earlier moment later split create
    obtain ⟨_, rfl, _⟩ | ⟨_, _, none⟩ := concat_eq_split.mp (show [] ++ [_] = _ from split)
    · cases create
    · simp at none
  have asked : (world.recording []).ask around.watched.now = ((around.now world.outside).1,
      { world with outside := (around.now world.outside).2 }.recording
        [⟨.time (around.now world.outside).1, world.outside⟩]) := rfl
  have calm : Calm [] [⟨.time (around.now world.outside).1, world.outside⟩] := .ask [] rfl
  simp only [runRestore, asked]
  generalize around.now world.outside = answer at *
  obtain ⟨started, next⟩ := answer
  simp only [] at timed guarded calm
  generalize ([⟨.time started, world.outside⟩] : List (Moment σ)) = log at timed guarded calm
  by_cases blank : Text.isBlankText archive
  · simp only [blank, if_true]
    exact ⟨timed, guarded, .inl calm⟩
  simp only [blank]
  cases engine.store destination with
  | error error => exact ⟨timed, guarded, .inl calm⟩
  | ok store =>
    have checked := timed.ask (.check next)
    have guardedThen := guarded.other ⟨.check (around.cancelled next).1, next⟩ rfl
    have asked : ({ world with outside := next }.recording log).ask around.watched.cancelled =
        ((around.cancelled next).1, { world with outside := (around.cancelled next).2 }.recording
          (log ++ [(⟨.check (around.cancelled next).1, next⟩ : Moment σ)])) := rfl
    simp only [asked]
    generalize around.cancelled next = answer at checked guardedThen
    obtain ⟨cancelled, later⟩ := answer
    cases cancelled with
    | true => exact ⟨checked, guardedThen, calm.heeds (heeds_ask _ fun _ => rfl)⟩
    | false =>
      have passed : Calm log (log ++ [⟨.check false, next⟩]) := .ask _ rfl
      have calm := calm.trans passed
      simp only []
      cases engine.readArchive store _ archive with
      | error error => exact ⟨checked, guardedThen, .inl calm⟩
      | ok items =>
        have applied := Applier.applyInOrder_proceeds ⟨0, 0⟩ (Applier.schedule items)
          (later, log ++ [⟨.check false, next⟩]) checked guardedThen
        simp only [World.ask, World.recording, Applier.applyItems]
        generalize applier.watched.applyInOrder around.watched.cancelled ⟨0, 0⟩
          (Applier.schedule items) _ = result at applied
        obtain ⟨outcome, after⟩ := result
        have heeds := calm.heeds applied.heeds
        cases outcome with
        | error error => exact ⟨applied.chronicle, applied.guarded, heeds⟩
        | ok summary =>
          exact ⟨applied.chronicle.ask (.time after.1), applied.guarded.other _ rfl,
            heeds.trans (.ask _ rfl)⟩

end Engine

end ClusterArchive
