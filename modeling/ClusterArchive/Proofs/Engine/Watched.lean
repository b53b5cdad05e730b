import ClusterArchive.Proofs.Engine.Captured
import ClusterArchive.Proofs.Engine.Reading

/-! Watching a run. Each question is written down with its answer and the state that it was asked in.
A run sees nothing of its surroundings but the answers, so it goes on in the same way. -/

namespace ClusterArchive

inductive Reply
  | time (now : Instant)
  | check (cancelled : Bool)
  | discovery (answer : Except ClusterError DiscoveryReport)
  | listing (resource : Resource) (ns : Option String)
    (answer : Except ClusterError (List Document))
  | exchange (exchange : Exchange)

structure Moment (σ : Type) where
  reply : Reply
  state : σ

variable {σ τ α : Type}

/-- The same question, written down behind those before it. -/
def watch (reply : α → Reply) (question : σ → α × σ) (s : σ × List (Moment σ)) :
    α × σ × List (Moment σ) :=
  let (answer, next) := question s.1
  (answer, next, s.2 ++ [⟨reply answer, s.1⟩])

def Surroundings.watched (around : Surroundings σ) : Surroundings (σ × List (Moment σ)) :=
  ⟨watch .check around.cancelled, watch .time around.now⟩

def Discoverer.watched (discoverer : Discoverer σ) : Discoverer (σ × List (Moment σ)) :=
  ⟨watch .discovery discoverer.discover⟩

def Lister.watched (lister : Lister σ) : Lister (σ × List (Moment σ)) :=
  ⟨fun resource ns => watch (.listing resource ns) (lister.list resource ns)⟩

def Applier.watched (applier : Applier σ) : Applier (σ × List (Moment σ)) where
  create type ns object :=
    watch (fun answer => .exchange (.create type ns object answer)) (applier.create type ns object)
  get type ns name :=
    watch (fun answer => .exchange (.get type ns name answer)) (applier.get type ns name)
  update type ns object :=
    watch (fun answer => .exchange (.update type ns object answer)) (applier.update type ns object)

/-! A run over a larger state, of which its questions use a part. -/

/-- A question asks one part of a state and gives the answer of that part. -/
def Views (view : τ → σ) (whole : τ → α × τ) (part : σ → α × σ) : Prop :=
  ∀ s, part (view s) = ((whole s).1, view (whole s).2)

def World.seen (view : τ → σ) (world : World τ) : World σ :=
  ⟨world.volume, world.warnings, world.metrics, view world.outside⟩

/-- What sees nothing of the outside leaves it: it runs alike where there is nothing. -/
theorem World.outside_of_seen {run : World τ → α × World τ} {bare : World Unit → α × World Unit}
    (world : World τ) (seen : ∀ (view : Unit → τ) (alone : World Unit),
      run (alone.seen view) = ((bare alone).1, (bare alone).2.seen view)) :
    (run world).2.outside = world.outside :=
  congrArg (fun result => result.2.outside)
    (seen (fun _ => world.outside) (world.seen fun _ => ()))

section

variable {view : τ → σ}

theorem Views.ask {whole : τ → α × τ} {part : σ → α × σ} (views : Views view whole part)
    (world : World τ) :
    (world.seen view).ask part = ((world.ask whole).1, (world.ask whole).2.seen view) := by
  simp [World.ask, World.seen, views world.outside]

structure Surroundings.Views (view : τ → σ) (whole : Surroundings τ) (part : Surroundings σ) :
    Prop where
  cancelled : ClusterArchive.Views view whole.cancelled part.cancelled
  now : ClusterArchive.Views view whole.now part.now

def Discoverer.Views (view : τ → σ) (whole : Discoverer τ) (part : Discoverer σ) : Prop :=
  ClusterArchive.Views view whole.discover part.discover

def Lister.Views (view : τ → σ) (whole : Lister τ) (part : Lister σ) : Prop :=
  ∀ resource ns, ClusterArchive.Views view (whole.list resource ns) (part.list resource ns)

structure Applier.Views (view : τ → σ) (whole : Applier τ) (part : Applier σ) : Prop where
  create : ∀ type ns object,
    ClusterArchive.Views view (whole.create type ns object) (part.create type ns object)
  get : ∀ type ns name, ClusterArchive.Views view (whole.get type ns name) (part.get type ns name)
  update : ∀ type ns object,
    ClusterArchive.Views view (whole.update type ns object) (part.update type ns object)

variable {around : Surroundings τ} {aroundPart : Surroundings σ} {discoverer : Discoverer τ}
  {discovererPart : Discoverer σ} {lister : Lister τ} {listerPart : Lister σ}
  {applier : Applier τ} {applierPart : Applier σ}

namespace Engine

variable {staging : String} {now : Instant} {options : BackupOptions}

theorem writeObjects_seen (type : ResourceType) (ns : Option String) (objects : List Document)
    (world : World τ) :
    let run := writeObjects staging type ns now objects world
    writeObjects staging type ns now objects (world.seen view) = (run.1, run.2.seen view) := by
  induction objects generalizing world with
  | nil => rfl
  | cons object rest ih =>
    simp only [writeObjects]
    cases object.name? with
    | none => exact ih (world.warn ..)
    | some name =>
      simp only [World.onVolume, World.seen] at ih ⊢
      generalize writeObject staging ⟨type, ns, name⟩ object now world.volume = result
      obtain ⟨outcome, volume⟩ := result
      cases outcome with
      | ok => simp only [ih { world with volume := volume }]
      | error error => exact ih ({ world with volume := volume }.warn ..)

theorem writeObjects_outside (type : ResourceType) (ns : Option String) (objects : List Document)
    (world : World τ) :
    (writeObjects staging type ns now objects world).2.outside = world.outside :=
  world.outside_of_seen fun _ => writeObjects_seen type ns objects

theorem captureResource_seen (lists : lister.Views view listerPart) (resource : Resource)
    (ns : Option String) (world : World τ) :
    let run := captureResource lister staging now resource ns world
    captureResource listerPart staging now resource ns (world.seen view) =
      (run.1, run.2.seen view) := by
  simp only [captureResource, (lists resource ns).ask]
  generalize world.ask (lister.list resource ns) = answer
  obtain ⟨outcome, between⟩ := answer
  cases outcome with
  | error error => cases error <;> rfl
  | ok objects => simp only [writeObjects_seen]

theorem captureNamespaces_seen (lists : lister.Views view listerPart) (resource : Resource)
    (names : List String) (world : World τ) :
    let run := captureNamespaces lister staging now resource names world
    captureNamespaces listerPart staging now resource names (world.seen view) =
      (run.1, run.2.seen view) := by
  induction names generalizing world with
  | nil => rfl
  | cons ns rest ih =>
    simp only [captureNamespaces, captureResource_seen lists]
    generalize captureResource lister staging now resource (some ns) world = result
    obtain ⟨outcome, between⟩ := result
    cases outcome with
    | error error => rfl
    | ok count =>
      simp only [ih]
      generalize captureNamespaces lister staging now resource rest between = result
      obtain ⟨outcome, after⟩ := result
      cases outcome <;> rfl

theorem resolve_seen (lists : lister.Views view listerPart) (resolver : NamespaceResolver) (s : τ) :
    let answer := resolver.resolve lister s
    resolver.resolve listerPart (view s) = (answer.1, answer.2.1, view answer.2.2) := by
  unfold NamespaceResolver.resolve NamespaceResolver.find
  cases resolver.resolved with
  | some names => rfl
  | none =>
    by_cases given : resolver.included = []
    · simp only [given, ne_eq, not_true_eq_false, if_false, lists Resource.namespaces none s]
      generalize lister.list Resource.namespaces none s = answer
      obtain ⟨outcome, next⟩ := answer
      cases outcome <;> rfl
    · simp only [ne_eq, given, not_false_eq_true, if_true]

theorem captureOne_seen (lists : lister.Views view listerPart) (resolver : NamespaceResolver)
    (resource : Resource) (world : World τ) :
    let run := captureOne lister staging now options resolver resource world
    captureOne listerPart staging now options resolver resource (world.seen view) =
      (run.1, run.2.1, run.2.2.seen view) := by
  simp only [captureOne]
  by_cases inside : resource.namespaced = true
  · simp only [inside, if_true, show (world.seen view).outside = view world.outside from rfl,
      resolve_seen lists]
    generalize resolver.resolve lister world.outside = answer
    obtain ⟨outcome, next, outside⟩ := answer
    cases outcome with
    | error error => rfl
    | ok names =>
      have same : { world.seen view with outside := view outside } =
          ({ world with outside := outside } : World τ).seen view := rfl
      simp only [same, captureNamespaces_seen lists]
  · by_cases included : options.includeClusterResources = true
    · simp only [inside, included, if_true, captureResource_seen lists]
      rfl
    · simp only [inside, included]
      rfl

theorem captureAll_seen (surround : around.Views view aroundPart)
    (lists : lister.Views view listerPart) (resolver : NamespaceResolver)
    (resources : List Resource) (world : World τ) :
    let run := captureAll around lister staging now options resolver resources world
    captureAll aroundPart listerPart staging now options resolver resources (world.seen view) =
      (run.1, run.2.seen view) := by
  induction resources generalizing resolver world with
  | nil => rfl
  | cons resource rest ih =>
    simp only [captureAll, surround.cancelled.ask]
    generalize world.ask around.cancelled = answer
    obtain ⟨cancelled, ready⟩ := answer
    cases cancelled with
    | true => rfl
    | false =>
      simp only [captureOne_seen lists]
      generalize captureOne lister staging now options resolver resource ready = result
      obtain ⟨outcome, next, between⟩ := result
      cases outcome with
      | error error => rfl
      | ok count =>
        simp only [ih]
        generalize captureAll around lister staging now options next rest between = result
        obtain ⟨outcome, after⟩ := result
        cases outcome <;> rfl

theorem discoverResources_seen (discovers : discoverer.Views view discovererPart)
    (world : World τ) :
    let run := discoverResources discoverer world
    discoverResources discovererPart (world.seen view) = (run.1, run.2.seen view) := by
  have asked := Views.ask discovers world
  simp only [discoverResources, asked]
  generalize world.ask discoverer.discover = answer
  obtain ⟨outcome, between⟩ := answer
  cases outcome with
  | error error => cases error <;> rfl
  | ok report =>
    simp only [warn_failures]
    rfl

theorem capture_seen (surround : around.Views view aroundPart)
    (discovers : discoverer.Views view discovererPart) (lists : lister.Views view listerPart)
    (world : World τ) :
    let run := capture around discoverer lister staging now options world
    capture aroundPart discovererPart listerPart staging now options (world.seen view) =
      (run.1, run.2.seen view) := by
  simp only [capture, discoverResources_seen discovers]
  generalize discoverResources discoverer world = result
  obtain ⟨outcome, between⟩ := result
  cases outcome with
  | error error => rfl
  | ok resources => simp only [captureAll_seen surround lists]

theorem writeArchive_seen (medium : Medium) (store : Store) (name : String) (world : World τ) :
    let run := medium.writeArchive store name staging now world
    medium.writeArchive store name staging now (world.seen view) = (run.1, run.2.seen view) := by
  simp only [Medium.writeArchive, World.onVolume, World.seen]
  generalize store.create world.volume name now = result
  obtain ⟨outcome, volume⟩ := result
  cases outcome with
  | error error => rfl
  | ok location =>
    simp only []
    rcases medium.packInto volume staging with ⟨packed, held⟩
    cases packed with
    | ok told => rfl
    | error failure =>
      simp only []
      generalize store.delete _ name = removed
      cases removed <;> rfl

theorem writeArchive_outside (medium : Medium) (store : Store) (name staging : String)
    (now : Instant) (world : World τ) :
    (medium.writeArchive store name staging now world).2.outside = world.outside :=
  world.outside_of_seen fun _ => writeArchive_seen medium store name

theorem captureAndPack_seen (medium : Medium) (surround : around.Views view aroundPart)
    (discovers : discoverer.Views view discovererPart) (lists : lister.Views view listerPart)
    (store : Store) (name : String) (world : World τ) :
    let run := captureAndPack medium around discoverer lister store name staging options now world
    captureAndPack medium aroundPart discovererPart listerPart store name staging options now
      (world.seen view) = (run.1, run.2.seen view) := by
  simp only [captureAndPack, capture_seen surround discovers lists]
  generalize capture around discoverer lister staging now options world = result
  obtain ⟨outcome, ready⟩ := result
  cases outcome with
  | error error => rfl
  | ok count =>
    simp only [surround.cancelled.ask]
    generalize ready.ask around.cancelled = answer
    obtain ⟨cancelled, later⟩ := answer
    cases cancelled with
    | true => rfl
    | false =>
      simp only [writeArchive_seen]
      generalize medium.writeArchive store name staging now later = result
      obtain ⟨outcome, final⟩ := result
      cases outcome <;> rfl

theorem backup_seen (engine : Engine) (medium : Medium) (surround : around.Views view aroundPart)
    (discovers : discoverer.Views view discovererPart) (lists : lister.Views view listerPart)
    (destination : String) (options : BackupOptions) (world : World τ) :
    let run := engine.backup medium around discoverer lister destination options world
    engine.backup medium aroundPart discovererPart listerPart destination options (world.seen view) =
      (run.1, run.2.seen view) := by
  simp only [backup, surround.now.ask]
  generalize world.ask around.now = answer
  obtain ⟨started, first⟩ := answer
  cases engine.store destination with
  | error error => rfl
  | ok store =>
    simp only [show (first.seen view).volume = first.volume from rfl]
    cases store.ensureAvailable first.volume (Archive.fileName started engine.format.extension) with
    | error error => rfl
    | ok =>
      simp only [surround.cancelled.ask]
      generalize first.ask around.cancelled = answer
      obtain ⟨cancelled, ready⟩ := answer
      cases cancelled with
      | true => rfl
      | false =>
        have staged : (ready.seen view).onVolume engine.makeStaging =
            ((ready.onVolume engine.makeStaging).1,
              (ready.onVolume engine.makeStaging).2.seen view) := rfl
        simp only [staged]
        generalize ready.onVolume engine.makeStaging = result
        obtain ⟨outcome, made⟩ := result
        cases outcome with
        | error error => rfl
        | ok staging =>
          simp only [captureAndPack_seen medium surround discovers lists]
          generalize captureAndPack medium around discoverer lister store
            (Archive.fileName started engine.format.extension) staging options started made = result
          obtain ⟨outcome, last⟩ := result
          cases outcome with
          | error error => rfl
          | ok packed =>
            have asked :=
              surround.now.ask { last with volume := removeStaging last.volume staging }
            exact congrArg (fun answer => (Except.ok (BackupResult.mk packed.1
              (Archive.fileName started engine.format.extension)
              (store.pathOf (Archive.fileName started engine.format.extension)) packed.2.1 packed.2.2
              engine.format.algorithm started answer.1), answer.2)) asked

/-- A run sees nothing of its surroundings but the answers. -/
theorem runBackup_seen (engine : Engine) (surround : around.Views view aroundPart)
    (discovers : discoverer.Views view discovererPart) (lists : lister.Views view listerPart)
    (destination : String) (options : BackupOptions) (world : World τ) :
    let run := engine.runBackup around discoverer lister destination options world
    engine.runBackup aroundPart discovererPart listerPart destination options (world.seen view) =
      (run.1, run.2.seen view) := by
  simp only [runBackup, runBackupOn, backup_seen engine engine.medium surround discovers lists]
  generalize engine.backup engine.medium around discoverer lister destination options world = result
  obtain ⟨outcome, last⟩ := result
  cases outcome <;> rfl

end Engine

namespace Applier

theorem replace_seen (applies : applier.Views view applierPart) (item : RestoreItem) (s : τ) :
    let run := applier.replace item s
    applierPart.replace item (view s) = (run.1, view run.2) := by
  simp only [replace, applies.get _ _ _ s]
  generalize applier.get item.entry.type item.entry.ns item.entry.name s = answer
  obtain ⟨outcome, next⟩ := answer
  cases outcome with
  | error error => rfl
  | ok live =>
    simp only [applies.update _ _ _ next]
    generalize applier.update item.entry.type item.entry.ns (item.desired live) next = answer
    obtain ⟨outcome, next⟩ := answer
    cases outcome <;> rfl

theorem applyItem_seen (applies : applier.Views view applierPart) (item : RestoreItem) (s : τ) :
    let run := applier.applyItem item s
    applierPart.applyItem item (view s) = (run.1, view run.2) := by
  simp only [applyItem, applies.create _ _ _ s]
  generalize applier.create item.entry.type item.entry.ns item.object s = answer
  obtain ⟨outcome, next⟩ := answer
  cases outcome with
  | ok stored => rfl
  | error error =>
    cases error with
    | alreadyExists => exact replace_seen applies item next
    | _ => rfl

theorem applyInOrder_seen (applies : applier.Views view applierPart)
    {cancelled : τ → Bool × τ} {cancelledPart : σ → Bool × σ}
    (checks : ClusterArchive.Views view cancelled cancelledPart) (summary : ApplySummary)
    (items : List RestoreItem) (s : τ) :
    let run := applier.applyInOrder cancelled summary items s
    applierPart.applyInOrder cancelledPart summary items (view s) = (run.1, view run.2) := by
  induction items generalizing summary s with
  | nil => rfl
  | cons item rest ih =>
    simp only [applyInOrder, checks s]
    generalize cancelled s = answer
    obtain ⟨stop, next⟩ := answer
    cases stop with
    | true => rfl
    | false =>
      simp only [applyItem_seen applies]
      generalize applier.applyItem item next = result
      obtain ⟨outcome, after⟩ := result
      cases outcome with
      | error error => rfl
      | ok outcome => exact ih (summary.record outcome) after

end Applier

namespace Engine

theorem runRestore_seen (engine : Engine) (surround : around.Views view aroundPart)
    (applies : applier.Views view applierPart) (destination archive : String) (world : World τ) :
    let run := engine.runRestore around applier destination archive world
    engine.runRestore aroundPart applierPart destination archive (world.seen view) =
      (run.1, run.2.seen view) := by
  simp only [runRestore, surround.now.ask]
  generalize world.ask around.now = answer
  obtain ⟨started, first⟩ := answer
  by_cases blank : Text.isBlankText archive
  · simp only [blank, if_true]
  simp only [blank]
  cases engine.store destination with
  | error error => rfl
  | ok store =>
    simp only [surround.cancelled.ask]
    generalize first.ask around.cancelled = answer
    obtain ⟨cancelled, ready⟩ := answer
    cases cancelled with
    | true => rfl
    | false =>
      simp only [show (ready.seen view).volume = ready.volume from rfl]
      cases engine.readArchive store ready.volume archive with
      | error error => rfl
      | ok items =>
        have applied : ClusterArchive.Views view (applier.applyItems around.cancelled items)
            (applierPart.applyItems aroundPart.cancelled items) :=
          fun s => Applier.applyInOrder_seen applies surround.cancelled ⟨0, 0⟩ _ s
        simp only [applied.ask]
        generalize ready.ask (applier.applyItems around.cancelled items) = result
        obtain ⟨outcome, after⟩ := result
        cases outcome with
        | error error => rfl
        | ok summary =>
          have asked := surround.now.ask { after with
            metrics := { after.metrics with
              applied := after.metrics.applied + summary.applied } }
          simp only [World.seen] at asked ⊢
          simp only [asked]
          rfl

end Engine

end

/-! Watching is such a larger state. -/

theorem Surroundings.watched_views (around : Surroundings σ) :
    around.watched.Views Prod.fst around :=
  ⟨fun _ => rfl, fun _ => rfl⟩

theorem Discoverer.watched_views (discoverer : Discoverer σ) :
    discoverer.watched.Views Prod.fst discoverer :=
  fun _ => rfl

theorem Lister.watched_views (lister : Lister σ) : lister.watched.Views Prod.fst lister :=
  fun _ _ _ => rfl

theorem Applier.watched_views (applier : Applier σ) : applier.watched.Views Prod.fst applier :=
  ⟨fun _ _ _ _ => rfl, fun _ _ _ _ => rfl, fun _ _ _ _ => rfl⟩

namespace Engine

/-- Watched questions are asked at states that arise, and a check is answered as its state says. -/
theorem Arises.watched {around : Surroundings σ} {discoverer : Discoverer σ} {lister : Lister σ}
    {start : σ} {s : σ × List (Moment σ)}
    (arises : Arises around.watched discoverer.watched lister.watched (start, []) s) :
    Arises around discoverer lister start s.1 ∧ ∀ moment ∈ s.2,
      Arises around discoverer lister start moment.state ∧
        ∀ answer, moment.reply = .check answer → (around.cancelled moment.state).1 = answer := by
  induction arises with
  | start => exact ⟨.start, by simp⟩
  | now _ ih =>
    refine ⟨ih.1.now, List.forall_mem_append.mpr ⟨ih.2, ?_⟩⟩
    simpa using ih.1
  | cancelled _ ih =>
    refine ⟨ih.1.cancelled, List.forall_mem_append.mpr ⟨ih.2, ?_⟩⟩
    simpa using ih.1
  | discover _ ih =>
    refine ⟨ih.1.discover, List.forall_mem_append.mpr ⟨ih.2, ?_⟩⟩
    simpa using ih.1
  | list resource ns _ ih =>
    refine ⟨ih.1.list resource ns, List.forall_mem_append.mpr ⟨ih.2, ?_⟩⟩
    simpa using ih.1

end Engine

end ClusterArchive
