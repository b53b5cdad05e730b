import ClusterArchive.Proofs.Cluster.LostUpdate
import ClusterArchive.Proofs.Engine.Heeding
import ClusterArchive.Proofs.Engine.Transaction
import Mathlib.Logic.Relation

/-! No cancellation is lost. A backup writes its archive right behind a check that it passed, so a
token that was raised before that check, or a call that answers that it was cancelled, ends the run
without an archive. A restore begins an item right behind such a check, and a cluster that attends to
the token holds what was done before it was raised. -/

namespace ClusterArchive

variable {σ α : Type}

def Exchange.effect (cluster : MemoryCluster) : Exchange → MemoryCluster
  | .create type ns object (.ok _) => (cluster.perform false (.create type ns object)).2
  | .update type ns object (.ok _) => (cluster.perform false (.update type ns object)).2
  | _ => cluster

def Reply.effect (cluster : MemoryCluster) : Reply → MemoryCluster
  | .exchange call => call.effect cluster
  | _ => cluster

def effects (cluster : MemoryCluster) (log : List (Moment σ)) : MemoryCluster :=
  (log.map Moment.reply).foldl Reply.effect cluster

/-- A server is a cluster in memory. Each call attends to the token when it begins, which may be
raised in the middle of the call. -/
structure Reflects (view : σ → MemoryCluster) (raised : σ → Prop) (around : Surroundings σ)
    (applier : Applier σ) : Prop where
  now : ∀ s, view (around.now s).2 = view s
  cancelled : ∀ s, view (around.cancelled s).2 = view s
  create : ∀ type ns object s, ∃ cancelled, (raised s → cancelled = true) ∧
    (view s).perform cancelled (.create type ns object) =
      ((applier.create type ns object s).1, view (applier.create type ns object s).2)
  get : ∀ type ns name s, ∃ cancelled, (raised s → cancelled = true) ∧
    (view s).perform cancelled (.get type ns name) =
      ((applier.get type ns name s).1, view (applier.get type ns name s).2)
  update : ∀ type ns object s, ∃ cancelled, (raised s → cancelled = true) ∧
    (view s).perform cancelled (.update type ns object) =
      ((applier.update type ns object s).1, view (applier.update type ns object s).2)

namespace Reflects

variable {view : σ → MemoryCluster} {raised : σ → Prop} {around : Surroundings σ}
  {applier : Applier σ}

/-- A call that is answered was not cancelled, and one that fails changes nothing. -/
theorem perform_cases {β : Type} {cluster after : MemoryCluster} {cancelled : Bool}
    {request : Request β} {answer : Except ClusterError β}
    (performed : cluster.perform cancelled request = (answer, after)) :
    (∃ error, answer = .error error ∧ after = cluster) ∨
      ∃ reply, answer = .ok reply ∧ cancelled = false := by
  rcases cluster.perform_answered cancelled request with ⟨error, failed⟩ | ⟨reply, next, _, done⟩
  · obtain ⟨rfl, rfl⟩ := Prod.mk.inj (performed.symm.trans failed)
    exact .inl ⟨error, rfl, rfl⟩
  · obtain ⟨rfl, rfl⟩ := Prod.mk.inj (performed.symm.trans done)
    refine .inr ⟨reply, rfl, ?_⟩
    cases cancelled with
    | true => cases done
    | false => rfl

/-- Every question has the effect that its answer tells, and none once the token was raised. -/
theorem step (reflects : Reflects view raised around applier) {s next : σ} {reply : Reply}
    (answered : RestoreAnswers around applier s reply next) :
    view next = reply.effect (view s) ∧ (raised s → view next = view s) := by
  cases answered with
  | time => exact ⟨reflects.now s, fun _ => reflects.now s⟩
  | check => exact ⟨reflects.cancelled s, fun _ => reflects.cancelled s⟩
  | create type ns object =>
    obtain ⟨cancelled, attends, performed⟩ := reflects.create type ns object s
    rcases perform_cases performed with ⟨error, answer, same⟩ | ⟨stored, answer, rfl⟩
    · rw [answer, same]
      exact ⟨rfl, fun _ => rfl⟩
    · rw [answer]
      exact ⟨(congrArg Prod.snd performed).symm, fun up => by cases attends up⟩
  | get type ns name =>
    obtain ⟨cancelled, attends, performed⟩ := reflects.get type ns name s
    rcases perform_cases performed with ⟨error, answer, same⟩ | ⟨live, answer, rfl⟩
    · exact ⟨same, fun _ => same⟩
    · rw [answer] at performed
      have found := (MemoryCluster.get_found (congrArg Prod.fst performed)).2
      have same := (congrArg Prod.snd (found.symm.trans performed)).symm
      exact ⟨same, fun _ => same⟩
  | update type ns object =>
    obtain ⟨cancelled, attends, performed⟩ := reflects.update type ns object s
    rcases perform_cases performed with ⟨error, answer, same⟩ | ⟨stored, answer, rfl⟩
    · rw [answer, same]
      exact ⟨rfl, fun _ => rfl⟩
    · rw [answer]
      exact ⟨(congrArg Prod.snd performed).symm, fun up => by cases attends up⟩

variable {start s : σ} {log : List (Moment σ)}

theorem effects (reflects : Reflects view raised around applier)
    (chronicle : Chronicle (RestoreAnswers around applier) start s log) :
    view s = ClusterArchive.effects (view start) log := by
  induction chronicle with
  | start => rfl
  | ask before answered ih =>
    rw [(reflects.step answered).1, ih]
    simp [ClusterArchive.effects]

theorem still (reflects : Reflects view raised around applier)
    (sticky : Sticky raised (RestoreAnswers around applier))
    (chronicle : Chronicle (RestoreAnswers around applier) start s log) (up : raised start) :
    view s = view start := by
  induction chronicle with
  | start => rfl
  | ask before answered ih =>
    rw [(reflects.step answered).2 (before.kept sticky.stays up).1, ih]

end Reflects

namespace Engine

def Filled (staging : String) (now : Instant) : Volume → Volume → Prop :=
  Relation.ReflTransGen fun before after =>
    ∃ entry object, after = (writeObject staging entry object now before).2

/-- What a run leaves that never came to write an archive: at most it made a staging directory, wrote
objects below it and removed it again. -/
inductive Unarchived (engine : Engine) (before : Volume) : Volume → Prop
  | untouched : Unarchived engine before before
  | unstaged {error : RunError} {made : Volume}
    (refused : engine.makeStaging before = (.error error, made)) : Unarchived engine before made
  | swept {staging : String} {now : Instant} {made filled : Volume}
    (staged : engine.makeStaging before = (.ok staging, made))
    (fills : Filled staging now made filled) :
    Unarchived engine before (removeStaging filled staging)

section

variable (engine : Engine) (around : Surroundings σ) (discoverer : Discoverer σ) (lister : Lister σ)
  (options : BackupOptions) {start : σ}

/-- How capturing and packing ends: without an archive, or with one that was written right behind a
check that was passed. -/
def Packs (staging : String) (now : Instant) (start final : World (σ × List (Moment σ)))
    (outcome : Except RunError α) : Prop :=
  (∃ error, outcome = .error error ∧ Filled staging now start.volume final.volume ∧
      Heeds start.outside.2 final.outside.2 outcome) ∨
    ∃ between s, Calm start.outside.2 between ∧ final.outside.2 = between ++ [⟨.check false, s⟩]

theorem captureAndPack_packs (medium : Medium) (store : Store) (name staging : String) (now : Instant)
    (world : World (σ × List (Moment σ)))
    (arises : Arises around.watched discoverer.watched lister.watched (start, []) world.outside) :
    let run := captureAndPack medium around.watched discoverer.watched lister.watched store name
      staging options now world
    Arises around.watched discoverer.watched lister.watched (start, []) run.2.outside ∧
      Packs staging now world run.2 run.1 := by
  have heeds := capture_heeds staging now around discoverer lister options world
  have along : Along (Filled staging now world.volume)
      (Arises around.watched discoverer.watched lister.watched (start, []))
      (capture around.watched discoverer.watched lister.watched staging now options world).2 :=
    capture_preserves (fun entry _ object volume filled => filled.tail ⟨entry, object, rfl⟩)
      ⟨.refl, arises⟩
  simp only [captureAndPack]
  generalize capture around.watched discoverer.watched lister.watched staging now options world =
    result at heeds along
  obtain ⟨outcome, ready⟩ := result
  cases outcome with
  | error error => exact ⟨along.outside, .inl ⟨error, rfl, along.volume, heeds⟩⟩
  | ok count =>
    rcases asked : ready.ask around.watched.cancelled with ⟨cancelled, passed⟩
    obtain ⟨volume, outside, log⟩ := ask_watch .check asked
    have arisesNow : Arises around.watched discoverer.watched lister.watched (start, [])
        passed.outside := outside ▸ along.outside.cancelled
    simp only [asked]
    cases cancelled with
    | true =>
      exact ⟨arisesNow, .inl ⟨.cancelled, rfl, volume ▸ along.volume,
        heeds.heeds (log ▸ heeds_ask _ fun _ => rfl)⟩⟩
    | false =>
      have same := writeArchive_outside medium store name staging now passed
      simp only []
      generalize medium.writeArchive store name staging now passed = result at same
      obtain ⟨outcome, final⟩ := result
      simp only [] at same
      rw [← same] at log arisesNow
      cases outcome <;> exact ⟨arisesNow, .inr ⟨ready.outside.2, ready.outside.1, heeds, log⟩⟩

/-- How a backup ends: without an archive, or behind a check that it passed, after which it only asks
for the time. -/
def Finishes (engine : Engine) (before : Volume)
    (run : Except RunError BackupResult × World (σ × List (Moment σ))) : Prop :=
  (∃ error, run.1 = .error error ∧ Unarchived engine before run.2.volume ∧
      Heeds [] run.2.outside.2 run.1) ∨
    ∃ earlier s later, run.2.outside.2 = earlier ++ ⟨.check false, s⟩ :: later ∧
      Calm [] run.2.outside.2 ∧ ∀ moment ∈ later, ∃ now, moment.reply = .time now

namespace Packs

variable {engine around} {staging : String} {now : Instant}
  {before volume : Volume} {ready last after : World (σ × List (Moment σ))}

/-- A run that could not pack only removes its staging directory. -/
theorem failed {error : RunError}
    (packs : Packs staging now ready last (.error error : Except RunError α))
    (staged : engine.makeStaging before = (.ok staging, ready.volume))
    (calm : Calm [] ready.outside.2) :
    Finishes engine before (.error error, { last with volume := removeStaging last.volume staging }) := by
  rcases packs with ⟨_, _, fills, heeds⟩ | ⟨between, s, calmLater, log⟩
  · exact .inl ⟨error, rfl, .swept staged fills, calm.heeds heeds⟩
  · refine .inr ⟨between, s, [], log, (calm.trans calmLater).trans (log ▸ .ask _ rfl), ?_⟩
    simp

theorem packed {packing : α} {completed : Instant} (result : BackupResult)
    (packs : Packs staging now ready last (.ok packing)) (calm : Calm [] ready.outside.2)
    (asked : { last with volume := volume }.ask around.watched.now = (completed, after)) :
    Finishes engine before (.ok result, after) := by
  rcases packs with ⟨_, failed, _⟩ | ⟨between, s, calmLater, log⟩
  · cases failed
  · obtain ⟨_, _, logged⟩ := ask_watch .time asked
    have passed : Calm [] last.outside.2 := (calm.trans calmLater).trans (log ▸ .ask _ rfl)
    refine .inr ⟨between, s, [⟨.time completed, last.outside.1⟩], ?_, ?_, ?_⟩
    · rw [logged, log, List.append_assoc]
      rfl
    · exact logged ▸ passed.trans (.ask _ rfl)
    · exact List.forall_mem_singleton.mpr ⟨_, rfl⟩

end Packs

theorem backup_finishes (medium : Medium) (destination : String) (world : World σ) :
    let run := engine.backup medium around.watched discoverer.watched lister.watched destination
      options (world.recording [])
    Arises around.watched discoverer.watched lister.watched (world.outside, []) run.2.outside ∧
      Finishes engine world.volume run := by
  rcases asked : (world.recording []).ask around.watched.now with ⟨started, first⟩
  obtain ⟨same, outside, log⟩ := ask_watch .time asked
  have arises : Arises around.watched discoverer.watched lister.watched (world.outside, [])
      first.outside := outside ▸ Arises.start.now
  have calm : Calm [] first.outside.2 := log ▸ .ask [] rfl
  have unarchived : Unarchived engine world.volume first.volume := same ▸ .untouched
  simp only [backup, asked]
  cases engine.store destination with
  | error error => exact ⟨arises, .inl ⟨error, rfl, unarchived, .inl calm⟩⟩
  | ok store =>
    simp only []
    cases store.ensureAvailable first.volume (Archive.fileName started engine.format.extension) with
    | error error => exact ⟨arises, .inl ⟨error, rfl, unarchived, .inl calm⟩⟩
    | ok =>
      rcases checked : first.ask around.watched.cancelled with ⟨cancelled, ready⟩
      obtain ⟨sameNow, outside, log⟩ := ask_watch .check checked
      have arisesNow : Arises around.watched discoverer.watched lister.watched (world.outside, [])
          ready.outside := outside ▸ arises.cancelled
      have unarchivedNow : Unarchived engine world.volume ready.volume := sameNow ▸ unarchived
      cases cancelled with
      | true =>
        exact ⟨arisesNow, .inl ⟨.cancelled, rfl, unarchivedNow,
          calm.heeds (log ▸ heeds_ask _ fun _ => rfl)⟩⟩
      | false =>
        have calm : Calm [] ready.outside.2 := calm.trans (log ▸ .ask _ rfl)
        simp only [World.onVolume]
        rcases staged : engine.makeStaging ready.volume with ⟨outcome, made⟩
        have stagedHere : engine.makeStaging world.volume = (outcome, made) := by
          rw [← staged, sameNow, same]
          rfl
        cases outcome with
        | error error => exact ⟨arisesNow, .inl ⟨error, rfl, .unstaged stagedHere, .inl calm⟩⟩
        | ok staging =>
          obtain ⟨arisesThen, packs⟩ := captureAndPack_packs around discoverer lister options medium
            store (Archive.fileName started engine.format.extension) staging started
            { ready with volume := made } arisesNow
          simp only []
          generalize captureAndPack medium around.watched discoverer.watched lister.watched store
            (Archive.fileName started engine.format.extension) staging options started _ = result
            at arisesThen packs
          obtain ⟨outcome, last⟩ := result
          cases outcome with
          | error error => exact ⟨arisesThen, packs.failed stagedHere calm⟩
          | ok packing =>
            rcases timed : ({ last with volume := removeStaging last.volume staging } : World _).ask
              around.watched.now with ⟨completed, final⟩
            obtain ⟨_, outside, _⟩ := ask_watch .time timed
            exact ⟨outside ▸ arisesThen.now, packs.packed _ calm timed⟩

end

/-- A run is told that it is cancelled: by an answer, or because the token was raised before a check. -/
def Learns (raised : σ → Prop) (log : List (Moment σ)) : Prop :=
  ∃ earlier moment later, log = earlier ++ moment :: later ∧ (moment.reply.isCancelled = true ∨
    raised moment.state ∧ ∃ check ∈ moment :: later, ∃ answer, check.reply = .check answer)

/-- What is learnt is learnt from the one reply that tells of it. -/
theorem Learns.told {raised : σ → Prop} {answers : σ → Reply → σ → Prop} {start s : σ}
    {log : List (Moment σ)} (sticky : Sticky raised answers)
    (chronicle : Chronicle answers start s log) (learns : Learns raised log) :
    ∃ earlier moment later, log = earlier ++ moment :: later ∧ moment.reply.isCancelled = true := by
  obtain ⟨earlier, moment, later, rfl, cancelled | ⟨up, check, member, answer, isCheck⟩⟩ := learns
  · exact ⟨earlier, moment, later, rfl, cancelled⟩
  · obtain ⟨reply, state⟩ := check
    obtain rfl : reply = .check answer := isCheck
    have upThen : raised state := sticky.after chronicle up _ member
    have inside : (⟨.check answer, state⟩ : Moment σ) ∈ earlier ++ moment :: later :=
      List.mem_append_right _ member
    obtain rfl := sticky.check chronicle inside upThen
    obtain ⟨front, back, split⟩ := List.append_of_mem inside
    exact ⟨front, _, back, split, rfl⟩

structure BackupHeeds (engine : Engine) (around : Surroundings σ) (discoverer : Discoverer σ)
    (lister : Lister σ) (raised : σ → Prop) (destination : String) (options : BackupOptions)
    (world : World σ) (run : Except RunError BackupResult × World (σ × List (Moment σ))) : Prop where
  asked : Chronicle (BackupAnswers around discoverer lister) world.outside run.2.outside.1
    run.2.outside.2
  /-- A run that learns of its cancellation fails for it and writes no archive. -/
  learns : Learns raised run.2.outside.2 →
    run.1 = .error .cancelled ∧ Unarchived engine world.volume run.2.volume
  /-- It asks nothing more. -/
  last : ∀ earlier moment later, run.2.outside.2 = earlier ++ moment :: later →
    moment.reply.isCancelled = true → later = []
  /-- A run that writes an archive does so behind a check, before which the token was not raised. -/
  archives : (∃ error, run.1 = .error error) ∧ Unarchived engine world.volume run.2.volume ∨
    ∃ earlier s later, run.2.outside.2 = earlier ++ ⟨.check false, s⟩ :: later ∧
      (∀ moment ∈ later, ∃ now, moment.reply = .time now) ∧
      (¬raised s ∧ ∀ moment ∈ earlier, ¬raised moment.state) ∧
      ∀ moment ∈ run.2.outside.2, moment.reply.isCancelled = false
  /-- Where runs are transactions, one that fails leaves nothing new but directories. -/
  bare : engine.config.validate = .ok () → (∀ entry,
      Captures around discoverer lister options world.outside entry → entry.Segmented) →
    world.volume.WellFormed → Undisclosed engine destination world.volume →
    ∀ error, run.1 = .error error → ∀ location node, world.volume.node? location = none →
      run.2.volume.node? location = some node → node = .directory

structure RestoreHeeds (around : Surroundings σ) (applier : Applier σ) (raised : σ → Prop)
    (world : World σ) (run : Except RunError RestoreResult × World (σ × List (Moment σ))) :
    Prop where
  asked : Chronicle (RestoreAnswers around applier) world.outside run.2.outside.1 run.2.outside.2
  /-- A run that learns of its cancellation fails for it. -/
  learns : Learns raised run.2.outside.2 → run.1 = .error .cancelled
  /-- It asks nothing more. -/
  last : ∀ earlier moment later, run.2.outside.2 = earlier ++ moment :: later →
    moment.reply.isCancelled = true → later = []
  /-- An item is begun right behind a check, before which the token was not raised. -/
  begins : ∀ earlier moment later, run.2.outside.2 = earlier ++ moment :: later →
    moment.reply.isCreate = true → ∃ front s, earlier = front ++ [⟨.check false, s⟩] ∧
      ¬raised s ∧ ∀ other ∈ front, ¬raised other.state
  /-- A cluster in memory ends with the effects of the calls before the token was raised. -/
  holds : ∀ view, Reflects view raised around applier → ∀ earlier moment later,
    run.2.outside.2 = earlier ++ moment :: later → raised moment.state →
    view run.2.outside.1 = view moment.state ∧
      view moment.state = effects (view world.outside) earlier

section

variable {around : Surroundings σ} {discoverer : Discoverer σ} {lister : Lister σ}
  {applier : Applier σ} {raised : σ → Prop}

theorem runBackup_backup {τ : Type} (engine : Engine) (around : Surroundings τ)
    (discoverer : Discoverer τ) (lister : Lister τ) (destination : String) (options : BackupOptions)
    (world : World τ) :
    let run := engine.runBackup around discoverer lister destination options world
    let inner := engine.backup engine.medium around discoverer lister destination options world
    run.1 = inner.1 ∧ run.2.volume = inner.2.volume ∧ run.2.outside = inner.2.outside := by
  simp only [runBackup, runBackupOn]
  generalize engine.backup engine.medium around discoverer lister destination options world = result
  obtain ⟨outcome, last⟩ := result
  cases outcome <;> exact ⟨rfl, rfl, rfl⟩

theorem runBackup_heeds (sticky : Sticky raised (BackupAnswers around discoverer lister))
    (engine : Engine) (destination : String) (options : BackupOptions) (world : World σ) :
    BackupHeeds engine around discoverer lister raised destination options world
      (engine.runBackup around.watched discoverer.watched lister.watched destination options
        (world.recording [])) := by
  obtain ⟨arises, finishes⟩ := backup_finishes engine around discoverer lister options engine.medium
    destination world
  have plain := backup_seen engine engine.medium around.watched_views discoverer.watched_views
    lister.watched_views destination options (world.recording [])
  obtain ⟨outcome, volume, outside⟩ := runBackup_backup engine around.watched discoverer.watched
    lister.watched destination options (world.recording [])
  unfold Finishes at finishes
  generalize engine.backup engine.medium around.watched discoverer.watched lister.watched destination
    options (world.recording []) = inner at *
  generalize engine.runBackup around.watched discoverer.watched lister.watched destination options
    (world.recording []) = run at *
  rw [← outcome, ← volume, ← outside] at finishes
  have chronicle := outside ▸ arises.chronicle
  refine ⟨chronicle, fun learns => ?_, fun earlier moment later split cancelled => ?_, ?_, ?_⟩
  · obtain ⟨earlier, moment, later, split, cancelled⟩ := learns.told sticky chronicle
    rcases finishes with ⟨error, failed, unarchived, heeds⟩ | ⟨_, _, _, _, calm, _⟩
    · exact ⟨(heeds.told split cancelled).1, unarchived⟩
    · rw [calm.all moment (by simp [split])] at cancelled
      cases cancelled
  · rcases finishes with ⟨error, failed, unarchived, heeds⟩ | ⟨_, _, _, _, calm, _⟩
    · exact (heeds.told split cancelled).2
    · rw [calm.all moment (by simp [split])] at cancelled
      cases cancelled
  · rcases finishes with ⟨error, failed, unarchived, heeds⟩ | ⟨earlier, s, later, log, calm, times⟩
    · exact .inl ⟨⟨error, failed⟩, unarchived⟩
    · exact .inr ⟨earlier, s, later, log, times, sticky.before (log ▸ chronicle), calm.all⟩
  · intro valid segmented wellFormed undisclosed error failed location node absent there
    have transacts := backup_transacts valid engine.medium segmented wellFormed undisclosed
    rw [show engine.backup engine.medium around discoverer lister destination options world = _
      from plain] at transacts
    rw [volume] at there
    exact (transacts.failed error (outcome ▸ failed) location node absent there).1

theorem runRestore_heeds (sticky : Sticky raised (RestoreAnswers around applier)) (engine : Engine)
    (destination archive : String) (world : World σ) :
    RestoreHeeds around applier raised world
      (engine.runRestore around.watched applier.watched destination archive
        (world.recording [])) := by
  obtain ⟨chronicle, guarded, heeds⟩ :=
    runRestore_proceeds engine around applier destination archive world
  refine ⟨chronicle, fun learns => ?_, fun _ _ _ split cancelled => (heeds.told split cancelled).2,
    fun earlier moment later split create => ?_, fun view reflects earlier moment later split up => ?_⟩
  · obtain ⟨earlier, moment, later, split, cancelled⟩ := learns.told sticky chronicle
    exact (heeds.told split cancelled).1
  · obtain ⟨front, s, rfl⟩ := guarded earlier moment later split create
    rw [split, List.append_assoc] at chronicle
    exact ⟨front, s, rfl, sticky.before chronicle⟩
  · rw [split] at chronicle
    obtain ⟨first, second⟩ := chronicle.split
    exact ⟨reflects.still sticky second up, reflects.effects first⟩

/-- Whenever a token is raised, and whichever call answers that it was cancelled, no run loses its
cancellation. -/
theorem runs_cancelled (engine : Engine) (around : Surroundings σ) (discoverer : Discoverer σ)
    (lister : Lister σ) (applier : Applier σ) (raised : σ → Prop)
    (backups : Sticky raised (BackupAnswers around discoverer lister))
    (restores : Sticky raised (RestoreAnswers around applier)) (destination archive : String)
    (options : BackupOptions) (world : World σ) :
    let backup := engine.runBackup around.watched discoverer.watched lister.watched destination
      options (world.recording [])
    let restore := engine.runRestore around.watched applier.watched destination archive
      (world.recording [])
    (engine.runBackup around discoverer lister destination options world =
        (backup.1, backup.2.seen Prod.fst) ∧
      BackupHeeds engine around discoverer lister raised destination options world backup) ∧
    engine.runRestore around applier destination archive world =
        (restore.1, restore.2.seen Prod.fst) ∧
      RestoreHeeds around applier raised world restore :=
  ⟨⟨runBackup_seen engine around.watched_views discoverer.watched_views lister.watched_views
      destination options (world.recording []), runBackup_heeds backups engine destination options
      world⟩,
    runRestore_seen engine around.watched_views applier.watched_views destination archive
      (world.recording []), runRestore_heeds restores engine destination archive world⟩

end

/-! A token that is raised while the resources are discovered, of which there are none. -/

def lateToken : Surroundings (MemoryCluster × Nat) :=
  ⟨fun s => (decide (3 ≤ s.2), s.1, s.2 + 1), fun s => (⟨0, 0⟩, s.1, s.2 + 1)⟩

def lateClient : Client (MemoryCluster × Nat) :=
  ⟨fun request s => ((s.1.perform (decide (3 ≤ s.2)) request).1,
    (s.1.perform (decide (3 ≤ s.2)) request).2, s.2 + 1)⟩

theorem sticky_late {answers : MemoryCluster × Nat → Reply → MemoryCluster × Nat → Prop}
    (counts : ∀ s reply next, answers s reply next → next.2 = s.2 + 1)
    (checks : ∀ s answer next, answers s (.check answer) next → answer = decide (3 ≤ s.2)) :
    Sticky (fun s => 3 ≤ s.2) answers where
  stays s reply next answered up := by
    have one := counts s reply next answered
    omega
  tells s answer next answered up := by simpa [up] using checks s answer next answered

theorem runs_cancelled_late :
    let world : World (MemoryCluster × Nat) := ⟨bareVolume, [], default, .empty, 0⟩
    let raised (s : MemoryCluster × Nat) : Prop := 3 ≤ s.2
    (plainEngine.runBackup lateToken lateClient.discoverer lateClient.lister "/tmp" webOnly world).1 =
        .error .cancelled ∧
      BackupHeeds plainEngine lateToken lateClient.discoverer lateClient.lister raised "/tmp" webOnly
        world (plainEngine.runBackup lateToken.watched lateClient.discoverer.watched
          lateClient.lister.watched "/tmp" webOnly (world.recording [])) ∧
      RestoreHeeds lateToken lateClient.applier raised world (plainEngine.runRestore
        lateToken.watched lateClient.applier.watched "/tmp" "web.tar.gz" (world.recording [])) ∧
      Reflects Prod.fst raised lateToken lateClient.applier := by
  intro world raised
  have backups : Sticky raised (BackupAnswers lateToken lateClient.discoverer lateClient.lister) :=
    sticky_late (fun _ _ _ answered => by cases answered <;> rfl)
      (fun _ _ _ answered => by cases answered; rfl)
  have restores : Sticky raised (RestoreAnswers lateToken lateClient.applier) :=
    sticky_late (fun _ _ _ answered => by cases answered <;> rfl)
      (fun _ _ _ answered => by cases answered; rfl)
  have ⟨⟨_, heeds⟩, _, heedsThen⟩ := runs_cancelled plainEngine lateToken lateClient.discoverer
    lateClient.lister lateClient.applier raised backups restores "/tmp" "web.tar.gz" webOnly world
  have available := hosts_bareVolume.available
  have staged := hosts_bareVolume.staged
  have named : Archive.fileName ⟨0, 0⟩ plainEngine.format.extension = firstName := rfl
  have time : (World.mk bareVolume [] default (MemoryCluster.empty, 0)).ask lateToken.now =
      (⟨0, 0⟩, ⟨bareVolume, [], default, .empty, 1⟩) := rfl
  have goes : (World.mk bareVolume [] default (MemoryCluster.empty, 1)).ask lateToken.cancelled =
      (false, ⟨bareVolume, [], default, .empty, 2⟩) := rfl
  have discovered : lateClient.discoverer.discover (.empty, 2) = (.ok ⟨[], []⟩, .empty, 3) := rfl
  have packed (made : Volume) : captureAndPack plainEngine.medium lateToken lateClient.discoverer
      lateClient.lister ⟨"/tmp", "tar.gz"⟩ firstName "/tmp/clusterbackup-0" webOnly ⟨0, 0⟩
      ⟨made, [], default, .empty, 2⟩ = (.error .cancelled, ⟨made, [], default, .empty, 4⟩) := by
    simp [captureAndPack, capture, discoverResources, World.ask, discovered, KindFilter.select,
      captureAll, lateToken]
  refine ⟨?_, heeds, heedsThen, ⟨fun _ => rfl, fun _ => rfl, ?_, ?_, ?_⟩⟩
  · simp only [runBackup, runBackupOn, backup, world, time, goes, opens_tmp, named, available,
      World.onVolume, staged, packed]
  · exact fun _ _ _ s => ⟨decide (3 ≤ s.2), by simp [raised], rfl⟩
  · exact fun _ _ _ s => ⟨decide (3 ≤ s.2), by simp [raised], rfl⟩
  · exact fun _ _ _ s => ⟨decide (3 ≤ s.2), by simp [raised], rfl⟩

end Engine

end ClusterArchive
