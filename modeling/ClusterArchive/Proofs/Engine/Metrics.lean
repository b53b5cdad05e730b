import ClusterArchive.Proofs.Engine.Reading
import ClusterArchive.Proofs.Retention.Removal

/-! What the counters tell of restores and cleanups. A run is counted when it succeeds, and then by all
that it did. What a run did before it failed is not counted. -/

namespace ClusterArchive

variable {σ : Type}

def Exchange.applies : Exchange → Bool
  | create _ _ _ (.ok _) | update _ _ _ (.ok _) => true
  | _ => false

theorem Talk.countP_applies {talk : Talk} {outcome : ApplyOutcome}
    (succeeded : talk.outcome = .ok outcome) : talk.exchanges.countP Exchange.applies = 1 := by
  obtain ⟨item, exchanges, outcome, conversation⟩ := talk
  cases conversation with
  | created | updated => rfl
  | refused | unfetched | rejected => simp at succeeded

theorem ApplySummary.applied_record (summary : ApplySummary) (outcome : ApplyOutcome) :
    (summary.record outcome).applied = summary.applied + 1 := by
  cases outcome <;> simp [record, applied] <;> omega

/-- A record does not change a run over items, and a run that succeeds has counted what the record shows.
The run may be cancelled at any item. -/
theorem Applier.applyInOrder_recorded (applier : Applier σ) (cancelled : σ → Bool × σ)
    (start : ApplySummary) (items : List RestoreItem) (s : σ) (record : List Exchange) :
    let run := applier.applyInOrder cancelled start items s
    ∃ exchanges, applier.recorded.applyInOrder (beside cancelled) start items (s, record) =
        (run.1, run.2, record ++ exchanges) ∧
      ∀ summary, run.1 = .ok summary →
        summary.applied = start.applied + exchanges.countP Exchange.applies := by
  induction items generalizing start s record with
  | nil => exact ⟨[], by simp [applyInOrder], by simp [applyInOrder]⟩
  | cons item rest ih =>
    rcases asked : cancelled s with ⟨answer, next⟩
    have askedBeside : beside cancelled (s, record) = (answer, next, record) := by
      simp [beside, asked]
    simp only [applyInOrder, asked, askedBeside]
    cases answer with
    | true => exact ⟨[], by simp, by simp⟩
    | false =>
      obtain ⟨talk, _, outcome, talked⟩ := applier.applyItem_talk item next record
      simp only [talked]
      rcases applied : applier.applyItem item next with ⟨result, after⟩
      rw [applied] at outcome
      cases result with
      | error error => exact ⟨talk.exchanges, by simp [outcome], by simp⟩
      | ok made =>
        simp only [outcome]
        obtain ⟨exchanges, recorded, counted⟩ :=
          ih (start.record made) after (record ++ talk.exchanges)
        refine ⟨talk.exchanges ++ exchanges, by rw [recorded, List.append_assoc], ?_⟩
        intro summary succeeded
        rw [counted summary succeeded, ApplySummary.applied_record, List.countP_append,
          Talk.countP_applies outcome]
        omega

/-- The state in which the items of a restore are applied, once its token was looked at. -/
def Surroundings.ready (around : Surroundings σ) (s : σ) : σ := (around.cancelled (around.now s).2).2

namespace Engine

variable {engine : Engine} {around : Surroundings σ} {applier : Applier σ}
  {destination archive : String} {world : World σ}

/-- A restore that has read its archive applies the items, and counts them if all were applied. -/
theorem Arrives.applies {store : Store} {items : List RestoreItem}
    (arrives : Arrives engine around destination archive world store)
    (read : engine.readArchive store world.volume archive = .ok items) (applier : Applier σ) :
    engine.runRestore around applier destination archive world =
      match applier.applyItems around.cancelled items (around.ready world.outside) with
      | (.error error, s) => (.error error, { world with outside := s })
      | (.ok summary, s) =>
        (.ok ⟨archive, summary.applied, summary.created, summary.updated,
            (around.now world.outside).1, (around.now s).1⟩,
          { world with
            outside := (around.now s).2
            metrics := { world.metrics with
              applied := world.metrics.applied + summary.applied } }) := by
  rw [Surroundings.ready]
  rcases asked : around.cancelled (around.now world.outside).2 with ⟨answer, ready⟩
  obtain rfl : answer = false := by simpa [asked] using arrives.goes
  simp only [runRestore, World.ask, arrives.named, arrives.directed, asked, read]
  rcases applier.applyItems around.cancelled items ready with ⟨result, s⟩
  cases result <;> rfl

/-- What a restore counts, and when. It leaves the files as they are. -/
theorem runRestore_counts (engine : Engine) (around : Surroundings σ) (applier : Applier σ)
    (destination archive : String) (world : World σ) :
    let run := engine.runRestore around applier destination archive world
    ∃ exchanges, engine.runRestore around.recorded applier.recorded destination archive
        (world.recording []) = (run.1, run.2.recording exchanges) ∧
      run.2.volume = world.volume ∧
      run.2.metrics = { world.metrics with
        applied := world.metrics.applied +
          if run.1.isOk then exchanges.countP Exchange.applies else 0 } := by
  rcases decoded_or_unread engine around destination archive world with
    ⟨store, opened, items, arrives, opens, read⟩ | ⟨error, next, unread⟩
  · have readAll : engine.readArchive store world.volume archive = .ok items := by
      rw [readArchive, opens]
      exact read
    have arrivesRecorded : Arrives engine (around.recorded : Surroundings (σ × List Exchange))
        destination archive (world.recording []) store := ⟨arrives.named, arrives.directed, arrives.goes⟩
    obtain ⟨exchanges, recorded, counted⟩ := applier.applyInOrder_recorded around.cancelled ⟨0, 0⟩
      (Applier.schedule items) (around.ready world.outside) []
    rcases ran : applier.applyItems around.cancelled items (around.ready world.outside) with ⟨result, s⟩
    have same : applier.applyInOrder around.cancelled ⟨0, 0⟩ (Applier.schedule items)
        (around.ready world.outside) = (result, s) := ran
    rw [same] at recorded counted
    have ranRecorded : applier.recorded.applyItems around.recorded.cancelled items
        (around.recorded.ready (world.recording []).outside) = (result, s, exchanges) := recorded
    rw [arrives.applies readAll, arrivesRecorded.applies readAll, ran, ranRecorded]
    refine ⟨exchanges, ?_⟩
    cases result with
    | error error => exact ⟨rfl, rfl, rfl⟩
    | ok summary =>
      have count : summary.applied = exchanges.countP Exchange.applies := by
        simpa [ApplySummary.applied] using counted summary rfl
      exact ⟨rfl, rfl, by simp [Except.isOk, Except.toBool, count]⟩
  · refine ⟨[], ?_, ?_, ?_⟩
    · rw [(unread.recorded []).run, unread.run]
      rfl
    · rw [unread.run]
    · rw [unread.run]
      rfl

/-- What a cleanup counts, and when. It asks nothing of a server. -/
theorem runCleanup_counts (engine : Engine) (around : Surroundings σ) (destination : String)
    (policy : RetentionPolicy) (world : World σ) (wellFormed : world.volume.WellFormed) :
    let run := engine.runCleanup around destination policy world
    engine.runCleanup around.recorded destination policy (world.recording ([] : List Exchange)) =
        (run.1, run.2.recording []) ∧
      run.2.volume.WellFormed ∧
      (∀ location ∈ world.volume.gone run.2.volume, ∃ store, engine.store destination = .ok store ∧
        store.IsArchiveAt world.volume location) ∧
      run.2.metrics = { world.metrics with
        pruned := world.metrics.pruned +
          if run.1.isOk then (world.volume.gone run.2.volume).length else 0 } := by
  cases directed : engine.store destination with
  | error error =>
    have refused {τ : Type} (around : Surroundings τ) (world : World τ) :
        engine.runCleanup around destination policy world = (.error error, world) := by
      simp only [runCleanup, directed]
    rw [refused, refused]
    exact ⟨rfl, wellFormed, by simp [Volume.gone_self wellFormed], rfl⟩
  | ok store =>
    have takes := store.prune_takes wellFormed policy (around.now world.outside).1
    rcases pruned : store.prune policy (around.now world.outside).1 world.volume with ⟨outcome, after⟩
    rw [pruned] at takes
    have ran : engine.runCleanup around destination policy world = (outcome,
        { world with
          volume := after
          outside := (around.now world.outside).2
          metrics := { world.metrics with
            pruned := world.metrics.pruned +
              if outcome.isOk then (world.volume.gone after).length else 0 } }) := by
      simp only [runCleanup, directed, World.ask, World.onVolume, pruned]
      cases outcome with
      | error error => rfl
      | ok report => simp [← takes.counted report rfl, Except.isOk, Except.toBool]
    have ranRecorded : engine.runCleanup around.recorded destination policy
        (world.recording ([] : List Exchange)) =
        ((engine.runCleanup around destination policy world).1,
          (engine.runCleanup around destination policy world).2.recording []) := by
      simp only [runCleanup, directed, World.ask, World.onVolume, Surroundings.recorded, beside,
        World.recording, pruned]
      cases outcome <;> rfl
    rw [ranRecorded, ran]
    exact ⟨rfl, takes.wellFormed, fun location member => ⟨store, rfl, takes.archives location member⟩,
      rfl⟩

end Engine

inductive Operation (σ : Type)
  | restore (engine : Engine) (around : Surroundings σ) (applier : Applier σ)
    (destination archive : String)
  | cleanup (engine : Engine) (around : Surroundings σ) (destination : String)
    (policy : RetentionPolicy)
  | purge (engine : Engine) (around : Surroundings σ) (destination : String)

/-- What a run did: whether it succeeded, what it asked of a server, and the files that are gone. -/
structure Effect where
  succeeded : Bool
  exchanges : List Exchange
  gone : List Location

namespace Effect

def applied (effect : Effect) : Nat := effect.exchanges.countP Exchange.applies

def pruned (effect : Effect) : Nat := effect.gone.length

end Effect

namespace Operation

def run : Operation σ → World σ → Bool × World σ
  | restore engine around applier destination archive, world =>
    ((engine.runRestore around applier destination archive world).1.isOk,
      (engine.runRestore around applier destination archive world).2)
  | cleanup engine around destination policy, world =>
    ((engine.runCleanup around destination policy world).1.isOk,
      (engine.runCleanup around destination policy world).2)
  | purge engine around destination, world =>
    ((engine.runPurge around destination world).1.isOk,
      (engine.runPurge around destination world).2)

def recorded : Operation σ → Operation (σ × List Exchange)
  | restore engine around applier destination archive =>
    restore engine around.recorded applier.recorded destination archive
  | cleanup engine around destination policy => cleanup engine around.recorded destination policy
  | purge engine around destination => purge engine around.recorded destination

def store : Operation σ → Except RunError Store
  | restore engine _ _ destination _ | cleanup engine _ destination _ | purge engine _ destination =>
    engine.store destination

def effect (operation : Operation σ) (world : World σ) : Effect where
  succeeded := (operation.run world).1
  exchanges := (operation.recorded.run (world.recording [])).2.outside.2
  gone := world.volume.gone (operation.run world).2.volume

/-- What a run did is what was written down of it: the record changes nothing, files that are gone are
archives of its destination, and the counters tell all of it if the run succeeded, or nothing. -/
structure Told (operation : Operation σ) (world : World σ) : Prop where
  recorded : operation.recorded.run (world.recording []) = ((operation.run world).1,
    (operation.run world).2.recording (operation.effect world).exchanges)
  wellFormed : (operation.run world).2.volume.WellFormed
  gone : ∀ location ∈ (operation.effect world).gone, ∃ store, operation.store = .ok store ∧
    store.IsArchiveAt world.volume location
  metrics : (operation.run world).2.metrics = { world.metrics with
    applied := world.metrics.applied +
      if (operation.effect world).succeeded then (operation.effect world).applied else 0
    pruned := world.metrics.pruned +
      if (operation.effect world).succeeded then (operation.effect world).pruned else 0 }

theorem Told.of_run {operation : Operation σ} {world next : World σ} {succeeded : Bool}
    (exchanges : List Exchange) (ran : operation.run world = (succeeded, next))
    (recorded : operation.recorded.run (world.recording []) = (succeeded, next.recording exchanges))
    (wellFormed : next.volume.WellFormed)
    (gone : ∀ location ∈ world.volume.gone next.volume, ∃ store, operation.store = .ok store ∧
      store.IsArchiveAt world.volume location)
    (metrics : next.metrics = { world.metrics with
      applied := world.metrics.applied +
        if succeeded then exchanges.countP Exchange.applies else 0
      pruned := world.metrics.pruned +
        if succeeded then (world.volume.gone next.volume).length else 0 }) :
    operation.Told world := by
  have effect : operation.effect world = ⟨succeeded, exchanges, world.volume.gone next.volume⟩ := by
    rw [Operation.effect, recorded, ran]
    rfl
  refine ⟨by rw [recorded, effect, ran], by rw [ran]; exact wellFormed, by rw [effect]; exact gone, ?_⟩
  rw [effect, ran]
  exact metrics

theorem told_restore (engine : Engine) (around : Surroundings σ) (applier : Applier σ)
    (destination archive : String) {world : World σ} (wellFormed : world.volume.WellFormed) :
    (restore engine around applier destination archive).Told world := by
  obtain ⟨exchanges, recorded, files, metrics⟩ :=
    engine.runRestore_counts around applier destination archive world
  have ran : (restore engine around applier destination archive).run world =
      ((engine.runRestore around applier destination archive world).1.isOk,
        (engine.runRestore around applier destination archive world).2) := by simp only [run]
  generalize engine.runRestore around applier destination archive world = result at *
  have none_ : world.volume.gone result.2.volume = [] := by rw [files, Volume.gone_self wellFormed]
  refine .of_run exchanges ran ?_ (files ▸ wellFormed) (by simp [none_]) ?_
  · simp only [Operation.recorded, run, recorded]
  · simp [metrics, none_]

theorem told_cleanup (engine : Engine) (around : Surroundings σ) (destination : String)
    (policy : RetentionPolicy) {world : World σ} (wellFormed : world.volume.WellFormed) :
    (cleanup engine around destination policy).Told world := by
  obtain ⟨recorded, after, gone, metrics⟩ :=
    engine.runCleanup_counts around destination policy world wellFormed
  have ran : (cleanup engine around destination policy).run world =
      ((engine.runCleanup around destination policy world).1.isOk,
        (engine.runCleanup around destination policy world).2) := by simp only [run]
  generalize engine.runCleanup around destination policy world = result at *
  refine .of_run [] ran ?_ after gone ?_
  · simp only [Operation.recorded, run, recorded]
  · simp [metrics]

/-- A purge is a cleanup that keeps nothing. -/
theorem told_purge (engine : Engine) (around : Surroundings σ) (destination : String)
    {world : World σ} (wellFormed : world.volume.WellFormed) :
    (purge engine around destination).Told world := by
  obtain ⟨recorded, after, gone, metrics⟩ :=
    told_cleanup engine around destination .purgeAll wellFormed
  have same : (purge engine around destination).run world =
      (cleanup engine around destination .purgeAll).run world := by
    simp only [run, Engine.runPurge]
  have effect : (purge engine around destination).effect world =
      (cleanup engine around destination .purgeAll).effect world := by
    simp only [Operation.effect, Operation.recorded, run, Engine.runPurge]
  rw [← effect, ← same] at recorded metrics
  rw [← same] at after
  rw [← effect] at gone
  exact ⟨recorded, after, gone, metrics⟩

theorem told (operation : Operation σ) {world : World σ} (wellFormed : world.volume.WellFormed) :
    operation.Told world := by
  cases operation with
  | restore engine around applier destination archive => exact told_restore _ _ _ _ _ wellFormed
  | cleanup engine around destination policy => exact told_cleanup _ _ _ _ wellFormed
  | purge engine around destination => exact told_purge _ _ _ wellFormed

def runAll : List (Operation σ) → World σ → World σ
  | [], world => world
  | operation :: rest, world => runAll rest (operation.run world).2

def effects : List (Operation σ) → World σ → List Effect
  | [], _ => []
  | operation :: rest, world => operation.effect world :: effects rest (operation.run world).2

end Operation

namespace Effect

def total (count : Effect → Nat) : List Effect → Nat
  | [] => 0
  | effect :: rest => count effect + total count rest

variable {count : Effect → Nat} {effects : List Effect}

theorem total_succeeded_le (count : Effect → Nat) (effects : List Effect) :
    total count (effects.filter (·.succeeded)) ≤ total count effects := by
  induction effects with
  | nil => exact Nat.le_refl _
  | cons effect rest ih =>
    cases succeeded : effect.succeeded <;> simp [total, succeeded] <;> omega

/-- The runs that succeeded did all of it exactly if no other did anything. -/
theorem total_succeeded_eq : total count (effects.filter (·.succeeded)) = total count effects ↔
    ∀ effect ∈ effects, effect.succeeded = false → count effect = 0 := by
  induction effects with
  | nil => simp [total]
  | cons effect rest ih =>
    have less := total_succeeded_le count rest
    rw [List.forall_mem_cons, ← ih]
    cases succeeded : effect.succeeded with
    | true => simp [total, succeeded]
    | false =>
      simp only [List.filter_cons, succeeded, Bool.false_eq_true, if_false, total, true_implies]
      omega

end Effect

namespace Operation

theorem told_within {front : List (Operation σ)} {operation : Operation σ} {world : World σ}
    (wellFormed : world.volume.WellFormed) : operation.Told (runAll front world) := by
  induction front generalizing world with
  | nil => exact told operation wellFormed
  | cons first rest ih => exact ih (told first wellFormed).wellFormed

theorem metrics_runAll (operations : List (Operation σ)) {world : World σ}
    (wellFormed : world.volume.WellFormed) :
    (runAll operations world).metrics = { world.metrics with
      applied := world.metrics.applied +
        Effect.total Effect.applied ((effects operations world).filter (·.succeeded))
      pruned := world.metrics.pruned +
        Effect.total Effect.pruned ((effects operations world).filter (·.succeeded)) } := by
  induction operations generalizing world with
  | nil => rfl
  | cons operation rest ih =>
    have first := told operation wellFormed
    rw [runAll, ih first.wellFormed, first.metrics, effects]
    cases succeeded : (operation.effect world).succeeded <;>
      simp [succeeded, Effect.total, Nat.add_assoc]

/-- The counters of applied objects and of pruned archives tell what the runs that succeeded did. They
tell the whole truth exactly if no run that failed did anything before, and never more than it. -/
theorem metrics_account (operations : List (Operation σ)) (world : World σ)
    (wellFormed : world.volume.WellFormed) :
    let did := effects operations world
    let after := (runAll operations world).metrics
    after = { world.metrics with
      applied := world.metrics.applied + Effect.total Effect.applied (did.filter (·.succeeded))
      pruned := world.metrics.pruned + Effect.total Effect.pruned (did.filter (·.succeeded)) } ∧
    after.applied ≤ world.metrics.applied + Effect.total Effect.applied did ∧
    after.pruned ≤ world.metrics.pruned + Effect.total Effect.pruned did ∧
    (after.applied = world.metrics.applied + Effect.total Effect.applied did ↔
      ∀ effect ∈ did, effect.succeeded = false → effect.applied = 0) ∧
    (after.pruned = world.metrics.pruned + Effect.total Effect.pruned did ↔
      ∀ effect ∈ did, effect.succeeded = false → effect.pruned = 0) ∧
    ∀ front operation back, operations = front ++ operation :: back →
      operation.Told (runAll front world) := by
  intro did after
  have metrics : after = _ := metrics_runAll operations wellFormed
  refine ⟨metrics, ?_, ?_, ?_, ?_, fun front operation back split => ?_⟩
  · rw [metrics]
    exact Nat.add_le_add_left (Effect.total_succeeded_le ..) _
  · rw [metrics]
    exact Nat.add_le_add_left (Effect.total_succeeded_le ..) _
  · rw [metrics, ← Effect.total_succeeded_eq]
    exact Nat.add_left_cancel_iff
  · rw [metrics, ← Effect.total_succeeded_eq]
    exact Nat.add_left_cancel_iff
  · exact told_within wellFormed

def holding (files : List (String × Bytes)) : ArchiveFormat where
  extension := "tar.gz"
  algorithm := "gzip"
  pack _ _ := ⟨[], none⟩
  files _ := ⟨files, none⟩

def idle : Surroundings Nat := ⟨uncancelled, fun s => (⟨0, 0⟩, s)⟩

/-- A restore on a server that creates one object, and updates none. -/
def restoring (files : List (String × Bytes)) : Operation Nat :=
  .restore ⟨.standard, holding files⟩ idle stubborn "/tmp" "web.tar.gz"

def untouched : World Nat := ⟨Engine.archived, [], default, 0⟩

theorem wellFormed_untouched : untouched.volume.WellFormed := .of_nodes (by decide) (by decide) rfl

theorem effect_restoring (files : List (String × Bytes)) (items : List RestoreItem)
    (read : RestoreItem.ofDelivery ⟨files, none⟩ = .ok items) :
    let run := stubborn.recorded.applyItems (beside uncancelled) items (0, [])
    ((restoring files).effect untouched).succeeded = run.1.isOk ∧
      ((restoring files).effect untouched).exchanges = run.2.2 := by
  have readAll : Engine.readArchive ⟨.standard, holding files⟩ ⟨"/tmp", "tar.gz"⟩
      (untouched.recording ([] : List Exchange)).volume "web.tar.gz" = .ok items := by
    rw [Engine.readArchive, World.recording, untouched, Engine.open_archived]
    exact read
  have arrives : Engine.Arrives ⟨.standard, holding files⟩
      (idle.recorded : Surroundings (Nat × List Exchange)) "/tmp" "web.tar.gz"
      (untouched.recording []) ⟨"/tmp", "tar.gz"⟩ := ⟨by decide, rfl, rfl⟩
  have ran := arrives.applies readAll stubborn.recorded
  have succeeded : ((restoring files).effect untouched).succeeded =
      ((restoring files).recorded.run (untouched.recording [])).1 :=
    (congrArg Prod.fst (told (restoring files) wellFormed_untouched).recorded).symm
  rcases ended : stubborn.recorded.applyItems (beside uncancelled) items (0, []) with ⟨result, s⟩
  have ended : stubborn.recorded.applyItems idle.recorded.cancelled items
      (idle.recorded.ready (untouched.recording ([] : List Exchange)).outside) = (result, s) := ended
  rw [ended] at ran
  rw [succeeded, Operation.effect]
  simp only [restoring, Operation.recorded, run, ran]
  cases result <;> exact ⟨rfl, rfl⟩

def twoFiles : List (String × Bytes) :=
  [("cluster/v1/namespaces/web.json", [0x7b, 0x7d]),
    ("namespaces/web/v1/configmaps/settings.json", [0x7b, 0x7d])]

theorem effect_oneFile : let effect := (restoring (twoFiles.take 1)).effect untouched
    effect.succeeded = true ∧ effect.applied = 1 := by
  obtain ⟨succeeded, exchanges⟩ := effect_restoring (twoFiles.take 1)
    [⟨⟨.namespaces, none, "web"⟩, [("metadata", .object [("name", .string "web")])]⟩] rfl
  exact ⟨succeeded, by rw [Effect.applied, exchanges]; rfl⟩

theorem effect_twoFiles : let effect := (restoring twoFiles).effect untouched
    effect.succeeded = false ∧ effect.applied = 1 := by
  obtain ⟨succeeded, exchanges⟩ := effect_restoring twoFiles
    [⟨⟨.namespaces, none, "web"⟩, [("metadata", .object [("name", .string "web")])]⟩,
      ⟨⟨⟨"", "v1", "configmaps"⟩, some "web", "settings"⟩,
        [("metadata", .object [("name", .string "settings"), ("namespace", .string "web")])]⟩] rfl
  exact ⟨succeeded, by rw [Effect.applied, exchanges]; rfl⟩

theorem metrics_account_web :
    (runAll [restoring (twoFiles.take 1)] untouched).metrics.applied = 1 := by
  obtain ⟨-, -, -, whole, -⟩ :=
    metrics_account [restoring (twoFiles.take 1)] untouched wellFormed_untouched
  obtain ⟨succeeded, applied⟩ := effect_oneFile
  have none_ : untouched.metrics.applied = 0 := rfl
  rw [whole.mpr (by simp [effects, succeeded])]
  simp [effects, Effect.total, applied, none_]

/-- An object that was created before a restore failed is not counted. -/
theorem metrics_untold :
    (runAll [restoring twoFiles] untouched).metrics.applied = 0 ∧
    Effect.total Effect.applied (effects [restoring twoFiles] untouched) = 1 := by
  obtain ⟨failed, applied⟩ := effect_twoFiles
  have none_ : untouched.metrics.applied = 0 := rfl
  rw [metrics_runAll [restoring twoFiles] wellFormed_untouched]
  simp [effects, Effect.total, failed, applied, none_]

end Operation

end ClusterArchive
