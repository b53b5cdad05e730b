import ClusterArchive.Engine.Runs
import ClusterArchive.Proofs.Restore.Exchange
import ClusterArchive.Proofs.Restore.Reading
import ClusterArchive.Proofs.Volume.Plain

/-! A restore that fails before all items of its archive are read asks nothing of the server. -/

namespace ClusterArchive

variable {σ τ : Type}

def Surroundings.recorded (around : Surroundings σ) : Surroundings (σ × τ) :=
  ⟨beside around.cancelled, beside around.now⟩

def World.recording (world : World σ) (record : τ) : World (σ × τ) :=
  ⟨world.volume, world.warnings, world.metrics, world.outside, record⟩

namespace Engine

open RestoreItem

/-- A restore comes to the point where it opens its archive. -/
structure Arrives (engine : Engine) (around : Surroundings σ) (destination archive : String)
    (world : World σ) (store : Store) : Prop where
  named : ¬Text.isBlankText archive
  directed : engine.store destination = .ok store
  goes : (around.cancelled (around.now world.outside).2).1 = false

/-- How a restore ends before its first item is applied. The state is what the clock and the token
leave. -/
inductive Unread (engine : Engine) (around : Surroundings σ) (destination archive : String)
    (world : World σ) : RunError → σ → Prop
  | unnamed (blank : Text.isBlankText archive) : Unread engine around destination archive world
    (.validation "archive name must not be empty") (around.now world.outside).2
  | misdirected {error : RunError} (named : ¬Text.isBlankText archive)
    (refused : engine.store destination = .error error) :
    Unread engine around destination archive world error (around.now world.outside).2
  | cancelled {store : Store} (named : ¬Text.isBlankText archive)
    (directed : engine.store destination = .ok store)
    (stop : (around.cancelled (around.now world.outside).2).1 = true) :
    Unread engine around destination archive world .cancelled
      (around.cancelled (around.now world.outside).2).2
  | unopened {store : Store} {error : RunError}
    (arrives : Arrives engine around destination archive world store)
    (refused : store.open world.volume archive = .error error) :
    Unread engine around destination archive world error
      (around.cancelled (around.now world.outside).2).2
  | undecoded {store : Store} {opened : Volume.Opened} {delivery : Delivery} {error : RunError}
    (arrives : Arrives engine around destination archive world store)
    (opens : store.open world.volume archive = .ok opened)
    (delivers : engine.format.files (streamOf opened) = delivery)
    (fault : FirstFault delivery.failure delivery.files error) :
    Unread engine around destination archive world error
      (around.cancelled (around.now world.outside).2).2

def Decoded (engine : Engine) (around : Surroundings σ) (destination archive : String)
    (world : World σ) : Prop :=
  ∃ store opened items, Arrives engine around destination archive world store ∧
    store.open world.volume archive = .ok opened ∧
    ofDelivery (engine.format.files (streamOf opened)) = .ok items

variable {engine : Engine} {around : Surroundings σ} {destination archive : String}
  {world : World σ}

theorem decoded_or_unread (engine : Engine) (around : Surroundings σ)
    (destination archive : String) (world : World σ) :
    Decoded engine around destination archive world ∨
      ∃ error next, Unread engine around destination archive world error next := by
  by_cases blank : Text.isBlankText archive
  · exact .inr ⟨_, _, .unnamed blank⟩
  cases directed : engine.store destination with
  | error error => exact .inr ⟨_, _, .misdirected blank directed⟩
  | ok store =>
    cases goes : (around.cancelled (around.now world.outside).2).1 with
    | true => exact .inr ⟨_, _, .cancelled blank directed goes⟩
    | false =>
      have arrives : Arrives engine around destination archive world store :=
        ⟨blank, directed, goes⟩
      cases opens : store.open world.volume archive with
      | error error => exact .inr ⟨_, _, .unopened arrives opens⟩
      | ok opened =>
        cases read : ofDelivery (engine.format.files (streamOf opened)) with
        | error error => exact .inr ⟨_, _, .undecoded arrives opens rfl (ofDelivery_error_iff.mp read)⟩
        | ok items => exact .inl ⟨store, opened, items, arrives, opens, read⟩

theorem Arrives.run {store : Store} (arrives : Arrives engine around destination archive world store)
    {error : RunError} (unread : engine.readArchive store world.volume archive = .error error)
    (applier : Applier σ) : engine.runRestore around applier destination archive world =
      (.error error, { world with outside := (around.cancelled (around.now world.outside).2).2 }) := by
  rcases asked : around.cancelled (around.now world.outside).2 with ⟨answer, next⟩
  obtain rfl : answer = false := by simpa [asked] using arrives.goes
  simp [runRestore, World.ask, arrives.named, arrives.directed, asked, unread]

theorem Unread.run {error : RunError} {next : σ}
    (unread : Unread engine around destination archive world error next) (applier : Applier σ) :
    engine.runRestore around applier destination archive world =
      (.error error, { world with outside := next }) := by
  cases unread with
  | unnamed blank => simp [runRestore, World.ask, blank]
  | misdirected named refused => simp [runRestore, World.ask, named, refused]
  | cancelled named directed stop =>
    rcases asked : around.cancelled (around.now world.outside).2 with ⟨answer, next⟩
    obtain rfl : answer = true := by simpa [asked] using stop
    simp [runRestore, World.ask, named, directed, asked]
  | unopened arrives refused =>
    refine arrives.run ?_ applier
    rw [readArchive, refused]
    rfl
  | undecoded arrives opens delivers fault =>
    refine arrives.run ?_ applier
    rw [readArchive, opens]
    exact (congrArg ofDelivery delivers).trans (ofDelivery_error_iff.mpr fault)

theorem Unread.recorded {error : RunError} {next : σ}
    (unread : Unread engine around destination archive world error next) (record : τ) :
    Unread engine around.recorded destination archive (world.recording record) error
      (next, record) := by
  cases unread with
  | unnamed blank => exact .unnamed blank
  | misdirected named refused => exact .misdirected named refused
  | cancelled named directed stop => exact .cancelled named directed stop
  | unopened arrives refused =>
    exact .unopened ⟨arrives.named, arrives.directed, arrives.goes⟩ refused
  | undecoded arrives opens delivers fault =>
    exact .undecoded ⟨arrives.named, arrives.directed, arrives.goes⟩ opens delivers fault

theorem Unread.view {error : RunError} {next : σ}
    (unread : Unread engine around destination archive world error next) {κ : Type} {view : σ → κ}
    (clock : ∀ s, view (around.now s).2 = view s) (token : ∀ s, view (around.cancelled s).2 = view s) :
    view next = view world.outside := by
  cases unread <;> simp [clock, token]

/-- All files of a delivery are read, or there is a first fault; and before all files of its archive
are read, a restore makes no call. -/
theorem runRestore_unread (engine : Engine) (around : Surroundings σ) (applier : Applier σ)
    (destination archive : String) (world : World σ) :
    (∀ delivery : Delivery,
      ((∃ items, ofDelivery delivery = .ok items) ↔
        delivery.failure = none ∧ ∀ file ∈ delivery.files, HoldsObject file → IsReadable file) ∧
      (∀ items, ofDelivery delivery = .ok items →
        List.Forall₂ Gives (delivery.files.filter (HoldsObject ·)) items) ∧
      ∀ error, ofDelivery delivery = .error error ↔
        FirstFault delivery.failure delivery.files error) ∧
    let run := engine.runRestore around.recorded applier.recorded destination archive
      (world.recording [])
    (run.2.outside.2 ≠ [] → Decoded engine around destination archive world) ∧
    ∀ error next, Unread engine around destination archive world error next →
      run = (.error error, { world with outside := next }.recording []) ∧
      engine.runRestore around applier destination archive world =
        (.error error, { world with outside := next }) ∧
      ∀ (κ : Type) (view : σ → κ), (∀ s, view (around.now s).2 = view s) →
        (∀ s, view (around.cancelled s).2 = view s) → view next = view world.outside := by
  refine ⟨fun delivery => ⟨ofDelivery_ok_iff, fun items => given_of_ofDelivery,
    fun error => ofDelivery_error_iff⟩, fun called => ?_, fun error next unread => ?_⟩
  · rcases decoded_or_unread engine around destination archive world with decoded | ⟨_, _, unread⟩
    · exact decoded
    · refine absurd ?_ called
      rw [(unread.recorded []).run]
  · exact ⟨(unread.recorded []).run applier.recorded, unread.run applier,
      fun κ view clock token => unread.view clock token⟩

/-- A format that finds an object in every archive, and behind it a file that names no type. -/
def looseEnd : ArchiveFormat where
  extension := "tar.gz"
  algorithm := "gzip"
  pack _ _ := ⟨[], none⟩
  files _ := ⟨[("cluster/v1/namespaces/web.json", [0x7b, 0x7d]), ("cluster/web.json", [])], none⟩

def archived : Volume := ⟨[(["tmp"], .directory), (["tmp", "web.tar.gz"], .file (.ofBytes []) ⟨0, 0⟩)], []⟩

theorem archived_node (location : Location) : archived.node? location =
    if location = [] ∨ location = ["tmp"] then some .directory
    else if location = ["tmp", "web.tar.gz"] then some (.file (.ofBytes []) ⟨0, 0⟩) else none := by
  unfold Volume.node? archived
  by_cases top : location = [] <;> by_cases tmp : location = ["tmp"] <;>
    simp [top, tmp, Assoc.get?, eq_comm]

theorem open_archived : (Store.mk "/tmp" "tar.gz").open archived "web.tar.gz" =
    .ok (.file (.ofBytes [])) := by
  have plain : Volume.IsPlain "/tmp/web.tar.gz" ["tmp", "web.tar.gz"] := by decide
  have path : (Store.mk "/tmp" "tar.gz").pathOf "web.tar.gz" = "/tmp/web.tar.gz" := by decide
  have linkFree : archived.LinkFree [] := by
    intro location target
    rw [archived_node]
    split
    next => simp
    next => split <;> simp
  have directories : archived.Directories [] ["tmp"] := by
    rw [Volume.directories_cons]
    exact ⟨rfl, Volume.directories_nil _ _⟩
  have checked : Store.checkName "web.tar.gz" = .ok () := by rfl
  have found := plain.find linkFree directories true
  simp [archived_node] at found
  simp [Store.open, checked, path, Volume.openFile, found, bind, Except.bind]

theorem runRestore_unread_looseEnd :
    let world : World Nat := ⟨archived, [], default, 0⟩
    let around : Surroundings Nat := ⟨uncancelled, fun s => (⟨0, 0⟩, s)⟩
    Engine.runRestore ⟨.standard, looseEnd⟩ around.recorded stubborn.recorded "/tmp" "web.tar.gz"
      (world.recording []) = (.error (.malformedEntry "cluster/web.json"
        "expected 2 or 3 segments before the file name, found 0"), world.recording []) := by
  intro world around
  have web : IsReadable ("cluster/v1/namespaces/web.json", [0x7b, 0x7d]) :=
    ⟨⟨.namespaces, none, "web"⟩, [], ⟨by rfl, by rfl⟩, .inr (by decide)⟩
  have fault : FirstFault none (looseEnd.files (.ofBytes [])).files (.malformedEntry "cluster/web.json"
      (EntryFault.segmentCount 0).reason) :=
    .later (fun _ => web) (.here [] ⟨"cluster/web", by rfl⟩ (.path (.segmentCount 0) (by rfl)))
  have unread := (runRestore_unread ⟨.standard, looseEnd⟩ around stubborn "/tmp" "web.tar.gz" world).2.2
    _ _ (.undecoded ⟨by decide, rfl, rfl⟩ open_archived rfl fault)
  exact unread.1

end Engine

end ClusterArchive
