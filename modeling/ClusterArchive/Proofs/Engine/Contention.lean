import ClusterArchive.Proofs.Engine.Transaction

/-! Backup runs that share a destination and an archive name. Their steps interleave in any order on
one volume. Only one run can make the file, and until that run is done or has deleted it, no other
makes it again; a run writes to the file and deletes it only after it made it. -/

namespace ClusterArchive

open Volume

namespace DigestWriter

/-- All that is offered to memory is written, hashed and counted. -/
theorem writeAll_memory (writer : DigestWriter Bytes) (bytes : Bytes) :
    writer.writeAll .memory bytes = (true, ⟨writer.inner ++ bytes, writer.hasher.update bytes,
      writer.bytesWritten + bytes.length⟩) := by
  cases bytes with
  | nil =>
    rw [writeAll]
    simp [Sha256.Hasher.update]
  | cons byte rest =>
    rw [writeAll]
    simp only [List.isEmpty_cons, Bool.false_eq_true, if_false, write, Sink.memory, List.length_cons]
    have done : (byte :: rest).take (rest.length + 1) = byte :: rest := by simp
    have left : (byte :: rest).drop (rest.length + 1) = [] := by simp
    rw [done, left, writeAll]
    rfl

def holding (bytes : Bytes) : DigestWriter Bytes :=
  ⟨bytes, Sha256.Hasher.start.update bytes, bytes.length⟩

theorem start_eq_holding : start [] = holding [] := rfl

@[simp] theorem inner_holding (bytes : Bytes) : (holding bytes).inner = bytes := rfl

theorem writeAll_holding (held bytes : Bytes) :
    (holding held).writeAll .memory bytes = (true, holding (held ++ bytes)) := by
  rw [writeAll_memory, holding, holding, Sha256.Hasher.update_append, List.length_append]

theorem writeAll_start (bytes : Bytes) :
    (start []).writeAll .memory bytes = (true, holding bytes) := writeAll_holding [] bytes

end DigestWriter

/-- What a run returns about its archive, with the place of it. -/
structure Receipt where
  location : Location
  modified : Instant
  size : Nat
  digest : String

/-- How far a run has come. While it writes, the file holds as many of the bytes as were flushed. -/
inductive Stage
  | starting
  | checked
  | captured
  | writing (location : Location) (modified : Instant) (writer : DigestWriter Bytes) (flushed : Nat)
  | failed (error : RunError)
  | done (receipt : Receipt)

inductive Act
  | check
  | capture
  | create
  | write (chunk : Bytes)
  | finish
  | delete
  | fail
deriving DecidableEq

namespace Stage

/-- A run that made the file and has not deleted it. -/
def Owns : Stage → Prop
  | writing .. | done _ => True
  | _ => False

/-- What is known of a run by the bytes it has written. -/
def Knows (volume : Volume) (path : String) (bytes : Bytes) : Stage → Prop
  | starting | checked | captured => bytes = []
  | failed _ => True
  | writing location modified writer flushed =>
    volume.find false path = .ok (location, .file (.ofBytes (bytes.take flushed)) modified) ∧
      flushed ≤ bytes.length ∧ writer = .holding bytes
  | done receipt =>
    volume.find false path = .ok (receipt.location, .file (.ofBytes bytes) receipt.modified) ∧
      receipt.size = bytes.length ∧ receipt.digest = sha256 bytes

end Stage

namespace Act

def touches : Act → Bool
  | create | write _ | delete => true
  | _ => false

def chunk? : Act → Option Bytes
  | write chunk => some chunk
  | _ => none

end Act

structure Contest (ι : Type) where
  volume : Volume
  stage : ι → Stage

variable {ι : Type} [DecidableEq ι]

def Spares (path : String) (before after : Volume) : Prop :=
  ∀ found, before.find false path = .ok found → after.find false path = .ok found

theorem Spares.refl (path : String) (volume : Volume) : Spares path volume volume := fun _ => id

theorem Spares.of_keeps {path : String} {before after : Volume} (keeps : Keeps before after) :
    Spares path before after := by
  rintro ⟨location, node⟩ found
  obtain ⟨resolved, there⟩ := find_eq_ok.mp found
  exact find_eq_ok.mpr ⟨resolve_kept keeps resolved there, keeps.nodes _ _ there⟩

theorem Stage.Knows.spare {stage : Stage} {path : String} {before after : Volume} {bytes : Bytes}
    (knows : stage.Knows before path bytes) (spares : stage.Owns → Spares path before after) :
    stage.Knows after path bytes := by
  cases stage with
  | starting | checked | captured | failed => exact knows
  | writing | done => exact ⟨spares trivial _ knows.1, knows.2⟩

namespace Contest

def start (volume : Volume) : Contest ι := ⟨volume, fun _ => .starting⟩

def move (contest : Contest ι) (i : ι) (volume : Volume) (stage : Stage) : Contest ι :=
  ⟨volume, Function.update contest.stage i stage⟩

/-- The steps of a run that stores archives under a name. Those that look for the name, make the
file, write and delete are those of the program; capturing, and whatever a failure undoes, happens
elsewhere. -/
inductive Step (store : Store) (name : String) : Contest ι → ι × Act → Contest ι → Prop
  | check {contest : Contest ι} {i : ι} (here : contest.stage i = .starting)
    (free : store.ensureAvailable contest.volume name = .ok ()) :
    Step store name contest (i, .check) (contest.move i contest.volume .checked)
  | refused {contest : Contest ι} {i : ι} {error : RunError} (here : contest.stage i = .starting)
    (taken : store.ensureAvailable contest.volume name = .error error) :
    Step store name contest (i, .fail) (contest.move i contest.volume (.failed error))
  | capture {contest : Contest ι} {i : ι} {after : Volume} (here : contest.stage i = .checked)
    (elsewhere : Spares (store.pathOf name) contest.volume after) :
    Step store name contest (i, .capture) (contest.move i after .captured)
  | stopped {contest : Contest ι} {i : ι} {after : Volume} (error : RunError)
    (here : contest.stage i = .checked ∨ contest.stage i = .captured)
    (elsewhere : Spares (store.pathOf name) contest.volume after) :
    Step store name contest (i, .fail) (contest.move i after (.failed error))
  | create {contest : Contest ι} {i : ι} {now : Instant} {location : Location} {after : Volume}
    (here : contest.stage i = .captured)
    (created : store.create contest.volume name now = (.ok location, after)) :
    Step store name contest (i, .create)
      (contest.move i after (.writing location now (.start []) 0))
  | collided {contest : Contest ι} {i : ι} {now : Instant} {error : RunError} {after : Volume}
    (here : contest.stage i = .captured)
    (failed : store.create contest.volume name now = (.error error, after)) :
    Step store name contest (i, .fail) (contest.move i after (.failed error))
  | write {contest : Contest ι} {i : ι} {location : Location} {now : Instant}
    {writer next : DigestWriter Bytes} {flushed more : Nat} (chunk : Bytes)
    (here : contest.stage i = .writing location now writer flushed)
    (offered : (writer.writeAll .memory chunk).2 = next) (further : flushed ≤ more)
    (within : more ≤ next.inner.length) :
    Step store name contest (i, .write chunk) (contest.move i
      (contest.volume.put location (.file (.ofBytes (next.inner.take more)) now))
      (.writing location now next more))
  | finish {contest : Contest ι} {i : ι} {location : Location} {now : Instant}
    {writer : DigestWriter Bytes}
    (here : contest.stage i = .writing location now writer writer.inner.length) :
    Step store name contest (i, .finish) (contest.move i contest.volume
      (.done ⟨location, now, writer.bytesWritten, writer.digest⟩))
  | delete {contest : Contest ι} {i : ι} {location : Location} {now : Instant}
    {writer : DigestWriter Bytes} {flushed : Nat} {was : Bool} {after : Volume} (error : RunError)
    (here : contest.stage i = .writing location now writer flushed)
    (deleted : store.delete contest.volume name = .ok (was, after)) :
    Step store name contest (i, .delete) (contest.move i after (.failed error))
  | left {contest : Contest ι} {i : ι} {location : Location} {now : Instant}
    {writer : DigestWriter Bytes} {flushed : Nat} (error : RunError)
    (here : contest.stage i = .writing location now writer flushed) :
    Step store name contest (i, .fail) (contest.move i contest.volume (.failed error))

/-- Any number of steps, in the order in which they happened. Between them, others may change what is
not at the path. -/
inductive Run (store : Store) (name : String) (first : Contest ι) :
    List (ι × Act) → Contest ι → Prop
  | nil : Run store name first [] first
  | own {trace : List (ι × Act)} {contest next : Contest ι} {event : ι × Act}
    (run : Run store name first trace contest) (step : Step store name contest event next) :
    Run store name first (trace ++ [event]) next
  | other {trace : List (ι × Act)} {contest : Contest ι} {after : Volume}
    (run : Run store name first trace contest)
    (elsewhere : Spares (store.pathOf name) contest.volume after) :
    Run store name first trace { contest with volume := after }

def written (i : ι) (trace : List (ι × Act)) : Bytes :=
  (trace.filterMap fun event => if event.1 = i then event.2.chunk? else none).flatten

theorem written_snoc (i : ι) (trace : List (ι × Act)) (event : ι × Act) :
    written i (trace ++ [event]) =
      written i trace ++ if event.1 = i then event.2.chunk?.getD [] else [] := by
  rw [written, List.filterMap_append, List.flatten_append]
  split
  next here => cases chunk : event.2.chunk? <;> simp [written, here, chunk]
  next apart => simp [written, apart]

theorem written_quiet {event : ι × Act} (quiet : event.2.chunk? = none) (i : ι)
    (trace : List (ι × Act)) : written i (trace ++ [event]) = written i trace := by
  simp [written_snoc, quiet]

/-- A run made the file, and since then nobody has touched it but that run by writing. -/
def Sole (i : ι) (trace : List (ι × Act)) : Prop :=
  ∃ before between, trace = before ++ (i, .create) :: between ∧
    ∀ event ∈ between, event.2.touches → event.1 = i ∧ ∃ chunk, event.2 = .write chunk

omit [DecidableEq ι] in
theorem Sole.snoc {i : ι} {trace : List (ι × Act)} (sole : Sole i trace) {event : ι × Act}
    (mild : event.2.touches → event.1 = i ∧ ∃ chunk, event.2 = .write chunk) :
    Sole i (trace ++ [event]) := by
  obtain ⟨before, between, rfl, alone⟩ := sole
  refine ⟨before, between ++ [event], by simp, ?_⟩
  intro other member
  rcases List.mem_append.mp member with earlier | last
  · exact alone other earlier
  · exact List.mem_singleton.mp last ▸ mild

structure Invariant (store : Store) (name : String) (trace : List (ι × Act)) (contest : Contest ι) :
    Prop where
  knows : ∀ i, (contest.stage i).Knows contest.volume (store.pathOf name) (written i trace)
  unique : ∀ i j, (contest.stage i).Owns → (contest.stage j).Owns → i = j
  sole : ∀ i, (contest.stage i).Owns → Sole i trace

variable {store : Store} {name : String} {volume : Volume} {trace : List (ι × Act)}
  {contest next : Contest ι}

theorem invariant_start (volume : Volume) :
    Invariant store name [] (start volume : Contest ι) where
  knows _ := rfl
  unique _ _ owns := owns.elim
  sole _ owns := owns.elim

theorem Invariant.other (invariant : Invariant store name trace contest) {after : Volume}
    (elsewhere : Spares (store.pathOf name) contest.volume after) :
    Invariant store name trace { contest with volume := after } where
  knows i := (invariant.knows i).spare fun _ => elsewhere
  unique := invariant.unique
  sole := invariant.sole

/-- A step of one run leaves the others alone if it touches nothing that they own. -/
theorem Invariant.move (invariant : Invariant store name trace contest) {i : ι} {act : Act}
    {after : Volume} {stage : Stage}
    (knows : stage.Knows after (store.pathOf name) (written i (trace ++ [(i, act)])))
    (spares : ∀ j, j ≠ i → (contest.stage j).Owns → Spares (store.pathOf name) contest.volume after ∧
      ¬stage.Owns ∧ ¬act.touches)
    (sole : stage.Owns → Sole i (trace ++ [(i, act)])) :
    Invariant store name (trace ++ [(i, act)]) (contest.move i after stage) := by
  constructor
  case knows =>
    intro j
    by_cases same : j = i
    · subst same
      simpa [Contest.move] using knows
    · have other : written j (trace ++ [(i, act)]) = written j trace := by
        simp [written_snoc, Ne.symm same]
      simp only [Contest.move, Function.update_of_ne same, other]
      exact (invariant.knows j).spare fun owns => (spares j same owns).1
  case unique =>
    have lone (j : ι) (apart : j ≠ i) (owns : (contest.stage j).Owns) : ¬stage.Owns :=
      (spares j apart owns).2.1
    intro j k ownsJ ownsK
    simp only [Contest.move, Function.update_apply] at ownsJ ownsK
    split at ownsJ <;> split at ownsK
    next first second => rw [first, second]
    next first second => exact absurd ownsJ (lone k second ownsK)
    next first second => exact absurd ownsK (lone j first ownsJ)
    next => exact invariant.unique j k ownsJ ownsK
  case sole =>
    intro j owns
    simp only [Contest.move, Function.update_apply] at owns
    split at owns
    next same => exact same ▸ sole owns
    next apart =>
      refine (invariant.sole j owns).snoc fun touches => ?_
      exact absurd touches (spares j apart owns).2.2

/-- A run that touches nothing leaves all others alone, whatever becomes of it. -/
theorem Invariant.pass (invariant : Invariant store name trace contest) {i : ι} {act : Act}
    {after : Volume} {stage : Stage} (spares : Spares (store.pathOf name) contest.volume after)
    (mild : act.touches = false) (leaves : ¬stage.Owns)
    (knows : stage.Knows after (store.pathOf name) (written i (trace ++ [(i, act)]))) :
    Invariant store name (trace ++ [(i, act)]) (contest.move i after stage) :=
  invariant.move knows (fun _ _ _ => ⟨spares, leaves, by simp [mild]⟩) fun owns => absurd owns leaves

theorem Invariant.step (invariant : Invariant store name trace contest) {event : ι × Act}
    (step : Step store name contest event next) :
    Invariant store name (trace ++ [event]) next := by
  have others {i : ι} (owns : (contest.stage i).Owns) {j : ι} (apart : j ≠ i) :
      ¬(contest.stage j).Owns := fun also => apart (invariant.unique j i also owns)
  have before := invariant.knows event.1
  cases step with
  | @check i here free =>
    rw [here] at before
    exact invariant.pass (.refl _ _) rfl id ((written_quiet rfl i trace).trans before)
  | refused here taken => exact invariant.pass (.refl _ _) rfl id trivial
  | @capture i after here elsewhere =>
    rw [here] at before
    exact invariant.pass elsewhere rfl id ((written_quiet rfl i trace).trans before)
  | stopped error here elsewhere => exact invariant.pass elsewhere rfl id trivial
  | collided here failed =>
    exact invariant.pass (.of_keeps (Store.create_failed failed).spreads.keeps) rfl id trivial
  | @create i now location after here created =>
    rw [here] at before
    obtain ⟨free, made⟩ := Store.create_made created
    -- Whoever owned the file would have been in the way.
    have nobody (j : ι) : ¬(contest.stage j).Owns := by
      intro owns
      have has := invariant.knows j
      cases stage : contest.stage j with
      | writing | done =>
        rw [stage] at has
        exact free _ has.1
      | starting | checked | captured | failed => simp [stage, Stage.Owns] at owns
    refine invariant.move ?_ (fun j _ owns => absurd owns (nobody j)) fun _ => ⟨trace, [], rfl, by simp⟩
    rw [written_quiet rfl, show written i trace = [] from before]
    exact ⟨made, Nat.le_refl 0, DigestWriter.start_eq_holding⟩
  | @write i location now writer next flushed more chunk here offered further within =>
    rw [here] at before
    have owns : (contest.stage i).Owns := by simp [here, Stage.Owns]
    obtain ⟨found, _, rfl⟩ := before
    rw [DigestWriter.writeAll_holding] at offered
    subst offered
    have grown : written i (trace ++ [(i, .write chunk)]) = written i trace ++ chunk := by
      simp [written_snoc, Act.chunk?]
    refine invariant.move ?_ (fun j apart also => absurd also (others owns apart)) fun _ =>
      (invariant.sole i owns).snoc fun _ => ⟨rfl, chunk, rfl⟩
    rw [grown]
    exact ⟨find_put_file found, by simpa using within, rfl⟩
  | @finish i location now writer here =>
    rw [here] at before
    have owns : (contest.stage i).Owns := by simp [here, Stage.Owns]
    obtain ⟨found, _, rfl⟩ := before
    refine invariant.move ?_ (fun j apart also => absurd also (others owns apart)) fun _ =>
      (invariant.sole i owns).snoc fun touches => by simp [Act.touches] at touches
    rw [written_quiet rfl]
    refine ⟨?_, rfl, rfl⟩
    simpa using found
  | @delete i location now writer flushed was after error here deleted =>
    have owns : (contest.stage i).Owns := by simp [here, Stage.Owns]
    exact invariant.move trivial (fun j apart also => absurd also (others owns apart)) False.elim
  | left error here => exact invariant.pass (.refl _ _) rfl id trivial

theorem Run.invariant (run : Run store name (start volume) trace contest) :
    Invariant store name trace contest := by
  induction run with
  | nil => exact invariant_start volume
  | own run step ih => exact ih.step step
  | other run elsewhere ih => exact ih.other elsewhere

theorem Step.writes {event : ι × Act} (step : Step store name contest event next)
    (hard : event.2 = .delete ∨ ∃ chunk, event.2 = .write chunk) : (contest.stage event.1).Owns := by
  cases step with
  | write chunk here | delete error here => simp [here, Stage.Owns]
  | _ => simp at hard

/-- Whatever is written or deleted is so by the run that made it. -/
theorem Run.sole (run : Run store name (start volume) trace contest) {before after : List (ι × Act)}
    {event : ι × Act} (happened : trace = before ++ event :: after)
    (hard : event.2 = .delete ∨ ∃ chunk, event.2 = .write chunk) : Sole event.1 before := by
  induction run generalizing after with
  | nil => simp at happened
  | other run elsewhere ih => exact ih happened
  | own run step ih =>
    rcases List.eq_nil_or_concat after with rfl | ⟨earlier, last, rfl⟩
    · obtain ⟨rfl, same⟩ := List.append_inj' happened rfl
      obtain rfl := (List.cons.inj same).1
      exact run.invariant.sole _ (step.writes hard)
    · rw [List.concat_eq_append, ← List.cons_append, ← List.append_assoc] at happened
      exact ih (List.append_inj' happened rfl).1

/-- A step of a run that did not make the file leaves what lies at the path. -/
theorem Step.spares {event : ι × Act} (step : Step store name contest event next)
    (invariant : Invariant store name trace contest) (stranger : ¬Sole event.1 trace) :
    Spares (store.pathOf name) contest.volume next.volume := by
  have owner (owns : (contest.stage event.1).Owns) : False := stranger (invariant.sole _ owns)
  cases step with
  | check | refused | finish | left => exact .refl _ _
  | capture here elsewhere | stopped error here elsewhere => exact elsewhere
  | create here created => exact fun found there => absurd there ((Store.create_made created).1 found)
  | collided here failed => exact .of_keeps (Store.create_failed failed).spreads.keeps
  | write chunk here | delete error here => exact (owner (by simp [here, Stage.Owns])).elim

theorem Step.others {event : ι × Act} (step : Step store name contest event next) {i : ι}
    (apart : i ≠ event.1) : next.stage i = contest.stage i := by
  cases step <;> exact Function.update_of_ne apart ..

theorem Run.others {more : List (ι × Act)} {later : Contest ι}
    (run : Run store name contest more later) {i j : ι} (alone : ∀ event ∈ more, event.1 = i)
    (apart : j ≠ i) : later.stage j = contest.stage j := by
  induction run with
  | nil => rfl
  | other run elsewhere ih => exact ih alone
  | own run step ih =>
    obtain ⟨earlier, last⟩ := List.forall_mem_append.mp alone
    rw [step.others (List.forall_mem_singleton.mp last ▸ apart), ih earlier]

theorem Step.stays {event : ι × Act} (step : Step store name contest event next) {i : ι}
    {receipt : Receipt} (ended : contest.stage i = .done receipt) :
    event.1 ≠ i ∧ next.stage i = .done receipt := by
  have apart : event.1 ≠ i := by
    rintro rfl
    cases step with
    | stopped error here => rcases here with here | here <;> simp [ended] at here
    | check here | refused here | capture here | create here | collided here | write _ here
    | finish here | delete _ here | left _ here => simp [ended] at here
  exact ⟨apart, (step.others apart.symm).trans ended⟩

theorem Run.stays {more : List (ι × Act)} {later : Contest ι}
    (run : Run store name contest more later) {i : ι} {receipt : Receipt}
    (ended : contest.stage i = .done receipt) (trace : List (ι × Act)) :
    later.stage i = .done receipt ∧ written i (trace ++ more) = written i trace := by
  induction run with
  | nil => exact ⟨ended, by rw [List.append_nil]⟩
  | own run step ih =>
    obtain ⟨apart, stays⟩ := step.stays ih.1
    refine ⟨stays, ?_⟩
    rw [← List.append_assoc, written_snoc, if_neg apart, List.append_nil, ih.2]
  | other run elsewhere ih => exact ih

theorem Run.append {first : Contest ι} (run : Run store name first trace contest)
    {more : List (ι × Act)} {later : Contest ι} (further : Run store name contest more later) :
    Run store name first (trace ++ more) later := by
  induction further with
  | nil => simpa using run
  | own further step ih =>
    rw [← List.append_assoc]
    exact ih.own step
  | other further elsewhere ih => exact ih.other elsewhere

/-- A run goes on alone until it ends with an archive of some size and digest, or fails. -/
def Goes (store : Store) (name : String) (contest : Contest ι) (i : ι) (volume : Volume)
    (outcome : Except RunError (Nat × String)) : Prop :=
  ∃ trace last, Run store name contest trace last ∧ (∀ event ∈ trace, event.1 = i) ∧
    last.volume = volume ∧
    match outcome with
    | .ok (size, digest) => ∃ receipt, last.stage i = .done receipt ∧ receipt.size = size ∧
      receipt.digest = digest
    | .error error => last.stage i = .failed error

namespace Goes

variable {i : ι} {after : Volume} {outcome : Except RunError (Nat × String)}

theorem failed {act : Act} {error : RunError} (step : Step store name contest (i, act) next)
    (ended : next.stage i = .failed error) : Goes store name contest i next.volume (.error error) :=
  ⟨_, next, Run.nil.own step, by simp, rfl, ended⟩

theorem behind {act : Act} (step : Step store name contest (i, act) next)
    (goes : Goes store name next i volume outcome) : Goes store name contest i volume outcome := by
  obtain ⟨trace, last, run, mine, left, ends⟩ := goes
  exact ⟨_, last, (Run.nil.own step).append run, by simpa using mine, left, ends⟩

theorem other (goes : Goes store name contest i volume outcome)
    (elsewhere : Spares (store.pathOf name) volume after) :
    Goes store name contest i after outcome := by
  obtain ⟨trace, last, run, mine, rfl, ends⟩ := goes
  exact ⟨trace, _, run.other elsewhere, mine, rfl, ends⟩

end Goes

/-- What the program does from the creation of its archive on is a row of such steps, whatever the disk
takes of it: what was hashed is one write, of which the file holds a front. -/
theorem writeArchive_run {σ : Type} (medium : Medium) (store : Store) (name staging : String)
    (now : Instant) (world : World σ) {i : ι} (here : contest.stage i = .captured)
    (same : contest.volume = world.volume) :
    let result := medium.writeArchive store name staging now world
    Goes store name contest i result.2.volume result.1 := by
  intro result
  rcases created : store.create world.volume name now with ⟨outcome, after⟩
  cases outcome with
  | error error =>
    have run : result = (.error error, { world with volume := after }) := by
      simp [result, Medium.writeArchive, World.onVolume, created]
    have fails := Goes.failed (.collided here (same ▸ created)) (Function.update_self ..)
    exact run ▸ fails
  | ok location =>
    have ends := Engine.writeArchive_created medium created staging
    obtain ⟨seen, filed⟩ := medium.packInto_filed after staging
    change result = _ at ends
    generalize medium.packInto after staging = packing at ends filed
    obtain ⟨packed, held⟩ := packing
    have front : held <+: seen := filed.front
    let made := contest.move i after (.writing location now (.start []) 0)
    let full := made.move i (after.put location (.file (.ofBytes held) now))
      (.writing location now (.holding seen) held.length)
    have atStart : made.stage i = .writing location now (.start []) 0 := Function.update_self ..
    have wrote : Step store name made (i, .write seen) full := by
      have step : Step store name made (i, .write seen) _ := .write seen atStart
        (congrArg Prod.snd (DigestWriter.writeAll_start seen)) (Nat.zero_le _) front.length_le
      rwa [DigestWriter.inner_holding, ← List.prefix_iff_eq_take.mp front] at step
    have atEnd : full.stage i = .writing location now (.holding seen) held.length :=
      Function.update_self ..
    refine .behind (.create here (same ▸ created)) (.behind wrote ?_)
    cases filed with
    | wholly =>
      rw [ends]
      exact ⟨_, _, Run.nil.own (.finish atEnd), by simp, rfl, _, Function.update_self .., rfl, rfl⟩
    | partly error =>
      simp only [] at ends
      cases deleted : store.delete (after.put location (.file (.ofBytes held) now)) name with
      | ok answer =>
        rw [ends, deleted]
        exact .failed (.delete error atEnd deleted) (Function.update_self ..)
      | error problem =>
        rw [ends, deleted]
        exact .failed (.left error atEnd) (Function.update_self ..)

/-- So is what it does with a staging directory, which it removes in the end. -/
theorem captureAndPack_run {σ : Type} {engine : Engine} (medium : Medium) {around : Surroundings σ}
    {discoverer : Discoverer σ} {lister : Lister σ} {options : BackupOptions}
    {destination staging : String} {now : Instant} {outside : σ} {before : Volume} {world : World σ}
    (opens : engine.store destination = .ok store)
    (named : Archive.fileName now engine.format.extension = name)
    (checked : Store.checkName name = .ok ())
    (segmented : ∀ entry,
      Engine.Captures around discoverer lister options outside entry → entry.Segmented)
    (wellFormed : before.WellFormed) (undisclosed : Engine.Undisclosed engine destination before)
    (staged : engine.makeStaging before = (.ok staging, world.volume))
    (arises : Engine.Arises around discoverer lister outside world.outside) {i : ι}
    (here : contest.stage i = .checked) (same : contest.volume = before) :
    let run := Engine.captureAndPack medium around discoverer lister store name staging options now world
    Goes store name contest i (Engine.removeStaging run.2.volume staging) (run.1.map Prod.snd) := by
  intro run
  obtain ⟨base, root, keeps, fresh, stagedNow, made, leaves⟩ :=
    undisclosed.aftermath wellFormed opens staged
  have spared {volume : Volume} (captured : Staged base root volume) :
      Spares (store.pathOf name) contest.volume volume :=
    .of_keeps (same ▸ keeps.trans (captured.keeps fresh))
  rcases Engine.captureAndPack_course medium store name
      (Engine.capture_staged segmented fresh arises stagedNow made now) with
    ⟨error, failed, captured, whole⟩ | ⟨count, later, ⟨captured, whole⟩, result⟩
  · change run.1 = _ at failed
    have aftermath := leaves run.2.volume run.2.volume captured whole (.refl _ _)
    rw [aftermath.removed (.refl _), failed]
    exact (Goes.failed (.stopped error (.inl here) (spared captured)) (Function.update_self ..)).other
      fun found => aftermath.spares named checked (.refl _) fun _ _ => id
  · change run = _ at result
    have atCaptured : (contest.move i later.volume .captured).stage i = .captured :=
      Function.update_self ..
    have goes := writeArchive_run medium store name staging now later atCaptured rfl
    obtain ⟨between, paves, wrote⟩ := Engine.writeArchive_cases medium store checked staging now later
    have aftermath := leaves later.volume between captured whole paves
    rw [result]
    generalize medium.writeArchive store name staging now later = written at goes wrote
    have kept : Keeps between written.2.volume ∧ ∀ location target,
        written.2.volume.node? location = some (.symlink target) →
          between.node? location = some (.symlink target) := by
      rcases wrote with ⟨_, unchanged⟩ | ⟨bytes, _, puts⟩
      · exact unchanged ▸ ⟨.refl _, fun _ _ => id⟩
      · exact ⟨puts.keeps, fun _ _ => puts.link⟩
    have told : (written.1.map (count, ·)).map Prod.snd = written.1 := by cases written.1 <;> rfl
    rw [aftermath.removed kept.1, told]
    exact (goes.behind (.capture here (spared captured))).other fun found =>
      aftermath.spares named checked kept.1 kept.2

/-- The whole of a run is a row of such steps, whatever cluster, format, disk and cancellation do. -/
theorem backup_run {σ : Type} {engine : Engine} (medium : Medium) {around : Surroundings σ}
    {discoverer : Discoverer σ} {lister : Lister σ} {options : BackupOptions} {destination : String}
    {world : World σ} (opens : engine.store destination = .ok store)
    (named : Archive.fileName (around.now world.outside).1 engine.format.extension = name)
    (segmented : ∀ entry,
      Engine.Captures around discoverer lister options world.outside entry → entry.Segmented)
    (wellFormed : world.volume.WellFormed)
    (undisclosed : Engine.Undisclosed engine destination world.volume) {i : ι}
    (here : contest.stage i = .starting) (same : contest.volume = world.volume) :
    let run := engine.backup medium around discoverer lister destination options world
    Goes store name contest i run.2.volume
      (run.1.map fun result => (result.archiveSize, result.sha256)) := by
  intro run
  have course := engine.backup_course medium around discoverer lister destination options world
  change Engine.Course engine medium around discoverer lister destination options _ world run.1
    run.2.volume at course
  generalize (around.now world.outside).1 = started at course named
  generalize run.1 = outcome at course
  generalize run.2.volume = final at course
  have atChecked : (contest.move i contest.volume .checked).stage i = .checked :=
    Function.update_self ..
  have stops (error : RunError) {after : Volume}
      (available : store.ensureAvailable contest.volume name = .ok ())
      (elsewhere : Spares (store.pathOf name) contest.volume after) :
      Goes store name contest i after (.error error) :=
    (Goes.failed (.stopped error (.inl atChecked) elsewhere) (Function.update_self ..)).behind
      (.check here available)
  cases course with
  | misdirected refused => simp [opens] at refused
  | taken also taken =>
    obtain rfl := Except.ok.inj (opens.symm.trans also)
    rw [named, ← same] at taken
    have fails := Goes.failed (.refused here taken) (Function.update_self ..)
    exact same ▸ fails
  | cancelled also available =>
    obtain rfl := Except.ok.inj (opens.symm.trans also)
    rw [named, ← same] at available
    exact same ▸ stops .cancelled available (.refl _ _)
  | @unstaged _ error _ also available refused =>
    obtain rfl := Except.ok.inj (opens.symm.trans also)
    rw [named, ← same] at available
    have keeps : Keeps contest.volume final :=
      same ▸ (Engine.makeStaging_error refused).spreads.keeps
    exact stops error available (.of_keeps keeps)
  | @ended _ staging ready last outcome completed also available staged arises packed =>
    obtain rfl := Except.ok.inj (opens.symm.trans also)
    rw [named] at available packed
    have goes := captureAndPack_run medium opens named (Store.checkName_of_available available) segmented
      wellFormed undisclosed staged arises atChecked same
    rw [packed] at goes
    have told : (outcome.map fun packed => (BackupResult.mk packed.1
        (Archive.fileName started engine.format.extension)
        (store.pathOf (Archive.fileName started engine.format.extension)) packed.2.1 packed.2.2
        engine.format.algorithm started completed)).map (fun result =>
          (result.archiveSize, result.sha256)) = outcome.map Prod.snd := by
      cases outcome <;> rfl
    rw [told]
    exact goes.behind (.check here (same ▸ available))

/-- However the steps of any number of runs interleave: at most one run is done; only the run that
made the file writes to it and deletes it; and the file of the run that is done stays as it was
written. -/
theorem run_oneArchive (run : Run store name (start volume) trace contest) :
    (∀ i j first second, contest.stage i = .done first → contest.stage j = .done second → i = j) ∧
    (∀ before event after, trace = before ++ event :: after →
      (event.2 = .delete ∨ ∃ chunk, event.2 = .write chunk) → Sole event.1 before) ∧
    (∀ event next, Step store name contest event next → ¬Sole event.1 trace →
      Spares (store.pathOf name) contest.volume next.volume) ∧
    ∀ i receipt, contest.stage i = .done receipt →
      receipt.size = (written i trace).length ∧ receipt.digest = sha256 (written i trace) ∧
      ∀ more later, Run store name contest more later →
        later.stage i = .done receipt ∧
        later.volume.find false (store.pathOf name) = .ok (receipt.location,
          .file (.ofBytes (written i trace)) receipt.modified) ∧
        hashFile later.volume (store.pathOf name) = .ok receipt.digest := by
  have invariant := run.invariant
  refine ⟨fun i j first second doneI doneJ => ?_, fun before event after happened => run.sole happened,
    fun event next step => step.spares invariant, fun i receipt ended => ?_⟩
  · exact invariant.unique i j (by simp [doneI, Stage.Owns]) (by simp [doneJ, Stage.Owns])
  · have knows := invariant.knows i
    rw [ended] at knows
    refine ⟨knows.2.1, knows.2.2, fun more later further => ?_⟩
    obtain ⟨stays, same⟩ := further.stays ended trace
    have still := (run.append further).invariant.knows i
    rw [stays, same] at still
    refine ⟨stays, still.1, ?_⟩
    have found := find_follow still.1
    simp [hashFile, Volume.read, openFile, found, Opened.read, Contents.toBytes, Contents.ofBytes,
      still.2.2, bind, Except.bind]

/-! Two runs on a volume with one directory. The second finds the name free and captures; then the first
runs from its start to its end, and the second comes too late to make the file. -/

section

open Engine MemoryCluster

/-- Where something lies at the path of the archive, it cannot be made. -/
theorem create_late {volume : Volume} (keeps : Keeps bareVolume volume) (linkFree : volume.LinkFree [])
    {found : Location × Node} (there : volume.find false (Store.pathOf ⟨"/tmp", "tar.gz"⟩ firstName) =
      .ok found) : Store.create ⟨"/tmp", "tar.gz"⟩ volume firstName ⟨0, 0⟩ =
        (.error (.archiveExists (Store.pathOf ⟨"/tmp", "tar.gz"⟩ firstName)), volume) := by
  have tmp : volume.Directories [] ["tmp"] := by
    rw [directories_cons]
    exact ⟨keeps.nodes _ _ rfl, directories_nil _ _⟩
  rw [isPlain_archive.find linkFree tmp] at there
  have taken : (volume.node? ["tmp", firstName]).isSome := by
    cases lies : volume.node? ["tmp", firstName] with
    | none => simp [lies] at there
    | some node => rfl
  rw [create_of_plain ⟨0, 0⟩ linkFree isPlain_tmp isPlain_archive checkName_firstName tmp,
    List.singleton_append, if_pos taken]

theorem backup_web : ∃ result after, plainEngine.backup plainEngine.medium (undisturbed startClock)
    session.discoverer session.lister "/tmp" allOptions startWorld = (.ok result, after) ∧
      result.archivePath = Store.pathOf ⟨"/tmp", "tar.gz"⟩ firstName := by
  have here : startWorld.outside.1 = web := rfl
  have time : (startClock startWorld.outside.2).1 = ⟨0, 0⟩ := rfl
  rcases unlisted_or_looked web allOptions with ⟨unlisted, _⟩ | ⟨_, names, _, looked⟩
  · exact absurd unlisted listed_web
  · obtain ⟨_, _, result, after, ended, _, _, leaves, _⟩ := backup_ok reachable_web.sound scoped_web
      ArchiveFormat.isTarGzip_tarGzip opens_tmp looked (fun _ => valid_web) here time rfl
      hosts_bareVolume
    exact ⟨result, after, ended, leaves.path⟩

theorem segmented_web {entry : Entry} (captures : Captures (undisturbed startClock) session.discoverer
    session.lister allOptions startWorld.outside entry) : entry.Segmented :=
  (valid_web (eligible_of_captures reachable_web.sound scoped_web captures)).segmented

theorem run_oneArchive_race : ∃ (contest : Contest Bool) (trace : List (Bool × Act))
    (receipt : Receipt) (result : BackupResult),
    (plainEngine.runBackup (undisturbed startClock) session.discoverer session.lister "/tmp"
      allOptions startWorld).1 = .ok result ∧
    Run ⟨"/tmp", "tar.gz"⟩ firstName (start startWorld.volume) trace contest ∧
    contest.stage false = .done receipt ∧
    contest.stage true = .failed (.archiveExists result.archivePath) ∧
    receipt.size = result.archiveSize ∧ receipt.digest = result.sha256 ∧
    result.sha256 = sha256 (written false trace) := by
  obtain ⟨result, after, ended, path⟩ := backup_web
  obtain ⟨metrics, ran⟩ := runBackup_ok ended
  let begun : Contest Bool := start bareVolume
  let waiting := (begun.move true bareVolume .checked).move true bareVolume .captured
  have waits : Run ⟨"/tmp", "tar.gz"⟩ firstName begun [(true, .check), (true, .capture)] waiting :=
    (Run.nil.own (.check rfl hosts_bareVolume.available)).own (.capture rfl (.refl _ _))
  have still : waiting.stage false = .starting := rfl
  have goes := backup_run plainEngine.medium opens_tmp rfl (fun _ => segmented_web)
    hosts_bareVolume.wellFormed undisclosed_tmp still rfl
  have transacts := backup_transacts rfl plainEngine.medium (fun _ => segmented_web)
    hosts_bareVolume.wellFormed undisclosed_tmp
  simp only [ended] at goes transacts
  obtain ⟨trace, last, run, alone, left, receipt, isDone, size, digest⟩ := goes
  have captured : last.stage true = .captured := run.others alone (by decide)
  have there := (waits.append run).invariant.knows false
  rw [isDone] at there
  have linkFree : last.volume.LinkFree [] := by
    intro location target link
    rw [left] at link
    have was := transacts.link link
    rw [show startWorld.volume.node? _ = _ from bareVolume_node _] at was
    split at was <;> cases was
  have late : Step ⟨"/tmp", "tar.gz"⟩ firstName last (true, .fail)
      (last.move true last.volume (.failed (.archiveExists result.archivePath))) :=
    .collided captured (path ▸ create_late (left ▸ transacts.keeps) linkFree there.1)
  have whole := (waits.append run).own late
  have isDoneStill := (late.stays isDone).2
  refine ⟨_, _, receipt, result, by rw [ran], whole, isDoneStill, ?_, size, digest, ?_⟩
  · simp [Contest.move]
  · rw [← digest]
    exact ((run_oneArchive whole).2.2.2 false receipt isDoneStill).2.1

end

end Contest

end ClusterArchive
