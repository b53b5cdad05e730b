import ClusterArchive.Proofs.Store.Shelf
import ClusterArchive.Proofs.Volume.Entrance

/-! A store does what the rules of its shelf say, from one operation to the next, and nothing else: all
that lies outside its directory stays, and a missing directory is made once. -/

namespace ClusterArchive.Store

open Volume

variable {store : Store} {doomed : List String} {base volume : Volume} {place : Location}
  {shelf : Shelf} {name : String}

/-- Nodes in a directory that a way may rely on: directories, and links that are not to be deleted. -/
def Firm (doomed : List String) (name : String) : Node → Prop
  | .directory => True
  | .symlink _ => name ∉ doomed
  | .file .. => False

/-- The path of a store leads to its directory, also where of the nodes in it only the firm ones are. -/
def Reaches (store : Store) (doomed : List String) (volume : Volume) (place : Location) : Prop :=
  ∃ bare : Volume, Keeps bare volume ∧ bare.find true store.directory = .ok (place, .directory) ∧
    ∀ name node, bare.node? (place ++ [name]) = some node → Firm doomed name node

theorem Reaches.find (reaches : store.Reaches doomed volume place) :
    volume.find true store.directory = .ok (place, .directory) := by
  obtain ⟨bare, keeps, leads, _⟩ := reaches
  exact find_kept keeps leads

/-- The directory is reached as long as the firm nodes in it and all others are kept. -/
theorem Reaches.kept {after : Volume} (reaches : store.Reaches doomed volume place)
    (working : after.workingDirectory = volume.workingDirectory)
    (kept : ∀ location node, volume.node? location = some node →
      (∀ name, location = place ++ [name] → Firm doomed name node) →
        after.node? location = some node) :
    store.Reaches doomed after place := by
  obtain ⟨bare, keeps, leads, members⟩ := reaches
  refine ⟨bare, ⟨fun location node found => ?_, working.trans keeps.workingDirectory⟩, leads, members⟩
  refine kept location node (keeps.nodes _ _ found) fun name same => ?_
  exact members name node (same ▸ found)

/-- A directory that is missing, and empty once it is made. -/
structure Missing (store : Store) (volume : Volume) (place : Location) : Prop where
  absent : volume.find true store.directory = .error .notFound
  creatable : (volume.makeDirectories store.directory).1 = .ok ()
  leads : (volume.makeDirectories store.directory).2.find true store.directory =
    .ok (place, .directory)
  empty : ∀ name, (volume.makeDirectories store.directory).2.node? (place ++ [name]) = none

/-- Names that the file system takes in the directory of a store. -/
structure Takes (store : Store) (name : String) : Prop where
  short : name.utf8ByteSize ≤ nameLimit
  accepts : Accepts (store.pathOf name)

instance (store : Store) (name : String) : Decidable (store.Takes name) :=
  decidable_of_iff (name.utf8ByteSize ≤ nameLimit ∧ Accepts (store.pathOf name))
    ⟨fun ⟨short, accepts⟩ => ⟨short, accepts⟩, fun takes => ⟨takes.short, takes.accepts⟩⟩

/-- A volume that has the directory of a store as a shelf shows it. All else is as at first, or as
it is when the directory was made. -/
structure Represents (store : Store) (doomed : List String) (base : Volume) (place : Location)
    (shelf : Shelf) (volume : Volume) : Prop where
  wellFormed : volume.WellFormed
  members : ∀ name, volume.node? (place ++ [name]) = shelf.node? name
  outside : ∀ location, (∀ name, location ≠ place ++ [name]) → volume.node? location =
    (if shelf.present then (base.makeDirectories store.directory).2 else base).node? location
  reaches : shelf.present = true → store.Reaches doomed volume place
  unmade : shelf.present = false → volume = base ∧ store.Missing base place

def shelfOf (store : Store) (base : Volume) (place : Location) : Shelf :=
  ⟨base.isDirectory store.directory, fun name => base.node? (place ++ [name])⟩

theorem represents_start (wellFormed : base.WellFormed)
    (destination : store.Reaches doomed base place ∨ store.Missing base place) :
    store.Represents doomed base place (store.shelfOf base place) base := by
  rcases destination with reaches | missing
  · have present : base.isDirectory store.directory = true := by simp [isDirectory, reaches.find]
    have same : (base.makeDirectories store.directory).2 = base := by
      rw [wellFormed.makeDirectories_found reaches.find]
    refine ⟨wellFormed, fun _ => rfl, fun _ _ => ?_, fun _ => reaches, fun none_ => ?_⟩
    · simp [shelfOf, present, same]
    · simp [shelfOf, present] at none_
  · have none_ : base.isDirectory store.directory = false := by simp [isDirectory, missing.absent]
    refine ⟨wellFormed, fun _ => rfl, fun _ _ => ?_, fun present => ?_, fun _ => ⟨rfl, missing⟩⟩
    · simp [shelfOf, none_]
    · simp [shelfOf, none_] at present

namespace Represents

variable (represents : store.Represents doomed base place shelf volume)

include represents

theorem present_of_node {node : Node} (found : shelf.node? name = some node) :
    shelf.present = true := by
  by_contra other
  obtain ⟨rfl, missing⟩ := represents.unmade (by simpa using other)
  have absent := (makeDirectories_spreads volume store.directory).keeps.absent (missing.empty name)
  rw [represents.members, found] at absent
  cases absent

theorem node?_of_unmade (unmade : shelf.present = false) (name : String) : shelf.node? name = none := by
  cases found : shelf.node? name with
  | none => rfl
  | some node =>
    rw [represents.present_of_node found] at unmade
    cases unmade

theorem find_member (is : IsName name) (takes : store.Takes name) {follow : Bool}
    (plain : follow = false ∨ ∀ target, shelf.node? name ≠ some (.symlink target)) :
    volume.find follow (store.pathOf name) = match shelf.node? name with
      | some node => .ok (place ++ [name], node)
      | none => .error .notFound := by
  cases present : shelf.present with
  | true =>
    rw [← represents.members name] at plain ⊢
    exact represents.wellFormed.find_member (represents.reaches present).find is.step is.up takes.short
      takes.accepts plain
  | false =>
    obtain ⟨rfl, missing⟩ := represents.unmade present
    have nonempty : store.directory ≠ "" := (resolve_ok (find_eq_ok.mp missing.leads).1).2
    rw [represents.node?_of_unmade present]
    exact represents.wellFormed.find_member_missing nonempty missing.absent is.step takes.accepts follow

theorem made : (volume.makeDirectories store.directory).1 = .ok () ∧
    store.Represents doomed base place { shelf with present := true }
      (volume.makeDirectories store.directory).2 := by
  cases present : shelf.present with
  | true =>
    have same : ({ shelf with present := true } : Shelf) = shelf := by rw [← present]
    rw [represents.wellFormed.makeDirectories_found (represents.reaches present).find, same]
    exact ⟨rfl, represents⟩
  | false =>
    obtain ⟨rfl, missing⟩ := represents.unmade present
    have spreads := makeDirectories_spreads volume store.directory
    refine ⟨missing.creatable, spreads.wellFormed represents.wellFormed, fun name => ?_,
      fun location _ => by simp, fun _ => ?_, fun none_ => by cases none_⟩
    · rw [missing.empty name]
      exact (represents.node?_of_unmade present name).symm
    · refine ⟨_, .refl _, missing.leads, fun name node found => ?_⟩
      rw [missing.empty name] at found
      cases found

theorem put (present : shelf.present = true)
    (loose : ∀ old, shelf.node? name = some old → ¬Firm doomed name old) (node : Node) :
    store.Represents doomed base place (shelf.put name node) (volume.put (place ++ [name]) node) where
  wellFormed := by
    refine represents.wellFormed.put ?_ ?_ node
    · rw [represents.members]
      exact fun directory => loose _ directory trivial
    · rw [List.dropLast_concat]
      exact (find_eq_ok.mp (represents.reaches present).find).2
  members := by
    intro second
    rw [node?_put volume (by simp), represents.members, Shelf.put]
    simp
  outside := by
    intro location apart
    rw [node?_put volume (by simp), if_neg (apart name).symm, represents.outside location apart,
      present]
    rfl
  reaches := by
    intro _
    refine (represents.reaches present).kept rfl fun location found there firm => ?_
    rw [node?_put volume (by simp), if_neg, there]
    rintro rfl
    rw [represents.members] at there
    exact loose _ there (firm name rfl)
  unmade := by
    intro none_
    cases none_

theorem drop {node : Node} (found : shelf.node? name = some node) (loose : ¬Firm doomed name node) :
    store.Represents doomed base place (shelf.drop name) (volume.drop (place ++ [name])) where
  wellFormed := by
    refine represents.wellFormed.drop ?_
    rw [represents.members, found]
    rintro ⟨⟩
    exact loose trivial
  members := by
    intro second
    rw [node?_drop volume (by simp), represents.members, Shelf.drop]
    simp
  outside := by
    intro location apart
    rw [node?_drop volume (by simp), if_neg (apart name).symm, represents.outside location apart]
    rfl
  reaches := by
    intro present
    refine (represents.reaches present).kept rfl fun location second there firm => ?_
    rw [node?_drop volume (by simp), if_neg, there]
    rintro rfl
    rw [represents.members, found] at there
    exact loose (Option.some.inj there ▸ firm name rfl)
  unmade := by
    intro none_
    have present : shelf.present = false := none_
    rw [represents.present_of_node found] at present
    cases present

end Represents

/-! Each operation by the rules. -/

/-- An operation went by the rules, and the shelf shows what it left. -/
def Obeys (store : Store) (doomed : List String) (base : Volume) (place : Location) (shelf : Shelf)
    (volume : Volume) (operation : Operation) : Prop :=
  ∃ next, Does store place shelf operation (store.perform volume operation).1 next ∧
    store.Represents doomed base place next (store.perform volume operation).2

theorem perform_refused (volume : Volume) {operation : Operation} {error : RunError}
    (named : operation.name? = some name) (refused : checkName name = .error error) :
    store.perform volume operation = (.failed error, volume) := by
  cases operation with
  | ensureDirectory | list => cases named
  | ensureAvailable | create | write | «open» | delete =>
    obtain rfl := Option.some.inj named
    simp [perform, ensureAvailable, create, write, «open», delete, refused, Answer.of, bind,
      Except.bind]

namespace Represents

variable (represents : store.Represents doomed base place shelf volume)

include represents

theorem obeys_ensureDirectory : store.Obeys doomed base place shelf volume .ensureDirectory := by
  obtain ⟨ended, made⟩ := represents.made
  refine ⟨_, ?_, made⟩
  have answer : (store.perform volume .ensureDirectory).1 = .done := by
    simp [perform, ensureDirectory, ended, Except.mapError, Answer.of]
  exact answer ▸ .ensured

theorem obeys_list : store.Obeys doomed base place shelf volume .list := by
  cases present : shelf.present with
  | true =>
    have leads := (represents.reaches present).find
    obtain ⟨archives, listed⟩ : ∃ archives, store.list volume = .ok archives :=
      ⟨_, list_of_leads leads⟩
    have ascending := represents.wellFormed.ascending
    refine ⟨shelf, ?_, represents⟩
    simp only [perform, listed, Answer.of]
    refine .listed (list_ascending ascending listed) fun info => ?_
    rw [mem_list ascending leads listed, represents.members, isArchiveName_iff]
    constructor
    · rintro ⟨contents, file, ⟨stem, filled, name⟩, isPath, size⟩
      exact ⟨contents, stem, file, filled, name, isPath, size⟩
    · rintro ⟨contents, stem, file, filled, name, isPath, size⟩
      exact ⟨contents, file, ⟨stem, filled, name⟩, isPath, size⟩
  | false =>
    obtain ⟨rfl, missing⟩ := represents.unmade present
    have none_ : store.list volume = .ok [] := by
      simp [Store.list, readDirectory, missing.absent, bind, Except.bind]
    refine ⟨shelf, ?_, represents⟩
    simp only [perform, none_, Answer.of]
    exact .listed .nil fun info => by simp [represents.node?_of_unmade present]

variable (is : IsName name) (takes : store.Takes name)

include is takes

theorem obeys_ensureAvailable : store.Obeys doomed base place shelf volume (.ensureAvailable name) := by
  have found := represents.find_member is takes (.inl rfl)
  have checked := checkName_eq_ok.mpr is
  refine ⟨shelf, ?_, represents⟩
  cases there : shelf.node? name with
  | none =>
    simp only [perform, ensureAvailable, checked, found, there, Answer.of, bind, Except.bind]
    exact .available is there
  | some node =>
    simp only [perform, ensureAvailable, checked, found, there, Answer.of, bind, Except.bind]
    exact .unavailable is there

theorem obeys_create (now : Instant) : store.Obeys doomed base place shelf volume (.create name now) := by
  obtain ⟨ended, made⟩ := represents.made
  have checked := checkName_eq_ok.mpr is
  -- The name is looked up when the directory is there, which changes nothing on the shelf.
  generalize result : volume.makeDirectories store.directory = outcome at ended made
  obtain ⟨_, after⟩ := outcome
  have leads := (made.reaches rfl).find
  have resolved : after.resolve false (store.pathOf name) = .ok (place ++ [name]) :=
    made.wellFormed.resolve_member leads is.step is.up takes.short takes.accepts (.inl rfl)
  obtain rfl : _ = Except.ok () := ended
  cases there : shelf.node? name with
  | none =>
    have free : after.node? (place ++ [name]) = none := (made.members name).trans there
    have performed : store.perform volume (.create name now) = (.created (place ++ [name]),
        after.put (place ++ [name]) (.file (.ofBytes []) now)) := by
      simp [perform, create, checked, ensureDirectory, result, Except.mapError, createFile, resolved,
        free, Answer.of, bind, Except.bind]
    refine ⟨shelf.put name (.file (.ofBytes []) now), ?_, ?_⟩
    · rw [performed]
      exact .created is there
    · rw [performed]
      exact made.put rfl (by simp [there]) _
  | some node =>
    have present := represents.present_of_node there
    have same : ({ shelf with present := true } : Shelf) = shelf := by rw [← present]
    have held : after.node? (place ++ [name]) = some node := (made.members name).trans there
    have performed : store.perform volume (.create name now) =
        (.failed (.archiveExists (store.pathOf name)), after) := by
      simp [perform, create, checked, ensureDirectory, result, Except.mapError, createFile, resolved,
        held, Answer.of, bind, Except.bind]
    refine ⟨shelf, ?_, ?_⟩
    · rw [performed]
      exact .taken is there
    · rw [performed]
      exact same ▸ made

theorem obeys_write (contents : Contents) (now : Instant) :
    store.Obeys doomed base place shelf volume (.write name contents now) := by
  have found := represents.find_member is takes (.inl rfl)
  have checked := checkName_eq_ok.mpr is
  cases there : shelf.node? name with
  | none =>
    simp only [Obeys, perform, write, checked, found, there, bind, Except.bind]
    exact ⟨shelf, .unwritten is (by simp [there]), represents⟩
  | some node =>
    cases node with
    | file old since =>
      simp only [Obeys, perform, write, checked, found, there, bind, Except.bind]
      exact ⟨_, .written is there,
        represents.put (represents.present_of_node there) (by simp [there, Firm]) _⟩
    | directory | symlink =>
      simp only [Obeys, perform, write, checked, found, there, bind, Except.bind]
      exact ⟨shelf, .unwritten is (by simp [there]), represents⟩

theorem obeys_open : store.Obeys doomed base place shelf volume (.open name) := by
  have checked := checkName_eq_ok.mpr is
  refine ⟨shelf, ?_, represents⟩
  by_cases link : ∃ target, shelf.node? name = some (.symlink target)
  · obtain ⟨target, link⟩ := link
    exact .followed is link
  · rw [not_exists] at link
    have found : volume.find true (store.pathOf name) = _ := represents.find_member is takes (.inr link)
    cases there : shelf.node? name with
    | none =>
      simp only [perform, «open», openFile, checked, found, there, Answer.of, bind, Except.bind]
      exact .absent is there
    | some node =>
      cases node with
      | file contents since =>
        simp only [perform, «open», openFile, checked, found, there, Answer.of, bind, Except.bind]
        exact .opened is there
      | directory =>
        simp only [perform, «open», openFile, checked, found, there, Answer.of, bind, Except.bind]
        exact .openedDirectory is there
      | symlink target => exact absurd there (link target)

theorem obeys_delete (isDoomed : name ∈ doomed) :
    store.Obeys doomed base place shelf volume (.delete name) := by
  have found := represents.find_member is takes (.inl rfl)
  have checked := checkName_eq_ok.mpr is
  cases there : shelf.node? name with
  | none =>
    simp only [Obeys, perform, delete, Volume.remove, checked, found, there, bind, Except.bind]
    exact ⟨shelf, .gone is there, represents⟩
  | some node =>
    cases node with
    | directory =>
      simp only [Obeys, perform, delete, Volume.remove, checked, found, there, bind, Except.bind]
      exact ⟨shelf, .undeletable is there, represents⟩
    | file | symlink =>
      simp only [Obeys, perform, delete, Volume.remove, checked, found, there, bind, Except.bind]
      exact ⟨_, .deleted is there (by simp), represents.drop there (by simp [Firm, isDoomed])⟩

end Represents

theorem Represents.obeys (represents : store.Represents doomed base place shelf volume)
    {operation : Operation} (takes : ∀ name, operation.name? = some name → store.Takes name)
    (deletes : ∀ name, operation.deleted? = some name → name ∈ doomed) :
    store.Obeys doomed base place shelf volume operation := by
  by_cases wrong : ∃ name, operation.name? = some name ∧ ¬IsName name
  · obtain ⟨name, named, other⟩ := wrong
    obtain ⟨message, refused⟩ : ∃ message, checkName name = .error (.validation message) :=
      ((checkName_cases name).resolve_left fun is => other is.1).2
    rw [Obeys, perform_refused volume named refused]
    exact ⟨shelf, .refused named other, represents⟩
  · have is (name : String) (named : operation.name? = some name) : IsName name := by
      by_contra other
      exact wrong ⟨name, named, other⟩
    cases operation with
    | ensureDirectory => exact represents.obeys_ensureDirectory
    | list => exact represents.obeys_list
    | ensureAvailable name => exact represents.obeys_ensureAvailable (is _ rfl) (takes _ rfl)
    | create name now => exact represents.obeys_create (is _ rfl) (takes _ rfl) now
    | write name contents now => exact represents.obeys_write (is _ rfl) (takes _ rfl) contents now
    | «open» name => exact represents.obeys_open (is _ rfl) (takes _ rfl)
    | delete name => exact represents.obeys_delete (is _ rfl) (takes _ rfl) (deletes _ rfl)

theorem Does.available_iff {answer : Answer} {next : Shelf}
    (does : Does store place shelf (.ensureAvailable name) answer next) :
    answer = .done ↔ IsName name ∧ shelf.node? name = none := by
  cases does with
  | refused named other =>
    obtain rfl := Option.some.inj named
    simp [other]
  | available is free => simp [is, free]
  | unavailable is taken => simp [taken]

theorem Does.created_iff {now : Instant} {answer : Answer} {next : Shelf}
    (does : Does store place shelf (.create name now) answer next) :
    (∃ location, answer = .created location) ↔ IsName name ∧ shelf.node? name = none := by
  cases does with
  | refused named other =>
    obtain rfl := Option.some.inj named
    simp [other]
  | created is free => simp [is, free]
  | taken is taken => simp [taken]

/-- A name is available exactly if an archive can be made under it. -/
theorem Represents.available_iff (represents : store.Represents doomed base place shelf volume)
    (takes : store.Takes name) (now : Instant) : store.ensureAvailable volume name = .ok () ↔
      ∃ location after, store.create volume name now = (.ok location, after) := by
  have takesIt (operation : Operation) (named : operation.name? = some name) :
      ∀ other, operation.name? = some other → store.Takes other := by
    intro other isOther
    exact Option.some.inj (named.symm.trans isOther) ▸ takes
  obtain ⟨_, available, _⟩ := represents.obeys (takesIt (.ensureAvailable name) rfl)
    (by simp [Operation.deleted?])
  obtain ⟨_, created, _⟩ := represents.obeys (takesIt (.create name now) rfl)
    (by simp [Operation.deleted?])
  have availableIff := available.available_iff
  have createdIff := created.created_iff
  simp only [perform] at availableIff createdIff
  constructor
  · intro ok
    obtain ⟨location, made⟩ := createdIff.mpr (availableIff.mp (by rw [ok]; rfl))
    generalize store.create volume name now = result at made
    obtain ⟨outcome, after⟩ := result
    cases outcome with
    | ok place => exact ⟨place, after, rfl⟩
    | error error => cases made
  · rintro ⟨location, after, made⟩
    have done := availableIff.mpr (createdIff.mp ⟨location, by rw [made]; rfl⟩)
    cases ended : store.ensureAvailable volume name with
    | ok => rfl
    | error error =>
      rw [ended] at done
      cases done

theorem Represents.run (represents : store.Represents doomed base place shelf volume)
    {operations : List Operation}
    (takes : ∀ name ∈ operations.filterMap Operation.name?, store.Takes name)
    (deletes : ∀ name ∈ operations.filterMap Operation.deleted?, name ∈ doomed) :
    ∃ final, Follows store place shelf operations (store.run volume operations).1 final ∧
      store.Represents doomed base place final (store.run volume operations).2 := by
  -- What one operation leaves on the shelf is what the next one finds there.
  induction operations generalizing volume shelf with
  | nil => exact ⟨shelf, .done, represents⟩
  | cons operation rest ih =>
    have here {f : Operation → Option String} {name : String} (named : f operation = some name) :
        name ∈ (operation :: rest).filterMap f :=
      List.mem_filterMap.mpr ⟨operation, List.mem_cons_self, named⟩
    have later {f : Operation → Option String} {name : String} (member : name ∈ rest.filterMap f) :
        name ∈ (operation :: rest).filterMap f := by
      obtain ⟨other, isLater, named⟩ := List.mem_filterMap.mp member
      exact List.mem_filterMap.mpr ⟨other, List.mem_cons_of_mem _ isLater, named⟩
    obtain ⟨between, does, after⟩ := represents.obeys (fun name named => takes name (here named))
      (fun name named => deletes name (here named))
    obtain ⟨final, further, last⟩ := ih after (fun name member => takes name (later member))
      (fun name member => deletes name (later member))
    exact ⟨final, .step does further, last⟩

/-- Whatever is asked of a store, it answers as its shelf does and leaves what the shelf shows. A name
is available at any time exactly if an archive can be made under it. -/
theorem run_refines (wellFormed : base.WellFormed) (operations : List Operation)
    (destination : store.Reaches (operations.filterMap Operation.deleted?) base place ∨
      store.Missing base place)
    (takes : ∀ name ∈ operations.filterMap Operation.name?, store.Takes name) :
    let after := store.run base operations
    ∃ final, Follows store place (store.shelfOf base place) operations after.1 final ∧
      store.Represents (operations.filterMap Operation.deleted?) base place final after.2 ∧
      ∀ name now, store.Takes name → (store.ensureAvailable after.2 name = .ok () ↔
        ∃ location made, store.create after.2 name now = (.ok location, made)) := by
  intro after
  obtain ⟨final, follows, represents⟩ :=
    (represents_start wellFormed destination).run takes fun _ => id
  exact ⟨final, follows, represents, fun name now fits => represents.available_iff fits now⟩

/-- A directory with an archive, a directory and a link to itself. -/
def linkedVolume : Volume := ⟨[
  (["d"], .directory),
  (["d", "cluster-backup-a.tar"], .file (.ofBytes [1]) ⟨0, 0⟩),
  (["d", "old"], .directory),
  (["d", "self"], .symlink ".")], []⟩

theorem wellFormed_linked : linkedVolume.WellFormed := .of_nodes (by decide) (by decide) rfl

def selfStore : Store := ⟨"/d/self", "tar"⟩

theorem find_self {volume : Volume} (there : volume.node? ["d"] = some .directory)
    (link : volume.node? ["d", "self"] = some (.symlink ".")) :
    volume.find true "/d/self" = .ok (["d"], .directory) := by
  have steps : walk.steps "/d/self" = ["d", "self"] := by decide
  have absolute : Path.isAbsolute "/d/self" = true := by decide
  have target : Path.isAbsolute "." = false := by decide
  have stepsTarget : walk.steps "." = [] := by decide
  have short : ¬nameLimit < ("d").utf8ByteSize ∧ ¬nameLimit < ("self").utf8ByteSize := by decide
  rw [Volume.find, resolve_of_accepts (by decide) (by decide), steps, absolute]
  simp [walk, there, link, short, linkLimit, target, stepsTarget, bind, Except.bind]

def bareVolume : Volume := ⟨[(["d"], .directory), (["d", "self"], .symlink ".")], []⟩

theorem bareVolume_cases {location : Location} {node : Node}
    (found : bareVolume.node? location = some node) :
    (location = [] ∨ location = ["d"]) ∧ node = .directory ∨
      location = ["d", "self"] ∧ node = .symlink "." := by
  rw [node?] at found
  split at found
  next top => exact .inl ⟨.inl top, (Option.some.inj found).symm⟩
  next =>
    have member := Assoc.mem_of_get? found
    simp only [bareVolume, List.mem_cons, Prod.mk.injEq, List.not_mem_nil, or_false] at member
    rcases member with ⟨there, directory⟩ | link
    · exact .inl ⟨.inr there, directory⟩
    · exact .inr link

theorem reaches_self {doomed : List String} (spared : "self" ∉ doomed) :
    selfStore.Reaches doomed linkedVolume ["d"] := by
  refine ⟨bareVolume, ⟨fun location node found => ?_, rfl⟩, find_self rfl rfl, fun name node found => ?_⟩
  · rcases bareVolume_cases found with ⟨rfl | rfl, rfl⟩ | ⟨rfl, rfl⟩ <;> rfl
  · rcases bareVolume_cases found with ⟨_, rfl⟩ | ⟨same, rfl⟩
    · trivial
    · obtain rfl : name = "self" := by simpa using same
      exact spared

def linkedOperations : List Operation := [
  .ensureAvailable "cluster-backup-b.tar",
  .create "cluster-backup-b.tar" ⟨1, 0⟩,
  .write "cluster-backup-b.tar" (.ofBytes [2]) ⟨2, 0⟩,
  .create "self" ⟨3, 0⟩,
  .delete "cluster-backup-a.tar",
  .delete "old",
  .delete "../d",
  .open "cluster-backup-b.tar",
  .list]

theorem run_refines_linked : linkedVolume.WellFormed ∧
    selfStore.Reaches (linkedOperations.filterMap Operation.deleted?) linkedVolume ["d"] ∧
    (∀ name ∈ linkedOperations.filterMap Operation.name?, selfStore.Takes name) ∧
    let after := selfStore.run linkedVolume linkedOperations
    ∃ final, Follows selfStore ["d"] (selfStore.shelfOf linkedVolume ["d"]) linkedOperations
        after.1 final ∧
      selfStore.Represents (linkedOperations.filterMap Operation.deleted?) linkedVolume ["d"] final
        after.2 ∧
      ∀ name now, selfStore.Takes name → (selfStore.ensureAvailable after.2 name = .ok () ↔
        ∃ location made, selfStore.create after.2 name now = (.ok location, made)) := by
  have takes : ∀ name ∈ linkedOperations.filterMap Operation.name?, selfStore.Takes name := by decide
  have reaches := reaches_self
    (show "self" ∉ linkedOperations.filterMap Operation.deleted? by decide)
  exact ⟨wellFormed_linked, reaches, takes,
    run_refines wellFormed_linked linkedOperations (.inl reaches) takes⟩

/-! Two ways to a directory that no shelf can show: through a missing directory and up again, into a
directory that is not empty, and through a link in the directory itself that is deleted. -/

def detourStore : Store := ⟨"/d/sub/..", "tar"⟩

theorem isName_taken : IsName "cluster-backup-a.tar" := checkName_eq_ok.mp rfl

theorem available_detour :
    detourStore.ensureAvailable linkedVolume "cluster-backup-a.tar" = .ok () := by
  have absent : linkedVolume.find false (Path.join "/d/sub/.." "cluster-backup-a.tar") =
      .error .notFound :=
    wellFormed_linked.find_member_missing (by decide) (find_detour_missing rfl rfl true)
      isName_taken.step (by decide) false
  have checked : checkName "cluster-backup-a.tar" = .ok () := rfl
  simp [ensureAvailable, checked, pathOf, detourStore, absent, bind, Except.bind]

theorem create_detour : detourStore.create linkedVolume "cluster-backup-a.tar" ⟨0, 0⟩ =
    (.error (.archiveExists (detourStore.pathOf "cluster-backup-a.tar")),
      linkedVolume.put ["d", "sub"] .directory) := by
  have checked : checkName "cluster-backup-a.tar" = .ok () := rfl
  have made : linkedVolume.makeDirectories "/d/sub/.." = _ := makeDirectories_detour rfl rfl
  have wellFormed : (linkedVolume.put ["d", "sub"] .directory).WellFormed :=
    wellFormed_linked.put (by decide) rfl _
  have resolved : (linkedVolume.put ["d", "sub"] .directory).resolve false
      (Path.join "/d/sub/.." "cluster-backup-a.tar") = .ok ["d", "cluster-backup-a.tar"] :=
    wellFormed.resolve_member (find_detour rfl rfl true) isName_taken.step isName_taken.up (by decide)
      (by decide) (.inl rfl)
  have held : (linkedVolume.put ["d", "sub"] .directory).node? ["d", "cluster-backup-a.tar"] =
      some (.file (.ofBytes [1]) ⟨0, 0⟩) := rfl
  simp [create, checked, ensureDirectory, detourStore, made, Except.mapError, pathOf, createFile,
    resolved, held, bind, Except.bind]

theorem find_self_missing {volume : Volume} (there : volume.node? ["d"] = some .directory)
    (gone : volume.node? ["d", "self"] = none) : volume.find true "/d/self" = .error .notFound := by
  have steps : walk.steps "/d/self" = ["d", "self"] := by decide
  have absolute : Path.isAbsolute "/d/self" = true := by decide
  have short : ¬nameLimit < ("d").utf8ByteSize ∧ ¬nameLimit < ("self").utf8ByteSize := by decide
  rw [Volume.find, resolve_of_accepts (by decide) (by decide), steps, absolute]
  simp [walk, there, gone, short, bind, Except.bind]

theorem open_self :
    selfStore.open linkedVolume "cluster-backup-a.tar" = .ok (.file (.ofBytes [1])) := by
  have checked : checkName "cluster-backup-a.tar" = .ok () := rfl
  have held : linkedVolume.node? (["d"] ++ ["cluster-backup-a.tar"]) =
      some (.file (.ofBytes [1]) ⟨0, 0⟩) := rfl
  have found : linkedVolume.find true (Path.join "/d/self" "cluster-backup-a.tar") = _ :=
    wellFormed_linked.find_member (find_self rfl rfl) isName_taken.step isName_taken.up (by decide)
      (by decide) (.inr fun target => by rw [held]; simp)
  rw [held] at found
  simp [«open», checked, pathOf, selfStore, openFile, found, bind, Except.bind]

theorem delete_self :
    selfStore.delete linkedVolume "self" = .ok (true, linkedVolume.drop ["d", "self"]) := by
  have is : IsName "self" := checkName_eq_ok.mp rfl
  have checked : checkName "self" = .ok () := rfl
  have held : linkedVolume.node? (["d"] ++ ["self"]) = some (.symlink ".") := rfl
  have found := wellFormed_linked.find_member (find_self rfl rfl) is.step is.up
    (by decide) (by decide) (.inl rfl)
  rw [held] at found
  simp [delete, checked, pathOf, selfStore, Volume.remove, found, bind, Except.bind]

theorem open_without_self :
    selfStore.open (linkedVolume.drop ["d", "self"]) "cluster-backup-a.tar" =
      .error (.archiveNotFound (selfStore.pathOf "cluster-backup-a.tar")) := by
  have checked : checkName "cluster-backup-a.tar" = .ok () := rfl
  have wellFormed : (linkedVolume.drop ["d", "self"]).WellFormed := wellFormed_linked.drop (by decide)
  have absent := wellFormed.find_member_missing (by decide) (find_self_missing rfl rfl)
    isName_taken.step (by decide) true
  simp [«open», checked, pathOf, selfStore, openFile, absent, bind, Except.bind]

/-- On the first of these ways a name that is taken is available, and a failed creation leaves a new
directory; on the second an archive is lost when another name is deleted. -/
theorem refinement_astray :
    linkedVolume.WellFormed ∧
    linkedVolume.find true detourStore.directory = .error .notFound ∧
    (linkedVolume.makeDirectories detourStore.directory).1 = .ok () ∧
    detourStore.Takes "cluster-backup-a.tar" ∧
    detourStore.ensureAvailable linkedVolume "cluster-backup-a.tar" = .ok () ∧
    (∃ after, detourStore.create linkedVolume "cluster-backup-a.tar" ⟨0, 0⟩ =
        (.error (.archiveExists (detourStore.pathOf "cluster-backup-a.tar")), after) ∧
      linkedVolume.node? ["d", "sub"] = none ∧ after.node? ["d", "sub"] = some .directory) ∧
    linkedVolume.find true selfStore.directory = .ok (["d"], .directory) ∧
    selfStore.Takes "cluster-backup-a.tar" ∧ selfStore.Takes "self" ∧
    selfStore.open linkedVolume "cluster-backup-a.tar" = .ok (.file (.ofBytes [1])) ∧
    ∃ after, selfStore.delete linkedVolume "self" = .ok (true, after) ∧
      selfStore.open after "cluster-backup-a.tar" =
        .error (.archiveNotFound (selfStore.pathOf "cluster-backup-a.tar")) := by
  refine ⟨wellFormed_linked, find_detour_missing rfl rfl true, ?_, by decide, available_detour,
    ⟨_, create_detour, rfl, rfl⟩, find_self rfl rfl, by decide, by decide, open_self, _, delete_self,
    open_without_self⟩
  rw [detourStore, makeDirectories_detour rfl rfl]

end ClusterArchive.Store
