import ClusterArchive.Proofs.Engine.Survey
import ClusterArchive.Proofs.Engine.Transaction
import ClusterArchive.Proofs.Format

/-! Where captured objects end up. The path of an object lies below the staging directory and tells
which object it is exactly if its namespace and its name are segments. Those that are not are written
all the same, and may end up anywhere. -/

namespace ClusterArchive

namespace Path

/-- One more step behind those that are left. A step up takes back the last of them; there is nothing
above the top, and what is above a working directory is not known. -/
def climb (absolute : Bool) (left : List String) (step : String) : List String :=
  if step ≠ ".." then step :: left
  else
    match left with
    | [] => if absolute then [] else [".."]
    | last :: rest => if last = ".." then ".." :: left else rest

/-- The steps that are left of a path when each step up takes back the one before it. -/
def lexical (path : String) : List String :=
  ((components path).foldl (climb (isAbsolute path)) []).reverse

theorem foldl_climb (absolute : Bool) {steps : List String} (down : ".." ∉ steps)
    (left : List String) : steps.foldl (climb absolute) left = steps.reverse ++ left := by
  refine foldl_push (fun left step member => ?_) left
  rw [climb.eq_def, if_pos (ne_of_mem_of_not_mem member down)]

/-- Steps that do not go up stay behind what is left of a directory. -/
theorem lexical_join (directory : String) {steps : List String} (clean : ∀ step ∈ steps, IsStep step)
    (down : ".." ∉ steps) :
    lexical (join directory ("/".intercalate steps)) = lexical directory ++ steps := by
  have relative := isAbsolute_intercalate clean
  rw [lexical, components_join relative, isAbsolute_join relative, components_intercalate clean,
    List.foldl_append, foldl_climb _ down, List.reverse_append, List.reverse_reverse, lexical]

end Path

namespace Engine

open ClusterArchive.Path Volume

variable {σ : Type}

/-- A path leads to somewhere strictly below a staging directory, and there it tells which entry it is
of. -/
structure Identifies (staging path : String) (entry : Entry) (steps : List String) : Prop where
  same : isAbsolute path = isAbsolute staging
  below : lexical path = lexical staging ++ steps
  strictly : steps ≠ []
  down : ".." ∉ steps
  parsed : Entry.parse ("/".intercalate steps) = .ok entry

/-- The entry is read back from an archive that has a file at these steps. -/
def IsDelivered (entry : Entry) (steps : List String) : Prop :=
  ∀ bytes, Entry.parse ((Tar.Content.file bytes).member (Bytes.ofText ("/".intercalate steps))).pathText =
    .ok entry

/-- The parts of a type that can stand in a path; the core group has none. -/
structure IsSegmentedType (type : ResourceType) : Prop where
  group : type.group ≠ "" → IsSegment type.group
  version : IsSegment type.version
  resource : IsSegment type.resource

variable {staging : String} {entry : Entry}

theorem identifies_segments (wellFormed : entry.IsWellFormed) (staging : String) :
    Identifies staging (Path.join staging entry.path) entry entry.segments := by
  have names := wellFormed.names
  have steps : ∀ part ∈ entry.segments, IsStep part := fun part member =>
    ⟨(names part member).nonempty, (names part member).here, (names part member).slash⟩
  have down : ".." ∉ entry.segments := fun member => (names _ member).up rfl
  have parsed := Entry.parse_path wellFormed
  rw [entry.path_eq] at parsed ⊢
  exact ⟨isAbsolute_join (isAbsolute_intercalate steps), lexical_join staging steps down,
    by simp [Entry.segments], down, parsed⟩

/-- A path tells which entry it is of exactly if the entry has a path. -/
theorem identifies_iff :
    (∃ steps, Identifies staging (Path.join staging entry.path) entry steps) ↔ entry.IsWellFormed :=
  ⟨fun ⟨_, identifies⟩ => (Entry.of_parse identifies.parsed).1,
    fun wellFormed => ⟨_, identifies_segments wellFormed staging⟩⟩

/-- It is read back from an archive as well exactly if it has no backslash in it. -/
theorem delivered_iff :
    (∃ steps, Identifies staging (Path.join staging entry.path) entry steps ∧
        IsDelivered entry steps) ↔ entry.IsWellFormed ∧ '\\' ∉ entry.path.toList := by
  constructor
  · rintro ⟨steps, identifies, delivered⟩
    refine ⟨(Entry.of_parse identifies.parsed).1, fun member => ?_⟩
    have inText : '\\' ∈ ((Tar.Content.file []).member
        (Bytes.ofText ("/".intercalate steps))).pathText.toList := by
      rcases (Entry.of_parse (delivered [])).2 with same | same <;> rw [same]
      · exact member
      · rw [String.toList_append]
        exact List.mem_append_right _ member
    rw [TarGzip.pathText_ofText, String.toList_ofList] at inText
    obtain ⟨c, _, is⟩ := List.mem_map.mp inText
    split at is
    next => exact absurd is (by decide)
    next other => exact other is
  · rintro ⟨wellFormed, clean⟩
    refine ⟨_, identifies_segments wellFormed staging, fun bytes => ?_⟩
    rw [← entry.path_eq, TarGzip.pathText_member clean, Entry.parse_path wellFormed]

/-- An entry of segments is one that has a path, with no backslash in it. -/
theorem segmented_iff (parts : IsSegmentedType entry.type) (named : entry.name ≠ "") :
    entry.Segmented ↔ entry.IsWellFormed ∧ '\\' ∉ entry.path.toList := by
  constructor
  · intro segmented
    refine ⟨.of_directories (fun part member => (segmented.directories part member).isDirectoryName)
      segmented.name.here segmented.name.up segmented.name.slash, fun member => ?_⟩
    rcases Entry.mem_path member with slash | ⟨part, isIn, has⟩
    · exact absurd slash (by decide)
    · exact (segmented.segments part isIn).backslash has
  · rintro ⟨wellFormed, clean⟩
    have inPath (part : String) (isIn : part ∈ entry.segments) : '\\' ∉ part.toList :=
      fun has => clean (entry.path_eq ▸ Text.mem_intercalate_of_mem isIn has)
    refine ⟨parts.group, parts.version, parts.resource, fun part inside => ?_, named, wellFormed.here,
      wellFormed.up, wellFormed.slash, fun has => ?_⟩
    · have directory := wellFormed.ns part inside
      exact ⟨directory.nonempty, directory.here, directory.up, directory.slash,
        inPath part (by simp [Entry.segments, Entry.directories, inside])⟩
    · refine inPath (entry.name ++ Entry.ending) (by simp [Entry.segments]) ?_
      rw [String.toList_append]
      exact List.mem_append_left _ has

variable {type : ResourceType} {ns : Option String} {name : String}

/-! Objects of segments, below a staging directory of a run. -/

variable {old before after : Volume} {root : Location} {now : Instant}
  {objects : List Document} {fates : List Fate}

theorem name_of_segments {other : String}
    (same : (Entry.mk type ns name).segments = (Entry.mk type ns other).segments) : name = other := by
  have last : [name ++ Entry.ending] = [other ++ Entry.ending] := List.append_cancel_left same
  have chars := congrArg String.toList (List.singleton_inj.mp last)
  rw [String.toList_append, String.toList_append] at chars
  exact String.toList_inj.mp (List.append_cancel_right chars)

/-- What writing listed objects leaves below a staging directory: nothing changed elsewhere, no file
gave way but to a listed object, and what was written is in the file of its entry. -/
structure StoredBelow (old : Volume) (root : Location) (now : Instant) (type : ResourceType)
    (ns : Option String) (objects : List Document) (fates : List Fate) (before after : Volume) :
    Prop where
  staged : Staged old root after
  kept : ∀ location contents modified, before.node? location = some (.file contents modified) →
    after.node? location = some (.file contents modified) ∨
    ∃ other ∈ objects, ∃ name, other.name? = some name ∧
      location = root ++ (Entry.mk type ns name).segments ∧
      after.node? location = some (.file (.ofBytes other.archivedBytes) now)
  /-- The last of several objects of one name is the one that stays. -/
  written : ∀ object name, (object, Fate.written) ∈ objects.zip fates → object.name? = some name →
    ∃ other ∈ objects, other.name? = some name ∧
      after.node? (root ++ (Entry.mk type ns name).segments) =
        some (.file (.ofBytes other.archivedBytes) now)

/-- What held of the objects behind one that was not written holds with it. -/
theorem StoredBelow.cons {between : Volume} {object : Document} {fate : Fate}
    (stored : StoredBelow old root now type ns objects fates between after)
    (other : fate ≠ .written)
    (files : ∀ location contents modified, before.node? location = some (.file contents modified) →
      between.node? location = some (.file contents modified)) :
    StoredBelow old root now type ns (object :: objects) (fate :: fates) before after where
  staged := stored.staged
  kept := by
    intro location contents modified found
    refine (stored.kept location contents modified (files _ _ _ found)).imp_right ?_
    rintro ⟨later, member, rest⟩
    exact ⟨later, List.mem_cons_of_mem _ member, rest⟩
  written := by
    intro written name isIn named
    rw [List.zip_cons_cons, List.mem_cons] at isIn
    rcases isIn with same | isIn
    · exact absurd (Prod.mk.inj same).2.symm other
    · obtain ⟨later, member, rest⟩ := stored.written written name isIn named
      exact ⟨later, List.mem_cons_of_mem _ member, rest⟩

theorem StoredBelow.cons_written {between : Volume} {object : Document} {name : String}
    (named : object.name? = some name)
    (stored : StoredBelow old root now type ns objects fates
      (between.put (root ++ (Entry.mk type ns name).segments)
        (.file (.ofBytes object.archivedBytes) now)) after)
    (files : ∀ location contents modified, before.node? location = some (.file contents modified) →
      between.node? location = some (.file contents modified)) :
    StoredBelow old root now type ns (object :: objects) (.written :: fates) before after := by
  have below : root ++ (Entry.mk type ns name).segments ≠ [] := by simp [Entry.segments]
  have here := stored.kept _ _ _ ((node?_put between below _ _).trans (if_pos rfl))
  refine ⟨stored.staged, ?_, ?_⟩
  · intro location contents modified found
    by_cases same : root ++ (Entry.mk type ns name).segments = location
    · subst same
      rcases here with still | ⟨other, member, later, rest⟩
      · exact .inr ⟨object, List.mem_cons_self, name, named, rfl, still⟩
      · exact .inr ⟨other, List.mem_cons_of_mem _ member, later, rest⟩
    · have kept := stored.kept location contents modified
        ((node?_put between below _ _).trans ((if_neg same).trans (files _ _ _ found)))
      refine kept.imp_right ?_
      rintro ⟨other, member, rest⟩
      exact ⟨other, List.mem_cons_of_mem _ member, rest⟩
  · intro written later isIn isNamed
    rw [List.zip_cons_cons, List.mem_cons] at isIn
    rcases isIn with same | isIn
    · obtain ⟨rfl, _⟩ := Prod.mk.inj same
      obtain rfl := Option.some.inj (isNamed.symm.trans named)
      rcases here with still | ⟨other, member, next, isNext, there, file⟩
      · exact ⟨_, List.mem_cons_self, named, still⟩
      · obtain rfl := name_of_segments (List.append_cancel_left there)
        exact ⟨other, List.mem_cons_of_mem _ member, isNext, file⟩
    · obtain ⟨other, member, rest⟩ := stored.written written later isIn isNamed
      exact ⟨other, List.mem_cons_of_mem _ member, rest⟩

theorem Stores.storedBelow (stores : Stores staging now type ns before objects fates after)
    (fresh : IsFresh old staging root) (staged : Staged old root before)
    (segmented : ∀ object ∈ objects, ∀ name, object.name? = some name →
      (Entry.mk type ns name).Segmented) :
    StoredBelow old root now type ns objects fates before after := by
  induction stores with
  | done => exact ⟨staged, fun _ _ _ found => .inl found, by simp⟩
  | unnamed _ _ ih =>
    obtain ⟨_, later⟩ := List.forall_mem_cons.mp segmented
    exact (ih staged later).cons (by simp) fun _ _ _ found => found
  | @written before _ _ object _ _ name named wrote _ ih =>
    obtain ⟨here, later⟩ := List.forall_mem_cons.mp segmented
    obtain ⟨between, grows, ⟨error, failed⟩ | success⟩ :=
      writeObject_cases staged fresh (here name named) object now
    · rw [failed] at wrote
      cases wrote
    · rw [success] at wrote
      obtain rfl := (Prod.mk.inj wrote).2
      exact (ih ((staged.grow grows).put_file (by simp [Entry.segments]) _ _) later).cons_written named
        fun _ _ _ found => grows.kept found
  | @unwritten before _ _ object _ _ name _ named failed _ ih =>
    obtain ⟨here, later⟩ := List.forall_mem_cons.mp segmented
    obtain ⟨between, grows, ⟨_, failedToo⟩ | success⟩ :=
      writeObject_cases staged fresh (here name named) object now
    · rw [failedToo] at failed
      obtain rfl := (Prod.mk.inj failed).2
      exact (ih (staged.grow grows) later).cons (by simp) fun _ _ _ found => grows.kept found
    · rw [success] at failed
      cases (Prod.mk.inj failed).1

/-! Listings, whatever they hold. -/

/-- Every object of a listing that has a name is written or warned of, by what the volume says to its
path; nothing looks at the name. The path of one that was written identifies it exactly if the entry
has a path at all, and an archive gives it back exactly if its parts are segments besides. Below a
staging directory of a run, a listing of which all this holds stays there, and in the files of its
own entries. -/
theorem captureResource_identifies (lister : Lister σ) (staging : String) (now : Instant)
    (resource : Resource) (ns : Option String) (world : World σ) {next : World σ}
    (answered : world.ask (lister.list resource ns) = (.ok objects, next))
    (parts : IsSegmentedType resource.type) :
    ∃ fates after, captureResource lister staging now resource ns world =
        (.ok (fates.countP Fate.isWritten), after) ∧
      after.warnings = next.warnings ++ fates.filterMap (Fate.warning? resource.type) ∧
      Stores staging now resource.type ns next.volume objects fates after.volume ∧
      (∀ object name, (object, Fate.written) ∈ objects.zip fates → object.name? = some name →
        let entry : Entry := ⟨resource.type, ns, name⟩
        let path := Path.join staging entry.path
        ((∃ steps, Identifies staging path entry steps) ↔ entry.IsWellFormed) ∧
        ((∃ steps, Identifies staging path entry steps ∧ IsDelivered entry steps) ↔
          (∀ part, ns = some part → IsSegment part) ∧ IsSegment name)) ∧
      ((∀ part, ns = some part → IsSegment part) →
        (∀ object ∈ objects, ∀ name, object.name? = some name → IsSegment name) →
        ∀ old root, IsFresh old staging root → Staged old root next.volume →
          StoredBelow old root now resource.type ns objects fates next.volume after.volume) := by
  have apart {name : String} : (Entry.mk resource.type ns name).Segmented ↔
      (∀ part, ns = some part → IsSegment part) ∧ IsSegment name :=
    ⟨fun segmented => ⟨segmented.ns, segmented.name⟩,
      fun ⟨inside, named⟩ => ⟨parts.group, parts.version, parts.resource, inside, named⟩⟩
  obtain ⟨fates, stores, counted, -, warned⟩ :=
    writeObjects_stores staging now resource.type ns objects next
  refine ⟨fates, _, ?_, warned, stores, fun object name _ named => ⟨identifies_iff, ?_⟩, ?_⟩
  · rw [captureResource, answered, ← counted]
  · rw [delivered_iff, ← segmented_iff parts (Document.ne_empty_of_name? named), apart]
  · intro inside names old root fresh staged
    exact stores.storedBelow fresh staged fun object member name named =>
      apart.mpr ⟨inside, names object member name named⟩

def namedObject (name : String) : Document := [("metadata", .object [("name", .string name)])]

theorem captureResource_identifies_settings :
    ∃ base after, captureResource oneLister "/tmp/clusterbackup-0" ⟨0, 0⟩ oneResource (some "web")
        ⟨stagedVolume, [], default, ()⟩ = (.ok 1, after) ∧ after.warnings = [] ∧
      StoredBelow base ["tmp", "clusterbackup-0"] ⟨0, 0⟩ oneResource.type (some "web")
        [namedObject "settings"] [.written] stagedVolume after.volume ∧
      ∃ steps, Identifies "/tmp/clusterbackup-0"
          (Path.join "/tmp/clusterbackup-0" (Entry.mk oneResource.type (some "web") "settings").path)
          ⟨oneResource.type, some "web", "settings"⟩ steps ∧
        IsDelivered ⟨oneResource.type, some "web", "settings"⟩ steps := by
  have named : (namedObject "settings").name? = some "settings" := by decide
  have valid : (Entry.mk oneResource.type (some "web") "settings").IsValid := by decide
  have fits : EntryFits "/tmp/clusterbackup-0" ⟨oneResource.type, some "web", "settings"⟩ := by decide
  obtain ⟨base, fresh, holds, -⟩ :=
    hosts_bareVolume.start fun _ => (namedObject "settings").archivedBytes
  have answered (world : World Unit) :
      world.ask (oneLister.list oneResource (some "web")) = (.ok [namedObject "settings"], world) := rfl
  obtain ⟨fates, after, run, warned, stores, told, stored⟩ := captureResource_identifies oneLister
    "/tmp/clusterbackup-0" ⟨0, 0⟩ oneResource (some "web") ⟨stagedVolume, [], default, ()⟩
    (answered _) ⟨by decide, by decide, by decide⟩
  have written : fates = [.written] := by
    obtain ⟨volume, ⟨success, -⟩ | ⟨unfit, -⟩⟩ := holds.writeObject fresh valid rfl ⟨0, 0⟩
    · cases stores with
      | written _ _ later =>
        cases later
        rfl
      | unnamed unnamed => cases named.symm.trans unnamed
      | unwritten isNamed failed =>
        obtain rfl := Option.some.inj (named.symm.trans isNamed)
        cases (Prod.mk.inj (success.symm.trans failed)).1
    · exact absurd fits unfit
  have inside : ∀ part, some "web" = some part → IsSegment part := fun part same =>
    Option.some.inj same ▸ (by decide : IsSegment "web")
  have names : ∀ object ∈ [namedObject "settings"], ∀ name, object.name? = some name →
      IsSegment name := by
    intro object member name isNamed
    obtain rfl := List.mem_singleton.mp member
    obtain rfl := Option.some.inj (named.symm.trans isNamed)
    decide
  subst written
  exact ⟨base, after, run, warned, stored inside names _ _ fresh holds.staged,
    (told _ _ (by simp) named).2.mpr ⟨inside, by decide⟩⟩

/-! An object whose name leads up and out. It is counted, and written next to the staging directory,
where no archive has it. -/

def astray : String := "../../../../../escape"

def astrayLister : Lister Unit := ⟨fun _ _ s => (.ok [namedObject astray], s)⟩

def astrayEntry : Entry := ⟨oneResource.type, some "web", astray⟩

/-- A staging directory in which config maps of the namespace were written before. -/
def stagedWeb : Volume := ⟨[
  (["tmp"], .directory),
  (["tmp", "clusterbackup-0"], .directory),
  (["tmp", "clusterbackup-0", "namespaces"], .directory),
  (["tmp", "clusterbackup-0", "namespaces", "web"], .directory),
  (["tmp", "clusterbackup-0", "namespaces", "web", "v1"], .directory),
  (["tmp", "clusterbackup-0", "namespaces", "web", "v1", "configmaps"], .directory)], []⟩

theorem wellFormed_stagedWeb : stagedWeb.WellFormed := .of_nodes (by decide) (by decide) rfl

/-- The way down to the config maps, and up again to where the staging directory is. -/
def detour : List String :=
  ["tmp", "clusterbackup-0", "namespaces", "web", "v1", "configmaps", "..", "..", "..", "..", ".."]

theorem path_astray : Path.join "/tmp/clusterbackup-0" astrayEntry.path =
    ofComponents true (detour ++ ["escape.json"]) := by decide

theorem steps_astray : ∀ step ∈ detour ++ ["escape.json"], IsStep step := by
  simp only [IsStep]
  decide

theorem parent_astray :
    Path.parent (ofComponents true (detour ++ ["escape.json"])) = ofComponents true detour := by
  rw [Path.parent, components_ofComponents true steps_astray, List.dropLast_concat,
    isAbsolute_ofComponents true steps_astray]

theorem walk_detour (more : List String) :
    stagedWeb.walk true linkLimit [] (detour ++ more) = stagedWeb.walk true linkLimit ["tmp"] more := by
  have short : ∀ step ∈ detour, ¬nameLimit < step.utf8ByteSize := by decide
  simp only [detour, List.forall_mem_cons] at short
  simp [detour, walk, stagedWeb, node?, Assoc.get?, short]

/-- A path that starts with the detour leads on from where the staging directory is. -/
theorem resolve_detour {more : List String} (steps : ∀ step ∈ detour ++ more, IsStep step)
    (accepts : Accepts (ofComponents true (detour ++ more))) :
    stagedWeb.resolve true (ofComponents true (detour ++ more)) =
      stagedWeb.walk true linkLimit ["tmp"] more := by
  have some_ : detour ++ more ≠ [] := by simp [detour]
  rw [resolve_of_accepts accepts (ofComponents_ne_empty true some_ steps), walk.steps,
    components_ofComponents true steps, isAbsolute_ofComponents true steps,
    namesDirectory_ofComponents true some_ steps]
  simpa using walk_detour more

theorem find_detour_above : stagedWeb.find true (ofComponents true detour) = .ok (["tmp"], .directory) := by
  have steps : ∀ step ∈ detour ++ [], IsStep step := fun step member =>
    steps_astray step (List.mem_append_left _ (by simpa using member))
  have resolved := resolve_detour steps (by decide)
  rw [List.append_nil] at resolved
  rw [Volume.find, resolved, walk]
  rfl

theorem resolve_astray : stagedWeb.resolve true (ofComponents true (detour ++ ["escape.json"])) =
    .ok ["tmp", "escape.json"] := by
  have short : ¬nameLimit < ("escape.json").utf8ByteSize := by decide
  rw [resolve_detour steps_astray (by decide)]
  simp [walk, stagedWeb, node?, Assoc.get?, short]

theorem writeObject_astray (now : Instant) :
    writeObject "/tmp/clusterbackup-0" astrayEntry (namedObject astray) now stagedWeb =
      (.ok (), stagedWeb.put ["tmp", "escape.json"]
        (.file (.ofBytes (namedObject astray).archivedBytes) now)) := by
  have free : stagedWeb.node? ["tmp", "escape.json"] = none := by decide
  simp [writeObject, path_astray, parent_astray, wellFormed_stagedWeb.makeDirectories_found find_detour_above,
    Volume.writeFile, resolve_astray, free, bind, Except.bind]

theorem captureResource_astray :
    let run := captureResource astrayLister "/tmp/clusterbackup-0" ⟨0, 0⟩ oneResource (some "web")
      ⟨stagedWeb, [], default, ()⟩
    IsSegmentedType oneResource.type ∧ (namedObject astray).name? = some astray ∧
    run.1 = .ok 1 ∧ run.2.warnings = [] ∧
    run.2.volume.node? ["tmp", "escape.json"] =
      some (.file (.ofBytes (namedObject astray).archivedBytes) ⟨0, 0⟩) ∧
    lexical (Path.join "/tmp/clusterbackup-0" astrayEntry.path) = ["tmp", "escape.json"] ∧
    Entry.parse astrayEntry.path = .error (.badSegment "..") ∧
    ¬∃ steps, Identifies "/tmp/clusterbackup-0" (Path.join "/tmp/clusterbackup-0" astrayEntry.path)
      astrayEntry steps := by
  have named : (namedObject astray).name? = some astray := by decide
  have run : captureResource astrayLister "/tmp/clusterbackup-0" ⟨0, 0⟩ oneResource (some "web")
      ⟨stagedWeb, [], default, ()⟩ = (.ok 1, ⟨stagedWeb.put ["tmp", "escape.json"]
        (.file (.ofBytes (namedObject astray).archivedBytes) ⟨0, 0⟩), [], default, ()⟩) := by
    have asked (world : World Unit) :
        world.ask (astrayLister.list oneResource (some "web")) = (.ok [namedObject astray], world) := rfl
    have wrote := writeObject_astray ⟨0, 0⟩
    rw [astrayEntry] at wrote
    simp only [captureResource, asked, writeObjects, named, World.onVolume, wrote]
  rw [run]
  refine ⟨⟨by decide, by decide, by decide⟩, named, rfl, rfl, ?_, ?_, by decide, ?_⟩
  · rw [node?_put stagedWeb (by simp), if_pos rfl]
  · rw [path_astray, lexical, components_ofComponents true steps_astray,
      isAbsolute_ofComponents true steps_astray]
    rfl
  · exact mt identifies_iff.mp fun wellFormed => absurd wellFormed.slash (by decide)

end Engine

end ClusterArchive
