import ClusterArchive.Proofs.Volume.Staging

/-! Volumes in which every node lies in a directory. Making directories keeps them so, and a new
directory has nothing below it. -/

namespace ClusterArchive.Volume

/-- Nodes lie in directories, and so do the working directory's. -/
structure WellFormed (volume : Volume) : Prop where
  ascending : Assoc.Ascending volume.nodes
  above : ∀ location node, volume.node? location = some node →
    volume.node? location.dropLast = some .directory
  working : volume.node? volume.workingDirectory = some .directory

variable {volume : Volume}

theorem node?_nil (volume : Volume) : volume.node? [] = some .directory := rfl

theorem ne_nil_of_node? {location : Location} {found : Option Node}
    (there : volume.node? location = found) (other : found ≠ some .directory) : location ≠ [] := by
  rintro rfl
  exact other (there.symm.trans (node?_nil volume))

theorem WellFormed.of_nodes (ascending : Assoc.Ascending volume.nodes)
    (above : ∀ entry ∈ volume.nodes, volume.node? entry.1.dropLast = some .directory)
    (working : volume.node? volume.workingDirectory = some .directory) : volume.WellFormed := by
  refine ⟨ascending, fun location node found => ?_, working⟩
  by_cases top : location = []
  · rw [top]
    rfl
  · rw [node?, if_neg top] at found
    exact above _ (Assoc.mem_of_get? found)

theorem WellFormed.vacant (wellFormed : volume.WellFormed) {location : Location}
    (free : volume.node? location = none) (steps : List String) :
    volume.node? (location ++ steps) = none := by
  induction steps using List.reverseRecOn with
  | nil => rwa [List.append_nil]
  | append_singleton steps step ih =>
    cases found : volume.node? (location ++ (steps ++ [step])) with
    | none => rfl
    | some node =>
      have directory := wellFormed.above _ node found
      rw [← List.append_assoc, List.dropLast_concat, ih] at directory
      cases directory

/-- A followed link starts from a directory, as it was taken from one. -/
theorem linkStart_directory {volume : Volume} {place : Location}
    (start : volume.node? place = some .directory) (target : String) :
    volume.node? (if Path.isAbsolute target then [] else place) = some .directory := by
  split
  next => exact node?_nil volume
  next => exact start

/-- A walk from a directory ends in one, or right below one. -/
theorem WellFormed.walk_above (wellFormed : volume.WellFormed) {follow : Bool} {links : Nat}
    {place location : Location} {steps : List String}
    (start : volume.node? place = some .directory)
    (reached : volume.walk follow links place steps = .ok location) :
    volume.node? location.dropLast = some .directory := by
  rw [walk_eq_ok] at reached
  induction reached with
  | arrived => exact wellFormed.above _ _ start
  | here later ih => exact ih start
  | up later ih => exact ih (wellFormed.above _ _ start)
  | last => rwa [List.dropLast_concat]
  | down move directory later ih => exact ih directory
  | link move link further later ih => exact ih (linkStart_directory start _)

/-- A walk that follows links ends at none. -/
theorem WellFormed.walk_unlinked (wellFormed : volume.WellFormed) {links : Nat}
    {place location : Location} {steps : List String}
    (start : volume.node? place = some .directory)
    (reached : volume.walk true links place steps = .ok location) (target : String) :
    volume.node? location ≠ some (.symlink target) := by
  rw [walk_eq_ok] at reached
  induction reached with
  | arrived => simp [start]
  | here later ih => exact ih start
  | up later ih => exact ih (wellFormed.above _ _ start)
  | last links move ends => exact ends rfl target
  | down move directory later ih => exact ih directory
  | link move link further later ih => exact ih (linkStart_directory start _)

/-- A walk to a place that is neither a link nor a directory leads there also when a file is put
there. -/
theorem walk_written {links : Nat} {place location : Location} {steps : List String}
    (other : volume.node? location ≠ some .directory)
    (unlinked : ∀ target, volume.node? location ≠ some (.symlink target))
    (reached : volume.walk true links place steps = .ok location) (contents : Contents)
    (modified : Instant) :
    (volume.put location (.file contents modified)).walk true links place steps = .ok location := by
  have below : location ≠ [] := by
    rintro rfl
    exact other (node?_nil volume)
  have kept {next : Location} {node : Node} (there : volume.node? next = some node)
      (apart : volume.node? location ≠ some node) :
      (volume.put location (.file contents modified)).node? next = some node := by
    rw [node?_put volume below, if_neg, there]
    rintro rfl
    exact apart there
  rw [walk_eq_ok] at reached ⊢
  induction reached with
  | arrived links place => exact .arrived links place
  | here later ih => exact .here (ih other unlinked below kept)
  | up later ih => exact .up (ih other unlinked below kept)
  | last links move ends => exact .last links move fun _ target => by simp [below]
  | down move directory later ih =>
    exact .down move (kept directory other) (ih other unlinked below kept)
  | link move link further later ih =>
    exact .link move (kept link (unlinked _)) further (ih other unlinked below kept)

theorem WellFormed.walk_point (wellFormed : volume.WellFormed) {follow : Bool} {links : Nat}
    {place location : Location} {steps : List String}
    (start : volume.node? place = some .directory) (point : steps.getLast? = some ".")
    (reached : volume.walk follow links place steps = .ok location) :
    volume.node? location = some .directory := by
  rw [walk_eq_ok] at reached
  induction reached with
  | arrived => simp at point
  | @here _ _ _ rest later ih =>
    cases rest with
    | nil => cases later; exact start
    | cons => exact ih start (by simpa using point)
  | @up _ _ _ rest later ih =>
    cases rest with
    | nil => simp at point
    | cons => exact ih (wellFormed.above _ _ start) (by simpa using point)
  | last links move ends => exact absurd (by simpa using point) move.point
  | @down _ _ _ _ rest move directory later ih =>
    cases rest with
    | nil => exact absurd (by simpa using point) move.point
    | cons => exact ih directory (by simpa using point)
  | @link _ _ _ _ target rest move link further later ih =>
    cases rest with
    | nil => exact absurd (by simpa using point) move.point
    | cons => exact ih (linkStart_directory start target) (by simpa using point)

theorem WellFormed.start (wellFormed : volume.WellFormed) (absolute : Bool) :
    volume.node? (if absolute then [] else volume.workingDirectory) = some .directory := by
  split
  next => exact node?_nil volume
  next => exact wellFormed.working

theorem placeOf_ok {path : String} {location : Location}
    (placed : volume.placeOf path = .ok location) : Accepts path ∧ path ≠ "" := by
  unfold placeOf at placed
  split at placed
  next => cases placed
  next clean =>
    split at placed
    next => cases placed
    next nonempty =>
      split at placed
      next => cases placed
      next short => exact ⟨⟨by simpa using clean, Nat.not_lt.mp short⟩, nonempty⟩

theorem WellFormed.placeOf_above (wellFormed : volume.WellFormed) {path : String}
    {location : Location} (placed : volume.placeOf path = .ok location) :
    volume.node? location.dropLast = some .directory := by
  obtain ⟨accepts, nonempty⟩ := placeOf_ok placed
  rw [placeOf_of_accepts accepts nonempty] at placed
  exact wellFormed.walk_above (wellFormed.start _) placed

/-- A node may be put into a directory, in place of anything but a directory. -/
theorem WellFormed.put (wellFormed : volume.WellFormed) {location : Location}
    (other : volume.node? location ≠ some .directory)
    (above : volume.node? location.dropLast = some .directory) (node : Node) :
    (volume.put location node).WellFormed := by
  have below : location ≠ [] := by
    rintro rfl
    exact other (node?_nil volume)
  have kept {place : Location} (directory : volume.node? place = some .directory) :
      (volume.put location node).node? place = some .directory := by
    rw [node?_put volume below, if_neg, directory]
    rintro rfl
    exact other directory
  constructor
  · exact wellFormed.ascending.insert _ _
  · intro place other found
    rw [node?_put volume below] at found
    split at found
    next same => exact kept (same ▸ above)
    next => exact kept (wellFormed.above place other found)
  · exact kept wellFormed.working

/-- What making directories may change, wherever they are. -/
structure Spreads (before after : Volume) : Prop where
  nodes : ∀ location, after.node? location = before.node? location ∨
    before.node? location = none ∧ after.node? location = some .directory
  workingDirectory : after.workingDirectory = before.workingDirectory
  ascending : Assoc.Ascending before.nodes → Assoc.Ascending after.nodes
  wellFormed : before.WellFormed → after.WellFormed

theorem Spreads.refl (volume : Volume) : Spreads volume volume := ⟨fun _ => .inl rfl, rfl, id, id⟩

theorem Spreads.trans {a b c : Volume} (first : Spreads a b) (second : Spreads b c) :
    Spreads a c where
  nodes := by
    intro location
    rcases second.nodes location with same | ⟨absent, made⟩
    · rw [same]
      exact first.nodes location
    · rcases first.nodes location with same | ⟨_, already⟩
      · exact .inr ⟨same ▸ absent, made⟩
      · rw [already] at absent
        cases absent
  workingDirectory := second.workingDirectory.trans first.workingDirectory
  ascending := second.ascending ∘ first.ascending
  wellFormed := second.wellFormed ∘ first.wellFormed

theorem Spreads.keeps {before after : Volume} (spreads : Spreads before after) :
    Keeps before after where
  nodes := by
    intro location node found
    rcases spreads.nodes location with same | ⟨absent, _⟩
    · rw [same, found]
    · rw [found] at absent
      cases absent
  workingDirectory := spreads.workingDirectory

theorem makeDirectory_cases {path : String} {made : Volume}
    (success : volume.makeDirectory path = .ok made) :
    ∃ location, volume.placeOf path = .ok location ∧ volume.node? location = none ∧
      made = volume.put location .directory := by
  unfold makeDirectory at success
  cases placed : volume.placeOf path with
  | error error => simp [placed, bind, Except.bind] at success
  | ok location =>
    simp only [placed, bind, Except.bind] at success
    split at success
    next => cases success
    next free => exact ⟨location, rfl, by simpa using free, (Except.ok.inj success).symm⟩

theorem makeDirectory_spreads {path : String} {made : Volume}
    (success : volume.makeDirectory path = .ok made) : Spreads volume made := by
  obtain ⟨location, placed, free, rfl⟩ := makeDirectory_cases success
  have below : location ≠ [] := ne_nil_of_node? free (by simp)
  constructor
  · intro place
    rw [node?_put volume below]
    split
    next same => exact .inr ⟨same ▸ free, rfl⟩
    next => exact .inl rfl
  · rfl
  · exact fun ascending => ascending.insert _ _
  · exact fun wellFormed => wellFormed.put (by simp [free]) (wellFormed.placeOf_above placed) _

/-! What holds for every directory that is made holds for all that are made on the way to one, also
when the last of them cannot be made. -/

section

variable {R : Volume → Volume → Prop} (refl : ∀ volume, R volume volume)
  (trans : ∀ {a b c}, R a b → R b c → R a c)

include refl trans

theorem makeBelow_made {path : String} {above : Volume → Except FileError Unit × Volume}
    (single : ∀ volume made, volume.makeDirectory path = .ok made → R volume made)
    (tree : ∀ volume, R volume (above volume).2) (volume : Volume) :
    R volume (makeBelow path above volume).2 := by
  unfold makeBelow
  cases tried : volume.makeDirectory path with
  | ok made => exact single volume made tried
  | error error =>
    cases error with
    | notFound =>
      have first := tree volume
      simp only []
      generalize above volume = result at first ⊢
      obtain ⟨outcome, between⟩ := result
      cases outcome with
      | error error => exact first
      | ok =>
        simp only []
        cases again : between.makeDirectory path with
        | ok made => exact trans first (single between made again)
        | error error => exact first
    | _ => exact refl volume

theorem makeTree_made {absolute : Bool} {names : List String}
    (single : ∀ last, last <:+ names → ∀ volume made,
      volume.makeDirectory (Path.ofComponents absolute last.reverse) = .ok made → R volume made)
    (volume : Volume) : R volume (makeTree absolute volume names).2 := by
  induction names generalizing volume with
  | nil => exact refl volume
  | cons name above ih =>
    rw [makeTree]
    refine makeBelow_made refl trans (single _ (List.suffix_refl _)) (fun volume => ih ?_ volume) volume
    exact fun last isLast => single last (isLast.trans (List.suffix_cons name above))

theorem makeDirectories_made {path : String}
    (single : ∀ other, Path.isAbsolute other = Path.isAbsolute path →
      Path.components other <+: Path.components path → ∀ volume made,
      volume.makeDirectory other = .ok made → R volume made) (volume : Volume) :
    R volume (volume.makeDirectories path).2 := by
  rw [makeDirectories]
  split
  next => exact refl volume
  next =>
    refine makeBelow_made refl trans (single path rfl (List.prefix_refl _)) (fun volume => ?_) volume
    refine makeTree_made refl trans (fun last isLast => ?_) volume
    have isStart : last.reverse <+: Path.components path := by
      have shorter : last.reverse <+: (Path.components path).dropLast := by
        rw [← List.reverse_suffix, List.reverse_reverse, ← List.tail_reverse]
        exact isLast
      exact shorter.trans (List.dropLast_prefix _)
    have clean : ∀ part ∈ last.reverse, Path.IsStep part :=
      fun part member => Path.isStep_of_mem_components path part (isStart.subset member)
    exact single _ (Path.isAbsolute_ofComponents _ clean)
      (by rwa [Path.components_ofComponents _ clean])

end

theorem makeDirectories_spreads (volume : Volume) (path : String) :
    Spreads volume (volume.makeDirectories path).2 :=
  makeDirectories_made .refl .trans (fun _ _ _ _ _ success => makeDirectory_spreads success) volume

/-- Directories are made from the first step on, where nothing but steps is in their path. -/
theorem makeDirectories_of_bare (volume : Volume) (absolute : Bool) {parts : List String}
    (some_ : parts ≠ []) (clean : ∀ part ∈ parts, Path.IsStep part) :
    volume.makeDirectories (Path.ofComponents absolute parts) =
      makeTree absolute volume parts.reverse := by
  rw [makeDirectories, if_neg (Path.ofComponents_ne_empty absolute some_ clean),
    Path.isAbsolute_ofComponents absolute clean, Path.components_ofComponents absolute clean]
  obtain ⟨last, above, shape⟩ := List.exists_cons_of_ne_nil
    (show parts.reverse ≠ [] by simpa using some_)
  have text : parts = (last :: above).reverse := by rw [← shape, List.reverse_reverse]
  rw [shape, List.tail_cons, makeTree, ← text]

theorem WellFormed.makeDirectory_fresh (wellFormed : volume.WellFormed) {path : String}
    {made : Volume} (success : volume.makeDirectory path = .ok made) :
    ∃ root, IsFresh volume path root ∧ made = volume.put root .directory := by
  obtain ⟨root, placed, free, rfl⟩ := makeDirectory_cases success
  obtain ⟨accepts, nonempty⟩ := placeOf_ok placed
  have start := wellFormed.start (Path.isAbsolute path)
  rw [placeOf_of_accepts accepts nonempty] at placed
  have leaf : Path.endsInPoint path = false := by
    by_contra point
    rw [Bool.not_eq_false] at point
    simp only [point, if_true] at placed
    have directory := wellFormed.walk_point start (by simp) placed
    rw [directory] at free
    cases free
  simp only [leaf, Bool.false_eq_true, if_false, List.append_nil] at placed
  have somewhere : Path.components path ≠ [] := by
    intro nowhere
    rw [nowhere, walk] at placed
    obtain rfl := Except.ok.inj placed
    rw [start] at free
    cases free
  have clean := Path.isStep_of_mem_components path
  have bare := accepts.of_sublist
    (Path.sublist_ofComponents (List.Sublist.refl (Path.components path)))
  refine ⟨root, ⟨somewhere, ?_, wellFormed.vacant free⟩, rfl⟩
  rw [resolve_of_accepts bare (Path.ofComponents_ne_empty _ somewhere clean), walk.steps,
    Path.components_ofComponents _ clean, Path.isAbsolute_ofComponents _ clean,
    Path.namesDirectory_ofComponents _ somewhere clean]
  simpa using placed

/-! Looking up a path where nodes are added. -/

theorem resolve_ok {follow : Bool} {path : String} {location : Location}
    (resolved : volume.resolve follow path = .ok location) : Accepts path ∧ path ≠ "" := by
  have nonempty : path ≠ "" := by
    rintro rfl
    simp [resolve] at resolved
  refine ⟨?_, nonempty⟩
  by_contra refused
  obtain ⟨error, failed, _⟩ := resolve_of_refused volume refused nonempty follow
  rw [failed] at resolved
  cases resolved

theorem resolve_kept {more : Volume} (keeps : Keeps volume more) {follow : Bool} {path : String}
    {location : Location} {node : Node} (resolved : volume.resolve follow path = .ok location)
    (found : volume.node? location = some node) : more.resolve follow path = .ok location := by
  obtain ⟨accepts, nonempty⟩ := resolve_ok resolved
  rw [resolve_of_accepts accepts nonempty] at resolved ⊢
  rw [keeps.workingDirectory]
  exact walk_kept keeps found resolved

theorem writeFile_cases {path : String} {contents : Contents} {now : Instant} {after : Volume}
    (written : volume.writeFile path contents now = .ok after) :
    ∃ location, volume.resolve true path = .ok location ∧ volume.node? location ≠ some .directory ∧
      after = volume.put location (.file contents now) := by
  unfold Volume.writeFile at written
  cases resolved : volume.resolve true path with
  | error error => simp [resolved, bind, Except.bind] at written
  | ok location =>
    simp only [resolved, bind, Except.bind] at written
    split at written
    next => cases written
    next other => exact ⟨location, rfl, other, (Except.ok.inj written).symm⟩

theorem WellFormed.writeFile (wellFormed : volume.WellFormed) {path : String} {contents : Contents}
    {now : Instant} {after : Volume} (written : volume.writeFile path contents now = .ok after) :
    after.WellFormed := by
  obtain ⟨location, resolved, other, rfl⟩ := writeFile_cases written
  obtain ⟨accepts, nonempty⟩ := resolve_ok resolved
  rw [resolve_of_accepts accepts nonempty] at resolved
  exact wellFormed.put other (wellFormed.walk_above (wellFormed.start _) resolved) _

/-- What was written to a path is read there. -/
theorem WellFormed.read_written (wellFormed : volume.WellFormed) {path : String} {bytes : Bytes}
    {now : Instant} {after : Volume} (written : volume.writeFile path (.ofBytes bytes) now = .ok after) :
    after.read path = .ok bytes := by
  obtain ⟨location, resolved, other, rfl⟩ := writeFile_cases written
  have below : location ≠ [] := by
    rintro rfl
    exact other (node?_nil volume)
  obtain ⟨accepts, nonempty⟩ := resolve_ok resolved
  rw [resolve_of_accepts accepts nonempty] at resolved
  have unlinked := wellFormed.walk_unlinked (wellFormed.start _) resolved
  have again := walk_written other unlinked resolved (.ofBytes bytes) now
  have found : (volume.put location (.file (.ofBytes bytes) now)).find true path =
      .ok (location, .file (.ofBytes bytes) now) := by
    rw [Volume.find, resolve_of_accepts accepts nonempty]
    rw [show (volume.put location (.file (.ofBytes bytes) now)).workingDirectory =
      volume.workingDirectory from rfl, again]
    simp [bind, Except.bind, below]
  simp only [Volume.read, openFile, found, bind, Except.bind]
  simp [Opened.read, Contents.toBytes, Contents.ofBytes]

/-- The path of a file that was made leads to it. -/
theorem resolve_made {more : Volume} (keeps : Keeps volume more) {path : String}
    {location : Location} (resolved : volume.resolve false path = .ok location)
    (free : volume.node? location = none) {contents : Contents} {modified : Instant}
    (made : more.node? location = some (.file contents modified)) (follow : Bool) :
    more.resolve follow path = .ok location := by
  obtain ⟨accepts, nonempty⟩ := resolve_ok resolved
  rw [resolve_of_accepts accepts nonempty] at resolved ⊢
  rw [keeps.workingDirectory]
  obtain ⟨left, same⟩ := walk_through keeps free [] (.inr ⟨rfl, contents, modified, made⟩) resolved
    follow
  rw [List.append_nil] at same
  rw [same, walk]

/-- A path of the staging directory itself, with or without a slash at its end. -/
theorem Keeps.resolve_root {old : Volume} {staging : String} {root : Location}
    (keeps : Keeps old volume) (fresh : IsFresh old staging root)
    (made : volume.node? root = some .directory) {path : String}
    (same : Path.isAbsolute path = Path.isAbsolute staging)
    (parts : Path.components path = Path.components staging) (accepts : Accepts path)
    (follow : Bool) : volume.resolve follow path = .ok root := by
  have nonempty : path ≠ "" := by
    rintro rfl
    exact fresh.somewhere (by rw [← parts, Path.components_empty])
  obtain ⟨left, through⟩ := walk_through keeps (by simpa using fresh.vacant [])
    (if Path.namesDirectory path then ["."] else []) (.inl made) fresh.reached follow
  rw [resolve_of_accepts accepts nonempty, walk.steps, parts, same, keeps.workingDirectory, through]
  split <;> simp [walk]

theorem node?_removeTree (volume : Volume) {root : Location} (below : root ≠ [])
    (location : Location) : (volume.removeTree root).node? location =
      if root <+: location then none else volume.node? location := by
  unfold node? removeTree
  by_cases top : location = []
  · simp [top, below]
  · simp only [top, if_false]
    rw [Assoc.get?_filter fun place => !root.isPrefixOf place]
    by_cases inside : root <+: location
    · simp [inside, List.isPrefixOf_iff_prefix.mpr inside]
    · simp [inside]

/-- Removing a tree from two volumes leaves what one has of the other. -/
theorem Keeps.removeTree {more : Volume} (keeps : Keeps volume more) {root : Location}
    (below : root ≠ []) : Keeps (volume.removeTree root) (more.removeTree root) where
  nodes := by
    intro location node
    rw [node?_removeTree volume below, node?_removeTree more below]
    split
    next => simp
    next => exact keeps.nodes location node
  workingDirectory := keeps.workingDirectory

theorem keeps_removeTree (volume : Volume) {root : Location} (below : root ≠ []) :
    Keeps (volume.removeTree root) volume where
  nodes := by
    intro location node found
    rw [node?_removeTree volume below] at found
    split at found
    next => cases found
    next => exact found
  workingDirectory := rfl

end ClusterArchive.Volume
