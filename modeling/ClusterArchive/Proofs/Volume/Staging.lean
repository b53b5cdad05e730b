import ClusterArchive.Proofs.Assoc
import ClusterArchive.Proofs.Cluster.Order
import ClusterArchive.Proofs.Volume.Walk
import Mathlib.Data.List.Induction

/-! A directory of a run's own. Whatever the path that leads there goes through, below it all lies
where the steps say, and directories are made without touching anything else. -/

namespace ClusterArchive.Volume

open ClusterArchive.Path

@[simp] theorem node?_put (volume : Volume) {location : Location} (below : location ≠ [])
    (node : Node) (other : Location) :
    (volume.put location node).node? other =
      if location = other then some node else volume.node? other := by
  unfold node? put
  by_cases root : other = []
  · simp [root, below]
  · simp [root]

def Accepts (path : String) : Prop := '\x00' ∉ path.toList ∧ path.utf8ByteSize ≤ pathLimit

instance (path : String) : Decidable (Accepts path) :=
  inferInstanceAs (Decidable ('\x00' ∉ path.toList ∧ path.utf8ByteSize ≤ pathLimit))

theorem resolve_of_accepts {volume : Volume} {path : String} (accepts : Accepts path)
    (nonempty : path ≠ "") (follow : Bool) : volume.resolve follow path =
      volume.walk follow linkLimit (if isAbsolute path then [] else volume.workingDirectory)
        (walk.steps path) := by
  simp [resolve, accepts.1, nonempty, Nat.not_lt.mpr accepts.2]

theorem resolve_of_refused (volume : Volume) {path : String} (refused : ¬Accepts path)
    (nonempty : path ≠ "") (follow : Bool) : ∃ error, volume.resolve follow path = .error error ∧
      error ≠ .notFound := by
  unfold resolve
  by_cases zero : '\x00' ∈ path.toList
  · exact ⟨.nulByte, by simp [zero], by simp⟩
  · have long : pathLimit < path.utf8ByteSize := Nat.lt_of_not_le fun short => refused ⟨zero, short⟩
    exact ⟨.nameTooLong, by simp [zero, nonempty, long], by simp⟩

theorem placeOf_of_accepts {volume : Volume} {path : String} (accepts : Accepts path)
    (nonempty : path ≠ "") : volume.placeOf path =
      volume.walk false linkLimit (if isAbsolute path then [] else volume.workingDirectory)
        (components path ++ if endsInPoint path then ["."] else []) := by
  simp [placeOf, accepts.1, nonempty, Nat.not_lt.mpr accepts.2]

/-- A directory is made where its path leads, if nothing but steps is at its end. -/
theorem placeOf_of_leaf {volume : Volume} {path : String} (leaf : namesDirectory path = false)
    (some_ : components path ≠ []) : volume.placeOf path = volume.resolve false path := by
  unfold placeOf resolve
  rw [endsInPoint_of_leaf leaf some_, walk.steps, leaf]

/-- A path that a directory is made at, in a volume that has nothing there. -/
structure IsFresh (old : Volume) (staging : String) (root : Location) : Prop where
  somewhere : components staging ≠ []
  resolved : old.resolve false (ofComponents (isAbsolute staging) (components staging)) = .ok root
  vacant : ∀ steps, old.node? (root ++ steps) = none

/-- A volume in which something was made below that path, and nothing elsewhere. -/
structure Staged (old : Volume) (root : Location) (volume : Volume) : Prop where
  outside : ∀ location, ¬root <+: location → volume.node? location = old.node? location
  workingDirectory : volume.workingDirectory = old.workingDirectory
  directory : volume.node? root = some .directory
  linkFree : volume.LinkFree root
  ascending : Assoc.Ascending volume.nodes

variable {old volume : Volume} {staging : String} {root : Location}

theorem IsFresh.root_ne_nil (fresh : IsFresh old staging root) : root ≠ [] := by
  rintro rfl
  simpa [node?] using fresh.vacant []

theorem IsFresh.apart (fresh : IsFresh old staging root) {location : Location} {node : Node}
    (found : old.node? location = some node) : ¬root <+: location := by
  rintro ⟨steps, rfl⟩
  rw [fresh.vacant steps] at found
  cases found

theorem Staged.keeps (staged : Staged old root volume) (fresh : IsFresh old staging root) :
    Keeps old volume where
  nodes := by
    intro location node found
    rw [staged.outside location (fresh.apart found), found]
  workingDirectory := staged.workingDirectory

theorem IsFresh.reached (fresh : IsFresh old staging root) :
    old.walk false linkLimit (if isAbsolute staging then [] else old.workingDirectory)
      (components staging) = .ok root := by
  have clean := isStep_of_mem_components staging
  have parts := components_ofComponents (isAbsolute staging) clean
  have same := isAbsolute_ofComponents (isAbsolute staging) clean
  have leaf := namesDirectory_ofComponents (isAbsolute staging) fresh.somewhere clean
  have resolved := fresh.resolved
  have nonempty := ofComponents_ne_empty (isAbsolute staging) fresh.somewhere clean
  by_cases accepts : Accepts (ofComponents (isAbsolute staging) (components staging))
  · rw [resolve_of_accepts accepts nonempty, walk.steps, parts, same, leaf] at resolved
    simpa using resolved
  · obtain ⟨error, failed, _⟩ := resolve_of_refused old accepts nonempty false
    rw [failed] at resolved
    cases resolved

/-- A path that goes through the staging directory leads where its further steps say. -/
theorem Staged.resolve (staged : Staged old root volume) (fresh : IsFresh old staging root)
    {path : String} {steps : List String} (same : isAbsolute path = isAbsolute staging)
    (parts : components path = components staging ++ steps) (leaf : namesDirectory path = false)
    (down : ∀ step ∈ steps, step ≠ "..") (accepts : Accepts path) (follow : Bool) :
    volume.resolve follow path = volume.descend root steps := by
  have nonempty : path ≠ "" := by
    rintro rfl
    rw [components_empty] at parts
    exact fresh.somewhere (List.append_eq_nil_iff.mp parts.symm).1
  have straight : ∀ step ∈ steps, step ≠ "." ∧ step ≠ ".." := by
    intro step member
    have isPart : step ∈ components path := by
      rw [parts]
      exact List.mem_append_right _ member
    exact ⟨(isStep_of_mem_components path step isPart).2.1, down step member⟩
  obtain ⟨left, through⟩ := walk_through (staged.keeps fresh) (by simpa using fresh.vacant [])
    steps (.inl staged.directory) fresh.reached follow
  rw [resolve_of_accepts accepts nonempty, walk.steps, parts, leaf, same, staged.workingDirectory]
  simp only [Bool.false_eq_true, if_false, List.append_nil]
  rw [through, walk_eq_descend staged.linkFree follow left straight]

def pathBelow (staging : String) (steps : List String) : String :=
  ofComponents (isAbsolute staging) (components staging ++ steps)

theorem pathBelow_steps {steps : List String} (clean : ∀ step ∈ steps, IsStep step) :
    ∀ part ∈ components staging ++ steps, IsStep part := by
  intro part member
  rcases List.mem_append.mp member with inside | below
  · exact isStep_of_mem_components staging part inside
  · exact clean part below

theorem pathBelow_ne_empty (fresh : IsFresh old staging root) {steps : List String}
    (clean : ∀ step ∈ steps, IsStep step) : pathBelow staging steps ≠ "" :=
  ofComponents_ne_empty _ (by simp [fresh.somewhere]) (pathBelow_steps clean)

theorem Staged.resolve_pathBelow (staged : Staged old root volume) (fresh : IsFresh old staging root)
    {steps : List String} (clean : ∀ step ∈ steps, IsStep step) (down : ∀ step ∈ steps, step ≠ "..")
    (accepts : Accepts (pathBelow staging steps)) (follow : Bool) :
    volume.resolve follow (pathBelow staging steps) = volume.descend root steps :=
  staged.resolve fresh (isAbsolute_ofComponents _ (pathBelow_steps clean))
    (components_ofComponents _ (pathBelow_steps clean))
    (namesDirectory_ofComponents _ (by simp [fresh.somewhere]) (pathBelow_steps clean)) down accepts
    follow

/-! Making directories. -/

def NulFree (steps : List String) : Prop := ∀ step ∈ steps, '\x00' ∉ step.toList

theorem Accepts.nulFree {absolute : Bool} {above steps : List String}
    (accepts : Accepts (ofComponents absolute (above ++ steps))) : NulFree steps := by
  intro step member zero
  have fewer : [step].Sublist (above ++ steps) :=
    List.singleton_sublist.mpr (List.mem_append_right above member)
  have all := (sublist_intercalate fewer).subset (by simpa using zero)
  apply accepts.1
  rw [ofComponents, String.toList_append]
  exact List.mem_append_right _ all

/-- What making directories below a location may change. -/
structure Grows (root : Location) (steps : List String) (before after : Volume) : Prop where
  nodes : ∀ location, after.node? location = before.node? location ∨
    before.node? location = none ∧ after.node? location = some .directory ∧
      ∃ start, start ≠ [] ∧ start <+: steps ∧ location = root ++ start ∧ NulFree start
  workingDirectory : after.workingDirectory = before.workingDirectory
  ascending : Assoc.Ascending before.nodes → Assoc.Ascending after.nodes

theorem Grows.refl (root : Location) (steps : List String) (volume : Volume) :
    Grows root steps volume volume :=
  ⟨fun _ => .inl rfl, rfl, id⟩

theorem Grows.trans {steps : List String} {a b c : Volume} (first : Grows root steps a b)
    (second : Grows root steps b c) : Grows root steps a c where
  nodes := by
    intro location
    rcases second.nodes location with same | ⟨absent, made, there⟩
    · rw [same]
      exact first.nodes location
    · rcases first.nodes location with same | ⟨_, already, _⟩
      · exact .inr ⟨same ▸ absent, made, there⟩
      · rw [already] at absent
        cases absent
  workingDirectory := second.workingDirectory.trans first.workingDirectory
  ascending := second.ascending ∘ first.ascending

theorem Grows.mono {steps more : List String} {before after : Volume}
    (grows : Grows root steps before after) (isStart : steps <+: more) :
    Grows root more before after where
  nodes := by
    intro location
    apply (grows.nodes location).imp_right
    intro ⟨absent, made, start, some_, there, rest⟩
    exact ⟨absent, made, start, some_, there.trans isStart, rest⟩
  workingDirectory := grows.workingDirectory
  ascending := grows.ascending

theorem Grows.put {steps : List String} (some_ : steps ≠ []) (clean : NulFree steps)
    (free : volume.node? (root ++ steps) = none) :
    Grows root steps volume (volume.put (root ++ steps) .directory) where
  nodes := by
    intro location
    have below : root ++ steps ≠ [] := by simp [some_]
    rw [node?_put volume below]
    split
    next same =>
      subst same
      exact .inr ⟨free, rfl, steps, some_, List.prefix_refl steps, rfl, clean⟩
    next => exact .inl rfl
  workingDirectory := rfl
  ascending := fun ascending => ascending.insert _ _

theorem Grows.kept {steps : List String} {before after : Volume}
    (grows : Grows root steps before after) {location : Location} {node : Node}
    (found : before.node? location = some node) : after.node? location = some node := by
  rcases grows.nodes location with same | ⟨absent, _⟩
  · rw [same, found]
  · rw [found] at absent
    cases absent

theorem Staged.grow {steps : List String} {after : Volume} (staged : Staged old root volume)
    (grows : Grows root steps volume after) : Staged old root after where
  outside := by
    intro location apart
    rcases grows.nodes location with same | ⟨_, _, start, _, _, rfl, _⟩
    · rw [same, staged.outside location apart]
    · exact absurd (List.prefix_append ..) apart
  workingDirectory := grows.workingDirectory.trans staged.workingDirectory
  directory := grows.kept staged.directory
  linkFree := by
    intro steps target found
    rcases grows.nodes (root ++ steps) with same | ⟨_, made, _⟩
    · exact staged.linkFree steps target (same ▸ found)
    · rw [made] at found
      cases found
  ascending := grows.ascending staged.ascending

/-- A file that is put below the staging directory changes nothing elsewhere. -/
theorem Staged.put_file (staged : Staged old root volume) {steps : List String} (some_ : steps ≠ [])
    (contents : Contents) (now : Instant) :
    Staged old root (volume.put (root ++ steps) (.file contents now)) := by
  have below : root ++ steps ≠ [] := by simp [some_]
  constructor
  case outside =>
    intro location apart
    rw [node?_put volume below, if_neg, staged.outside location apart]
    rintro rfl
    exact apart (List.prefix_append ..)
  case workingDirectory => exact staged.workingDirectory
  case directory => rw [node?_put volume below, if_neg (by simp [some_]), staged.directory]
  case linkFree =>
    intro other target
    rw [node?_put volume below]
    split
    next => simp
    next => exact staged.linkFree other target
  case ascending => exact staged.ascending.insert _ _

/-- A volume without links has none after something was made below a staging directory. -/
theorem Staged.linkFree_all (staged : Staged old root volume) (linkFree : old.LinkFree []) :
    volume.LinkFree [] := by
  intro location target
  by_cases inside : root <+: location
  · obtain ⟨steps, rfl⟩ := inside
    exact staged.linkFree steps target
  · rw [List.nil_append, staged.outside location inside]
    exact linkFree location target

theorem Staged.directories (staged : Staged old root volume) {location : Location}
    (apart : ¬root <+: location) (directories : old.Directories [] location) :
    volume.Directories [] location := by
  intro start some_ isStart
  rw [List.nil_append, staged.outside start fun inside => apart (inside.trans isStart)]
  exact directories start some_ isStart

def AreDown (steps : List String) : Prop := ∀ step ∈ steps, IsStep step ∧ step ≠ ".."

theorem AreDown.start {steps start : List String} (down : AreDown steps) (isStart : start <+: steps) :
    AreDown start := fun step member => down step (isStart.subset member)

theorem Staged.resolve_down (staged : Staged old root volume) (fresh : IsFresh old staging root)
    {steps : List String} (down : AreDown steps) (accepts : Accepts (pathBelow staging steps))
    (follow : Bool) : volume.resolve follow (pathBelow staging steps) = volume.descend root steps :=
  staged.resolve_pathBelow fresh (fun step member => (down step member).1)
    (fun step member => (down step member).2) accepts follow

theorem makeDirectory_pathBelow (volume : Volume) (fresh : IsFresh old staging root)
    {steps : List String} (down : AreDown steps) :
    volume.makeDirectory (pathBelow staging steps) =
      (volume.resolve false (pathBelow staging steps)).bind fun location =>
        if (volume.node? location).isSome then .error .taken
        else .ok (volume.put location .directory) := by
  have clean : ∀ part ∈ components staging ++ steps, IsStep part :=
    pathBelow_steps fun step member => (down step member).1
  have some_ : components staging ++ steps ≠ [] := by simp [fresh.somewhere]
  have leaf : namesDirectory (pathBelow staging steps) = false :=
    namesDirectory_ofComponents _ some_ clean
  rw [makeDirectory, placeOf_of_leaf leaf (by rwa [pathBelow, components_ofComponents _ clean])]
  rfl

/-- A directory is made only where nothing is, at the end of its path. -/
theorem Staged.makeDirectory_ok (staged : Staged old root volume) (fresh : IsFresh old staging root)
    {steps : List String} (down : AreDown steps) {made : Volume}
    (success : volume.makeDirectory (pathBelow staging steps) = .ok made) :
    Grows root steps volume made := by
  rw [makeDirectory_pathBelow volume fresh down] at success
  by_cases accepts : Accepts (pathBelow staging steps)
  · rw [staged.resolve_down fresh down accepts] at success
    cases reached : volume.descend root steps with
    | error error => simp [reached, Except.bind] at success
    | ok location =>
      obtain ⟨rfl, _, _⟩ := descend_eq_ok.mp reached
      simp only [reached, Except.bind] at success
      split at success
      next => cases success
      next free =>
        obtain rfl := Except.ok.inj success
        have some_ : steps ≠ [] := by
          rintro rfl
          simp [staged.directory] at free
        exact .put some_ accepts.nulFree (by simpa using free)
  · obtain ⟨error, failed, _⟩ := resolve_of_refused volume accepts
      (pathBelow_ne_empty fresh fun step member => (down step member).1) false
    simp [failed, Except.bind] at success

/-- Steps that can be taken and are short enough for a volume, as is the path through them. -/
structure Fits (staging : String) (steps : List String) : Prop where
  down : AreDown steps
  accepts : Accepts (pathBelow staging steps)
  short : ∀ step ∈ steps, step.utf8ByteSize ≤ nameLimit

theorem Accepts.of_sublist {path other : String} (accepts : Accepts path)
    (fewer : other.toList.Sublist path.toList) : Accepts other :=
  ⟨fun zero => accepts.1 (fewer.subset zero), Nat.le_trans (utf8ByteSize_le fewer) accepts.2⟩

theorem Fits.start {steps start : List String} (fits : Fits staging steps)
    (isStart : start <+: steps) : Fits staging start where
  down := fits.down.start isStart
  accepts := by
    have clean : ∀ part ∈ components staging ++ steps, IsStep part :=
      pathBelow_steps fun step member => (fits.down step member).1
    have parts := components_ofComponents (isAbsolute staging) clean
    have fewer : (components staging ++ start).Sublist (components (pathBelow staging steps)) := by
      rw [pathBelow, parts]
      exact (List.Sublist.refl _).append isStart.sublist
    have chars := sublist_ofComponents fewer
    rw [pathBelow, isAbsolute_ofComponents _ clean] at chars
    exact fits.accepts.of_sublist chars
  short := fun step member => fits.short step (isStart.subset member)

theorem Staged.resolve_fits (staged : Staged old root volume) (fresh : IsFresh old staging root)
    {steps : List String} (fits : Fits staging steps)
    (directories : volume.Directories root steps.dropLast) (follow : Bool) :
    volume.resolve follow (pathBelow staging steps) = .ok (root ++ steps) := by
  rw [staged.resolve_down fresh fits.down fits.accepts, descend_eq_ok]
  exact ⟨rfl, fits.short, directories⟩

/-- The last step below the staging directory, and the directories above it. -/
theorem lastStep (fresh : IsFresh old staging root) (steps : List String) : ∃ last above,
    (components staging ++ steps).reverse = last :: above ∧
    (components staging ++ steps).dropLast.reverse = above ∧
    ofComponents (isAbsolute staging) (last :: above).reverse = pathBelow staging steps := by
  have some_ : components staging ++ steps ≠ [] := by simp [fresh.somewhere]
  obtain ⟨before, last, shape⟩ : ∃ before last, components staging ++ steps = before ++ [last] :=
    ⟨_, _, (List.dropLast_concat_getLast some_).symm⟩
  refine ⟨last, before.reverse, ?_, ?_, ?_⟩
  · rw [shape, List.reverse_concat]
  · rw [shape, List.dropLast_concat]
  · rw [pathBelow, shape, List.reverse_cons, List.reverse_reverse]

/-- Making directories changes nothing but what it makes, also when it fails on its way. -/
theorem Staged.makeTree_grows (staged : Staged old root volume) (fresh : IsFresh old staging root)
    {steps : List String} (down : AreDown steps) :
    Grows root steps volume
      (makeTree (isAbsolute staging) volume (components staging ++ steps).reverse).2 := by
  induction steps using List.reverseRecOn with
  | nil =>
    obtain ⟨last, above, shape, _, path⟩ := lastStep fresh []
    rw [shape, makeTree, path, makeBelow]
    cases tried : volume.makeDirectory (pathBelow staging []) with
    | ok made => exact staged.makeDirectory_ok fresh down tried
    | error error =>
      have other : error ≠ .notFound := by
        rintro rfl
        rw [makeDirectory_pathBelow volume fresh down] at tried
        by_cases accepts : Accepts (pathBelow staging [])
        · rw [staged.resolve_down fresh down accepts] at tried
          simp [descend, Except.bind, staged.directory] at tried
        · obtain ⟨error, failed, other⟩ := resolve_of_refused volume accepts
            (pathBelow_ne_empty fresh (by simp)) false
          simp only [failed, Except.bind, Except.error.injEq] at tried
          exact other tried
      cases error with
      | notFound => exact absurd rfl other
      | _ =>
        simp only []
        exact .refl root [] volume
  | append_singleton steps step ih =>
    have isStart : steps <+: steps ++ [step] := List.prefix_append ..
    have grown := (ih (down.start isStart)).mono isStart
    have shorter : (components staging ++ (steps ++ [step])).dropLast = components staging ++ steps := by
      rw [← List.append_assoc, List.dropLast_concat]
    obtain ⟨last, above, shape, rest, path⟩ := lastStep fresh (steps ++ [step])
    rw [shorter] at rest
    rw [shape, makeTree, path, ← rest, makeBelow]
    cases tried : volume.makeDirectory (pathBelow staging (steps ++ [step])) with
    | ok made => exact staged.makeDirectory_ok fresh down tried
    | error error =>
      cases error with
      | notFound =>
        generalize makeTree (isAbsolute staging) volume (components staging ++ steps).reverse =
          result at grown
        obtain ⟨outcome, after⟩ := result
        have stagedAfter := staged.grow grown
        cases outcome with
        | error error => exact grown
        | ok =>
          simp only []
          cases again : after.makeDirectory (pathBelow staging (steps ++ [step])) with
          | ok made => exact grown.trans (stagedAfter.makeDirectory_ok fresh down again)
          | error error => exact grown
      | _ =>
        simp only []
        exact .refl root _ volume

theorem Staged.makeDirectory_fits (staged : Staged old root volume) (fresh : IsFresh old staging root)
    {steps : List String} (fits : Fits staging steps)
    (directories : volume.Directories root steps.dropLast) :
    volume.makeDirectory (pathBelow staging steps) =
      if (volume.node? (root ++ steps)).isSome then .error .taken
      else .ok (volume.put (root ++ steps) .directory) := by
  rw [makeDirectory_pathBelow volume fresh fits.down, staged.resolve_fits fresh fits directories]
  rfl

theorem Staged.isDirectory_fits (staged : Staged old root volume) (fresh : IsFresh old staging root)
    {steps : List String} (fits : Fits staging steps) (directories : volume.Directories root steps) :
    volume.isDirectory (pathBelow staging steps) = true := by
  have above : volume.Directories root steps.dropLast :=
    fun start some_ isStart => directories start some_ (isStart.trans (List.dropLast_prefix steps))
  have found : volume.node? (root ++ steps) = some .directory := by
    by_cases empty : steps = []
    · rw [empty, List.append_nil]
      exact staged.directory
    · exact directories steps empty (List.prefix_refl steps)
  rw [isDirectory, Volume.find, staged.resolve_fits fresh fits above]
  simp [bind, Except.bind, found]

theorem Staged.lastDirectory (staged : Staged old root volume) (fresh : IsFresh old staging root)
    {steps : List String} (some_ : steps ≠ []) (fits : Fits staging steps)
    (directories : volume.Directories root steps.dropLast)
    (clear : ∀ node, volume.node? (root ++ steps) = some node → node = .directory) :
    ∃ after, after.Directories root steps ∧ Grows root steps volume after ∧
      ((volume.makeDirectory (pathBelow staging steps) = .ok after) ∨
        (volume.makeDirectory (pathBelow staging steps) = .error .taken ∧
          volume.isDirectory (pathBelow staging steps) = true ∧ after = volume)) := by
  have made := staged.makeDirectory_fits fresh fits directories
  have ends {start : List String} (isStart : start <+: steps) :
      start <+: steps.dropLast ∨ start = steps := by
    rw [← List.dropLast_concat_getLast some_] at isStart ⊢
    rcases List.prefix_concat_iff.mp isStart with whole | before
    · exact .inr whole
    · exact .inl (by rwa [List.dropLast_concat])
  cases found : volume.node? (root ++ steps) with
  | none =>
    have grows := Grows.put some_ fits.accepts.nulFree found
    refine ⟨volume.put (root ++ steps) .directory, ?_, grows, .inl (by simp [made, found])⟩
    intro start someStart isStart
    rcases ends isStart with before | rfl
    · exact grows.kept (directories start someStart before)
    · rw [node?_put volume (by simp [some_]), if_pos rfl]
  | some node =>
    obtain rfl := clear node found
    have all : volume.Directories root steps := by
      intro start someStart isStart
      rcases ends isStart with before | rfl
      · exact directories start someStart before
      · exact found
    exact ⟨volume, all, .refl root steps volume,
      .inr ⟨by simp [made, found], staged.isDirectory_fits fresh fits all, rfl⟩⟩

/-- Where only directories are in the way, all directories are made. -/
theorem Staged.makeTree_fits (staged : Staged old root volume) (fresh : IsFresh old staging root)
    {steps : List String} (fits : Fits staging steps)
    (clear : ∀ start node, start ≠ [] → start <+: steps →
      volume.node? (root ++ start) = some node → node = .directory) :
    ∃ after, makeTree (isAbsolute staging) volume (components staging ++ steps).reverse =
        (.ok (), after) ∧ Grows root steps volume after ∧ after.Directories root steps := by
  induction steps using List.reverseRecOn with
  | nil =>
    have taken := staged.makeDirectory_fits fresh fits (directories_nil volume root)
    rw [List.append_nil, staged.directory] at taken
    have present := staged.isDirectory_fits fresh fits (directories_nil volume root)
    refine ⟨volume, ?_, .refl root [] volume, directories_nil volume root⟩
    obtain ⟨last, above, shape, _, path⟩ := lastStep fresh []
    rw [shape, makeTree, path, makeBelow, taken]
    simp [present]
  | append_singleton steps step ih =>
    have isStart : steps <+: steps ++ [step] := List.prefix_append ..
    have shorter : (components staging ++ (steps ++ [step])).dropLast = components staging ++ steps := by
      rw [← List.append_assoc, List.dropLast_concat]
    obtain ⟨last, above, shape, rest, path⟩ := lastStep fresh (steps ++ [step])
    rw [shorter] at rest
    rw [shape, makeTree, path, ← rest, makeBelow]
    by_cases directories : volume.Directories root steps
    · obtain ⟨after, all, grows, tried⟩ := staged.lastDirectory fresh (by simp) fits
        (by rwa [List.dropLast_concat]) fun node => clear _ node (by simp) (List.prefix_refl _)
      refine ⟨after, ?_, grows, all⟩
      rcases tried with made | ⟨taken, present, rfl⟩
      · rw [made]
      · rw [taken]
        simp [present]
    · have clearAbove : ∀ start node, start ≠ [] → start <+: steps →
          volume.node? (root ++ start) = some node → node = .directory :=
        fun start node some_ before => clear start node some_ (before.trans isStart)
      have missing : volume.descend root (steps ++ [step]) = .error .notFound :=
        descend_eq_notFound fits.short (by rwa [List.dropLast_concat])
          (by rwa [List.dropLast_concat])
      have tried : volume.makeDirectory (pathBelow staging (steps ++ [step])) = .error .notFound := by
        rw [makeDirectory_pathBelow volume fresh fits.down,
          staged.resolve_down fresh fits.down fits.accepts, missing]
        rfl
      obtain ⟨between, made, grows, all⟩ := ih (fits.start isStart) clearAbove
      have growsMore := grows.mono isStart
      have clearNow : ∀ node, between.node? (root ++ (steps ++ [step])) = some node →
          node = .directory := by
        intro node found
        rcases growsMore.nodes (root ++ (steps ++ [step])) with same | ⟨_, directory, _⟩
        · exact clear _ node (by simp) (List.prefix_refl _) (same ▸ found)
        · exact Option.some.inj (found.symm.trans directory)
      obtain ⟨after, allNow, growsNow, again⟩ := (staged.grow growsMore).lastDirectory fresh
        (by simp) fits (by rwa [List.dropLast_concat]) clearNow
      refine ⟨after, ?_, growsMore.trans growsNow, allNow⟩
      rw [tried]
      simp only [made]
      rcases again with madeNow | ⟨taken, present, rfl⟩
      · rw [madeNow]
      · rw [taken]
        simp [present]

end ClusterArchive.Volume
