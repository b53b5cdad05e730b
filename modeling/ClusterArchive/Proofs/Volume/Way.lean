import ClusterArchive.Proofs.Volume.Lookup

/-! Ways of paths. Making directories leaves nothing new but directories on the way, a way through
directories goes on from where it led, and one that nowhere names a directory avoids it. -/

namespace ClusterArchive.Volume

open ClusterArchive.Path

variable {volume before after : Volume} {path : String} {location root : Location} {node : Node}

theorem find_kept (keeps : Keeps before after) {follow : Bool}
    (found : before.find follow path = .ok (location, node)) :
    after.find follow path = .ok (location, node) := by
  obtain ⟨resolved, there⟩ := find_eq_ok.mp found
  exact find_eq_ok.mpr ⟨resolve_kept keeps resolved there, keeps.nodes _ _ there⟩

theorem Spreads.link (spreads : Spreads before after) {target : String}
    (link : after.node? location = some (.symlink target)) :
    before.node? location = some (.symlink target) := by
  rcases spreads.nodes location with same | ⟨_, made⟩
  · rw [← same, link]
  · rw [made] at link
    cases link

theorem Staged.link (staged : Staged before root after) {target : String}
    (link : after.node? location = some (.symlink target)) :
    before.node? location = some (.symlink target) := by
  by_cases inside : root <+: location
  · obtain ⟨steps, rfl⟩ := inside
    exact absurd link (staged.linkFree steps target)
  · rw [← staged.outside location inside, link]

/-! Directories that were made on the way of a path. -/

/-- A directory that some first steps of a path lead to. -/
def OnWay (volume : Volume) (path : String) (location : Location) : Prop :=
  ∃ start, start ≠ [] ∧ start <+: components path ∧
    volume.find true (ofComponents (isAbsolute path) start) = .ok (location, .directory)

theorem OnWay.kept (keeps : Keeps before after) (way : OnWay before path location) :
    OnWay after path location := by
  obtain ⟨start, some_, isStart, found⟩ := way
  exact ⟨start, some_, isStart, find_kept keeps found⟩

structure Paves (path : String) (before after : Volume) : Prop where
  spreads : Spreads before after
  way : before.WellFormed → ∀ location, before.node? location = none →
    after.node? location = some .directory → OnWay after path location

theorem Paves.refl (path : String) (volume : Volume) : Paves path volume volume where
  spreads := .refl volume
  way := by
    intro _ location free made
    rw [free] at made
    cases made

theorem Paves.trans {a b c : Volume} (first : Paves path a b) (second : Paves path b c) :
    Paves path a c where
  spreads := first.spreads.trans second.spreads
  way := by
    intro wellFormed location free made
    cases there : b.node? location with
    | none => exact second.way (first.spreads.wellFormed wellFormed) location there made
    | some node =>
      rcases first.spreads.nodes location with same | ⟨_, directory⟩
      · rw [same, free] at there
        cases there
      · exact (first.way wellFormed location free directory).kept second.spreads.keeps

/-- A directory that is made for the first steps of a path is on its way. -/
theorem makeDirectory_paves {start : String} (same : isAbsolute start = isAbsolute path)
    (isStart : components start <+: components path)
    (success : before.makeDirectory start = .ok after) : Paves path before after := by
  have spreads := makeDirectory_spreads success
  refine ⟨spreads, fun wellFormed location free there => ?_⟩
  obtain ⟨root, fresh, rfl⟩ := wellFormed.makeDirectory_fresh success
  have below := fresh.root_ne_nil
  have made : (before.put root .directory).node? root = some .directory := by
    rw [node?_put before below, if_pos rfl]
  rw [node?_put before below] at there
  split at there
  next is =>
    subst is
    have clean := isStep_of_mem_components start
    obtain ⟨accepts, _⟩ := resolve_ok fresh.resolved
    refine ⟨components start, fresh.somewhere, isStart, find_eq_ok.mpr ⟨?_, made⟩⟩
    rw [← same]
    exact spreads.keeps.resolve_root fresh made (isAbsolute_ofComponents _ clean)
      (components_ofComponents _ clean) accepts true
  next =>
    rw [free] at there
    cases there

theorem makeDirectories_paves (volume : Volume) (path : String) :
    Paves path volume (volume.makeDirectories path).2 :=
  makeDirectories_made (.refl path) .trans
    (fun _ same isStart _ _ success => makeDirectory_paves same isStart success) volume

/-! Going on from where a way led. -/

theorem walk_on (directory : volume.node? location = some .directory) {follow : Bool} {links : Nat}
    {place : Location} {steps : List String}
    (reached : volume.walk follow links place steps = .ok location) :
    ∃ left, ∀ rest, volume.walk follow links place (steps ++ rest) =
      volume.walk follow left location rest := by
  rw [walk_eq_ok] at reached
  induction reached with
  | arrived links place => exact ⟨links, fun rest => rfl⟩
  | here later ih =>
    obtain ⟨left, same⟩ := ih directory
    exact ⟨left, fun rest => by rw [List.cons_append, walk_here, same]⟩
  | up later ih =>
    obtain ⟨left, same⟩ := ih directory
    exact ⟨left, fun rest => by rw [List.cons_append, walk_up, same]⟩
  | last links move ends => exact ⟨links, walk_down move directory⟩
  | down move through later ih =>
    obtain ⟨left, same⟩ := ih directory
    exact ⟨left, fun rest => by rw [List.cons_append, walk_down move through, same]⟩
  | link move link further later ih =>
    obtain ⟨left, same⟩ := ih directory
    refine ⟨left, fun rest => ?_⟩
    rw [List.cons_append, walk_link move link, ← List.append_assoc, same]
    exact fun none_ => further (List.append_eq_nil_iff.mp none_).1

/-- All but the last step of a way lead to where the last one is taken. -/
theorem walk_split {last : String} (straight : last ≠ "." ∧ last ≠ "..") {links : Nat}
    {place : Location} {steps : List String}
    (reached : volume.walk false links place (steps ++ [last]) = .ok location) :
    ∃ above, location = above ++ [last] ∧ last.utf8ByteSize ≤ nameLimit ∧
      volume.walk true links place steps = .ok above := by
  simp only [walk_eq_ok] at reached ⊢
  generalize shape : steps ++ [last] = all at reached
  induction reached generalizing steps with
  | arrived => simp at shape
  | here later ih =>
    rcases List.append_eq_cons_iff.mp shape with ⟨rfl, only⟩ | ⟨before, rfl, rfl⟩
    · exact absurd (List.cons.inj only).1 straight.1
    · obtain ⟨above, is, short, route⟩ := ih rfl
      exact ⟨above, is, short, .here route⟩
  | up later ih =>
    rcases List.append_eq_cons_iff.mp shape with ⟨rfl, only⟩ | ⟨before, rfl, rfl⟩
    · exact absurd (List.cons.inj only).1 straight.2
    · obtain ⟨above, is, short, route⟩ := ih rfl
      exact ⟨above, is, short, .up route⟩
  | @last place step links move ends =>
    have shape : steps ++ [last] = [] ++ [step] := shape
    obtain ⟨rfl, only⟩ := List.append_inj' shape rfl
    obtain rfl := List.singleton_inj.mp only
    exact ⟨place, rfl, move.short, .arrived links place⟩
  | @down links place _ step rest move directory later ih =>
    rcases List.append_eq_cons_iff.mp shape with ⟨rfl, only⟩ | ⟨before, rfl, rfl⟩
    · obtain ⟨rfl, rfl⟩ := List.cons.inj only
      cases later
      exact ⟨place, rfl, move.short, .arrived links place⟩
    · obtain ⟨above, is, short, route⟩ := ih rfl
      exact ⟨above, is, short, .down move directory route⟩
  | @link links place _ step target rest move link further later ih =>
    rcases List.append_eq_cons_iff.mp shape with ⟨rfl, only⟩ | ⟨before, rfl, rfl⟩
    · exact absurd (further (List.cons.inj only).2.symm) Bool.false_ne_true
    · obtain ⟨above, is, short, route⟩ := ih (List.append_assoc ..)
      exact ⟨above, is, short, .link move link (fun _ => rfl) route⟩

theorem LinkFree.walk_below {place : Location} (linkFree : volume.LinkFree place) {follow : Bool}
    {links : Nat} {steps : List String} (up : ".." ∉ steps)
    (reached : volume.walk follow links place steps = .ok location) : place <+: location := by
  rw [walk_eq_ok] at reached
  induction reached with
  | arrived => exact List.prefix_rfl
  | here later ih => exact ih linkFree fun member => up (List.mem_cons_of_mem _ member)
  | up => exact absurd List.mem_cons_self up
  | last => exact List.prefix_append ..
  | @down _ _ _ step _ move directory later ih =>
    exact (List.prefix_append _ [step]).trans
      (ih (linkFree.below [step]) fun member => up (List.mem_cons_of_mem _ member))
  | link move link => exact absurd link (linkFree [_] _)

/-! Where a way leads when a tree is gone whose name it does not mention. -/

structure Unmentioned (volume : Volume) (path name : String) : Prop where
  path : name ∉ components path
  links : ∀ location target, volume.node? location = some (.symlink target) →
    name ∉ components target

theorem not_below_concat {place above : Location} {name step : String} (differ : step ≠ name)
    (apart : ¬above ++ [name] <+: place) : ¬above ++ [name] <+: place ++ [step] := by
  intro inside
  rcases List.prefix_concat_iff.mp inside with whole | before
  · exact differ (List.cons.inj (List.append_inj' whole rfl).2.symm).1
  · exact apart before

theorem not_below_start {place above : Location} {name : String} (path : String)
    (apart : ¬above ++ [name] <+: place) : ¬above ++ [name] <+: if isAbsolute path then [] else place := by
  split
  next => simp
  next => exact apart

theorem not_mem_steps {name : String} (point : name ≠ ".") (unmentioned : name ∉ components path) :
    name ∉ walk.steps path := by
  intro member
  rcases List.mem_append.mp member with step | dot
  · exact unmentioned step
  · split at dot
    next => exact point (List.mem_singleton.mp dot)
    next => cases dot

/-- A way that does not mention the name of a tree does not go through it. -/
theorem walk_removeTree {above : Location} {name : String} (point : name ≠ ".")
    (unmentioned : ∀ location target, volume.node? location = some (.symlink target) →
      name ∉ components target) {follow : Bool} {links : Nat} {place : Location} {steps : List String}
    (unnamed : name ∉ steps) (apart : ¬above ++ [name] <+: place)
    (reached : volume.walk follow links place steps = .ok location) :
    (volume.removeTree (above ++ [name])).walk follow links place steps = .ok location ∧
      ¬above ++ [name] <+: location := by
  have kept {next : Location} (outside : ¬above ++ [name] <+: next) :
      (volume.removeTree (above ++ [name])).node? next = volume.node? next := by
    rw [node?_removeTree volume (by simp), if_neg outside]
  have outside {place : Location} {step : String} {rest : List String} (unnamed : name ∉ step :: rest)
      (apart : ¬above ++ [name] <+: place) : ¬above ++ [name] <+: place ++ [step] :=
    not_below_concat (ne_of_mem_of_not_mem List.mem_cons_self unnamed) apart
  rw [walk_eq_ok] at reached ⊢
  induction reached with
  | arrived links place => exact ⟨.arrived links place, apart⟩
  | here later ih =>
    exact (ih (fun member => unnamed (List.mem_cons_of_mem _ member)) apart).imp_left .here
  | up later ih =>
    refine (ih (fun member => unnamed (List.mem_cons_of_mem _ member)) fun inside => ?_).imp_left .up
    exact apart (inside.trans (List.dropLast_prefix _))
  | last links move ends =>
    exact ⟨.last links move (by rwa [kept (outside unnamed apart)]), outside unnamed apart⟩
  | down move directory later ih =>
    have below := outside unnamed apart
    exact (ih (fun member => unnamed (List.mem_cons_of_mem _ member)) below).imp_left
      (.down move ((kept below).trans directory))
  | @link _ _ _ _ target _ move link further later ih =>
    have there := (kept (outside unnamed apart)).trans link
    refine (ih (fun member => ?_) (not_below_start target apart)).imp_left (.link move there further)
    rcases List.mem_append.mp member with inTarget | later
    · exact not_mem_steps point (unmentioned _ _ link) inTarget
    · exact unnamed (List.mem_cons_of_mem _ later)

theorem find_removeTree {above : Location} {name : String} (unmentioned : Unmentioned volume path name)
    (point : name ≠ ".") (outside : ¬above ++ [name] <+: volume.workingDirectory) {follow : Bool}
    (found : volume.find follow path = .ok (location, node)) :
    (volume.removeTree (above ++ [name])).find follow path = .ok (location, node) ∧
      ¬above ++ [name] <+: location := by
  obtain ⟨resolved, there⟩ := find_eq_ok.mp found
  obtain ⟨accepts, nonempty⟩ := resolve_ok resolved
  rw [resolve_of_accepts accepts nonempty] at resolved
  obtain ⟨reached, apart⟩ := walk_removeTree point unmentioned.links
    (not_mem_steps point unmentioned.path) (not_below_start path outside) resolved
  refine ⟨find_eq_ok.mpr ⟨?_, ?_⟩, apart⟩
  · rw [resolve_of_accepts accepts nonempty]
    exact reached
  · rw [node?_removeTree volume (by simp), if_neg apart, there]

theorem OnWay.removeTree {above : Location} {name : String}
    (unmentioned : Unmentioned volume path name) (point : name ≠ ".")
    (outside : ¬above ++ [name] <+: volume.workingDirectory) (way : OnWay volume path location) :
    OnWay (volume.removeTree (above ++ [name])) path location := by
  obtain ⟨start, some_, isStart, found⟩ := way
  have clean : ∀ part ∈ start, IsStep part :=
    fun part member => isStep_of_mem_components path part (isStart.subset member)
  refine ⟨start, some_, isStart, (find_removeTree ⟨?_, unmentioned.links⟩ point outside found).1⟩
  rw [components_ofComponents _ clean]
  exact fun member => unmentioned.path (isStart.subset member)

/-! The directory of a path, and its members. -/

structure Leads (volume : Volume) (path : String) (place : Location) : Prop where
  reached : volume.walk true linkLimit (if isAbsolute path then [] else volume.workingDirectory)
    (components path) = .ok place
  directory : volume.node? place = some .directory

variable {place : Location} {name : String}

theorem Leads.find (leads : Leads volume path place) (accepts : Accepts path) (nonempty : path ≠ "") :
    volume.find true path = .ok (place, .directory) := by
  obtain ⟨left, same⟩ := walk_on leads.directory leads.reached
  refine find_eq_ok.mpr ⟨?_, leads.directory⟩
  rw [resolve_of_accepts accepts nonempty, walk.steps, same]
  split <;> simp [walk]

theorem Leads.kept (keeps : Keeps before after) (leads : Leads before path place) :
    Leads after path place where
  reached := by
    rw [keeps.workingDirectory]
    exact walk_kept keeps leads.directory leads.reached
  directory := keeps.nodes _ _ leads.directory

theorem Leads.removeTree {above : Location} {removed : String} (leads : Leads volume path place)
    (unmentioned : Unmentioned volume path removed) (point : removed ≠ ".")
    (outside : ¬above ++ [removed] <+: volume.workingDirectory) :
    Leads (volume.removeTree (above ++ [removed])) path place ∧ ¬above ++ [removed] <+: place := by
  obtain ⟨reached, apart⟩ := walk_removeTree point unmentioned.links unmentioned.path
    (not_below_start path outside) leads.reached
  refine ⟨⟨reached, ?_⟩, apart⟩
  rw [node?_removeTree volume (by simp), if_neg apart, leads.directory]

theorem components_step (step : IsStep name) : components name = [name] := by
  have parts := components_intercalate (List.forall_mem_singleton.mpr step)
  rwa [String.intercalate_singleton] at parts

theorem steps_member (step : IsStep name) :
    walk.steps (Path.join path name) = components path ++ [name] := by
  have leaf := namesDirectory_join path (by simp) (List.forall_mem_singleton.mpr step)
  rw [String.intercalate_singleton] at leaf
  rw [walk.steps, components_join step.isAbsolute, components_step step, leaf]
  simp

theorem WellFormed.leads (wellFormed : volume.WellFormed) (step : IsStep name) (up : name ≠ "..")
    (resolved : volume.resolve false (Path.join path name) = .ok location) :
    ∃ place, location = place ++ [name] ∧ name.utf8ByteSize ≤ nameLimit ∧
      Leads volume path place := by
  obtain ⟨accepts, nonempty⟩ := resolve_ok resolved
  rw [resolve_of_accepts accepts nonempty, steps_member step, isAbsolute_join step.isAbsolute]
    at resolved
  have above := wellFormed.walk_above (wellFormed.start _) resolved
  obtain ⟨place, rfl, short, reached⟩ := walk_split ⟨step.2.1, up⟩ resolved
  rw [List.dropLast_concat] at above
  exact ⟨place, rfl, short, reached, above⟩

/-- A file in the directory of a path is found by its name there. -/
theorem Leads.find_member (leads : Leads volume path place) (step : IsStep name) (up : name ≠ "..")
    (short : name.utf8ByteSize ≤ nameLimit) (accepts : Accepts (Path.join path name))
    {contents : Contents} {modified : Instant}
    (file : volume.node? (place ++ [name]) = some (.file contents modified)) :
    volume.find true (Path.join path name) = .ok (place ++ [name], .file contents modified) := by
  obtain ⟨left, same⟩ := walk_on leads.directory leads.reached
  have nonempty : Path.join path name ≠ "" := by
    intro empty
    have parts : components (Path.join path name) = components path ++ components name :=
      components_join step.isAbsolute
    rw [empty, components_empty, components_step step] at parts
    simp at parts
  refine find_eq_ok.mpr ⟨?_, file⟩
  rw [resolve_of_accepts accepts nonempty, steps_member step, isAbsolute_join step.isAbsolute, same,
    walk]
  simp [step.2.1, up, Nat.not_lt.mpr short, file]

theorem location_of_child {location : Location} {found : Node}
    (is : (match location.getLast? with
      | some name => if location.dropLast = place then some (name, found) else none
      | none => none) = some (name, node)) : location = place ++ [name] ∧ found = node := by
  cases last : location.getLast? with
  | none => simp [last] at is
  | some step =>
    obtain ⟨above, rfl⟩ := List.getLast?_eq_some_iff.mp last
    simp only [List.getLast?_concat, List.dropLast_concat, Option.ite_none_right_eq_some,
      Option.some.injEq, Prod.mk.injEq] at is
    obtain ⟨rfl, rfl, rfl⟩ := is
    exact ⟨rfl, rfl⟩

/-- The members of a directory are the nodes one step below it. -/
theorem mem_children (ascending : Assoc.Ascending volume.nodes) :
    (name, node) ∈ volume.children place ↔ volume.node? (place ++ [name]) = some node := by
  have lookup : volume.node? (place ++ [name]) = Assoc.get? (place ++ [name]) volume.nodes := by
    simp [node?]
  rw [lookup, ← ascending.mem_iff, children, List.mem_filterMap]
  constructor
  · rintro ⟨⟨location, found⟩, member, is⟩
    obtain ⟨rfl, rfl⟩ := location_of_child is
    exact member
  · intro member
    exact ⟨_, member, by simp⟩

theorem children_apart (ascending : Assoc.Ascending volume.nodes) :
    (volume.children place).Pairwise fun first second => first.1 ≠ second.1 := by
  have apart := List.pairwise_map.mp (List.nodup_iff_pairwise_ne.mp ascending.nodup_keys)
  refine apart.filterMap _ ?_
  rintro ⟨first, _⟩ ⟨second, _⟩ differ ⟨name, _⟩ is ⟨other, _⟩ isOther same
  obtain ⟨rfl, _⟩ := location_of_child is
  obtain ⟨rfl, _⟩ := location_of_child isOther
  exact differ (congrArg (place ++ [·]) same)
/-- Only what lies above the directory of a path that does not go up is on its way, where new nodes
are no links. -/
theorem OnWay.above (way : OnWay volume path location) (up : ".." ∉ components path)
    (linkFree : volume.LinkFree location) (found : volume.find true path = .ok (place, node)) :
    location <+: place := by
  obtain ⟨start, some_, isStart, there⟩ := way
  obtain ⟨rest, parts⟩ := isStart
  have clean : ∀ part ∈ start, IsStep part := fun part member =>
    isStep_of_mem_components path part (parts ▸ List.mem_append_left _ member)
  obtain ⟨resolved, directory⟩ := find_eq_ok.mp there
  obtain ⟨accepts, nonempty⟩ := resolve_ok resolved
  rw [resolve_of_accepts accepts nonempty, walk.steps, isAbsolute_ofComponents _ clean,
    components_ofComponents _ clean, namesDirectory_ofComponents _ some_ clean] at resolved
  simp only [Bool.false_eq_true, if_false, List.append_nil] at resolved
  obtain ⟨left, same⟩ := walk_on directory resolved
  obtain ⟨acceptsAll, nonemptyAll⟩ := resolve_ok (find_eq_ok.mp found).1
  have reached := (find_eq_ok.mp found).1
  rw [resolve_of_accepts acceptsAll nonemptyAll, walk.steps, ← parts, List.append_assoc, same]
    at reached
  refine linkFree.walk_below ?_ reached
  intro member
  rcases List.mem_append.mp member with later | dot
  · exact up (parts ▸ List.mem_append_right _ later)
  · split at dot <;> simp at dot

end ClusterArchive.Volume
