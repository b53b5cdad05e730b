import ClusterArchive.Proofs.Volume.Path
import ClusterArchive.Volume.Operations

/-! Walking through a volume. A walk that leads somewhere is a route, which goes by its steps, through
directories and links. Where nodes are only added, it is a route still, and where there are no links it
goes straight down. -/

namespace ClusterArchive.Volume

/-- All that is in one volume is in another, too. -/
structure Keeps (before after : Volume) : Prop where
  nodes : ∀ location node, before.node? location = some node → after.node? location = some node
  workingDirectory : after.workingDirectory = before.workingDirectory

theorem Keeps.refl (volume : Volume) : Keeps volume volume := ⟨fun _ _ => id, rfl⟩

theorem Keeps.trans {a b c : Volume} (first : Keeps a b) (second : Keeps b c) : Keeps a c where
  nodes := fun location node found => second.nodes _ _ (first.nodes location node found)
  workingDirectory := second.workingDirectory.trans first.workingDirectory

theorem Keeps.absent {before after : Volume} (keeps : Keeps before after) {location : Location}
    (free : after.node? location = none) : before.node? location = none := by
  cases found : before.node? location with
  | none => rfl
  | some node =>
    rw [keeps.nodes _ _ found] at free
    cases free

/-! What one step of a walk comes to, and the routes that are made of such steps. -/

section Walk

variable {volume : Volume} {follow : Bool} {links : Nat} {place location : Location} {step : String}

/-- A step to a name, neither to where it is taken nor up, and as long as names can be. -/
structure IsMove (step : String) : Prop where
  point : step ≠ "."
  up : step ≠ ".."
  short : step.utf8ByteSize ≤ nameLimit

theorem walk_nil (volume : Volume) (follow : Bool) (links : Nat) (place : Location) :
    volume.walk follow links place [] = .ok place := by
  rw [walk]

theorem walk_here (volume : Volume) (follow : Bool) (links : Nat) (place : Location)
    (rest : List String) :
    volume.walk follow links place ("." :: rest) = volume.walk follow links place rest := by
  rw [walk, if_pos rfl]

theorem walk_up (volume : Volume) (follow : Bool) (links : Nat) (place : Location)
    (rest : List String) :
    volume.walk follow links place (".." :: rest) = volume.walk follow links place.dropLast rest := by
  rw [walk, if_neg (by decide), if_pos rfl]

theorem walk_down (move : IsMove step) (directory : volume.node? (place ++ [step]) = some .directory)
    (rest : List String) : volume.walk follow links place (step :: rest) =
      volume.walk follow links (place ++ [step]) rest := by
  rw [walk]
  simp only [move.point, move.up, Nat.not_lt.mpr move.short, if_false, directory]

theorem walk_link {target : String} (move : IsMove step)
    (link : volume.node? (place ++ [step]) = some (.symlink target)) {rest : List String}
    (further : rest = [] → follow = true) : volume.walk follow (links + 1) place (step :: rest) =
      volume.walk follow links (if Path.isAbsolute target then [] else place)
        (walk.steps target ++ rest) := by
  have goesOn : (rest.isEmpty && !follow) = false := by
    cases rest with
    | nil => simp [further rfl]
    | cons => rfl
  rw [walk]
  simp only [move.point, move.up, Nat.not_lt.mpr move.short, if_false, link, goesOn,
    Bool.false_eq_true]

/-- The last step leads to its name, whatever is there, but through a link that is followed. -/
theorem walk_last (move : IsMove step) (ends : follow = true → ∀ target,
      volume.node? (place ++ [step]) ≠ some (.symlink target)) :
    volume.walk follow links place [step] = .ok (place ++ [step]) := by
  rw [walk]
  simp only [move.point, move.up, Nat.not_lt.mpr move.short, if_false]
  cases found : volume.node? (place ++ [step]) with
  | none => rfl
  | some node =>
    cases node with
    | directory => exact walk_nil ..
    | file => rfl
    | symlink target =>
      cases follow with
      | false => rfl
      | true => exact absurd found (ends rfl target)

/-- The way that some steps lead from a directory, whether or not a node is at its end. Each link that
is followed takes one of those that are allowed. -/
inductive Route (volume : Volume) (follow : Bool) : Nat → Location → List String → Location → Prop
  | arrived (links : Nat) (place : Location) : Route volume follow links place [] place
  | here {links : Nat} {place location : Location} {rest : List String}
    (later : Route volume follow links place rest location) :
    Route volume follow links place ("." :: rest) location
  | up {links : Nat} {place location : Location} {rest : List String}
    (later : Route volume follow links place.dropLast rest location) :
    Route volume follow links place (".." :: rest) location
  | last {place : Location} {step : String} (links : Nat) (move : IsMove step)
    (ends : follow = true → ∀ target, volume.node? (place ++ [step]) ≠ some (.symlink target)) :
    Route volume follow links place [step] (place ++ [step])
  | down {links : Nat} {place location : Location} {step : String} {rest : List String}
    (move : IsMove step) (directory : volume.node? (place ++ [step]) = some .directory)
    (later : Route volume follow links (place ++ [step]) rest location) :
    Route volume follow links place (step :: rest) location
  | link {links : Nat} {place location : Location} {step target : String} {rest : List String}
    (move : IsMove step) (link : volume.node? (place ++ [step]) = some (.symlink target))
    (further : rest = [] → follow = true)
    (later : Route volume follow links (if Path.isAbsolute target then [] else place)
      (walk.steps target ++ rest) location) :
    Route volume follow (links + 1) place (step :: rest) location

/-- A walk leads somewhere exactly if there is a route to it. What is shown of such walks is shown by
induction on the route. -/
theorem walk_eq_ok {steps : List String} :
    volume.walk follow links place steps = .ok location ↔
      Route volume follow links place steps location := by
  constructor
  · intro reached
    fun_induction volume.walk follow links place steps with
    | case1 links place =>
      obtain rfl := Except.ok.inj reached
      exact .arrived links place
    | case2 links place steps ih => exact .here (ih reached)
    | case3 links place steps other ih => exact .up (ih reached)
    | case4 | case6 | case9 | case11 => cases reached
    | case5 links place step steps here up short next found last
    | case8 links place step steps here up short next contents modified found last =>
      obtain rfl := Except.ok.inj reached
      obtain rfl := List.isEmpty_iff.mp last
      exact .last links ⟨here, up, Nat.not_lt.mp short⟩ fun _ _ is => nomatch found.symm.trans is
    | case7 links place step steps here up short next found ih =>
      exact .down ⟨here, up, Nat.not_lt.mp short⟩ found (ih reached)
    | case10 links place step steps here up short next target found last =>
      obtain rfl := Except.ok.inj reached
      obtain ⟨isLast, unfollowed⟩ := Bool.and_eq_true_iff.mp last
      obtain rfl := List.isEmpty_iff.mp isLast
      exact .last links ⟨here, up, Nat.not_lt.mp short⟩ fun follows => by simp [follows] at unfollowed
    | case12 place step steps here up short next target found more links start ih =>
      exact .link ⟨here, up, Nat.not_lt.mp short⟩ found (by simpa using more) (ih reached)
  · intro route
    induction route with
    | arrived links place => exact walk_nil ..
    | here later ih => rwa [walk_here]
    | up later ih => rwa [walk_up]
    | last links move ends => exact walk_last move ends
    | down move directory later ih => rwa [walk_down move directory]
    | link move link further later ih => rwa [walk_link move link further]

end Walk

/-- A walk that ended where nothing was goes on through the directory that is made there, and ends at
a file that is made there. -/
theorem walk_through {old volume : Volume} (keeps : Keeps old volume) {root : Location}
    (free : old.node? root = none) (rest : List String)
    (made : volume.node? root = some .directory ∨
      rest = [] ∧ ∃ contents modified, volume.node? root = some (.file contents modified))
    {links : Nat} {place : Location} {steps : List String}
    (reached : old.walk false links place steps = .ok root) (follow : Bool) :
    ∃ left, volume.walk follow links place (steps ++ rest) = volume.walk follow left root rest := by
  rw [walk_eq_ok] at reached
  induction reached with
  | arrived links place => exact ⟨links, rfl⟩
  | here later ih =>
    rw [List.cons_append, walk_here]
    exact ih free made
  | up later ih =>
    rw [List.cons_append, walk_up]
    exact ih free made
  | last links move ends =>
    refine ⟨links, ?_⟩
    rcases made with directory | ⟨rfl, contents, modified, file⟩
    · exact walk_down move directory rest
    · rw [List.append_nil, walk_last move (by simp [file]), walk_nil]
  | down move directory later ih =>
    rw [List.cons_append, walk_down move (keeps.nodes _ _ directory)]
    exact ih free made
  | link move link further later ih =>
    obtain ⟨left, same⟩ := ih free made
    refine ⟨left, ?_⟩
    rw [List.cons_append, walk_link move (keeps.nodes _ _ link), ← List.append_assoc]
    · exact same
    · intro none_
      exact absurd (further (List.append_eq_nil_iff.mp none_).1) Bool.false_ne_true

/-- A walk that found a node finds its way also where there are more. -/
theorem walk_kept {volume more : Volume} (keeps : Keeps volume more) {location : Location}
    {node : Node} (found : volume.node? location = some node) {follow : Bool} {links : Nat}
    {place : Location} {steps : List String}
    (reached : volume.walk follow links place steps = .ok location) :
    more.walk follow links place steps = .ok location := by
  rw [walk_eq_ok] at reached ⊢
  induction reached with
  | arrived links place => exact .arrived links place
  | here later ih => exact .here (ih found)
  | up later ih => exact .up (ih found)
  | last links move ends =>
    have kept := keeps.nodes _ _ found
    exact .last links move (by rwa [kept, ← found])
  | down move directory later ih => exact .down move (keeps.nodes _ _ directory) (ih found)
  | link move link further later ih => exact .link move (keeps.nodes _ _ link) further (ih found)

def descend (volume : Volume) (place : Location) : List String → Except FileError Location
  | [] => .ok place
  | step :: rest =>
    if nameLimit < step.utf8ByteSize then .error .nameTooLong
    else
      match volume.node? (place ++ [step]) with
      | none => if rest.isEmpty then .ok (place ++ [step]) else .error .notFound
      | some .directory => volume.descend (place ++ [step]) rest
      | some _ => if rest.isEmpty then .ok (place ++ [step]) else .error .notDirectory

def LinkFree (volume : Volume) (root : Location) : Prop :=
  ∀ steps target, volume.node? (root ++ steps) ≠ some (.symlink target)

theorem LinkFree.below {volume : Volume} {root : Location} (linkFree : volume.LinkFree root)
    (steps : List String) : volume.LinkFree (root ++ steps) := by
  intro more target
  rw [List.append_assoc]
  exact linkFree (steps ++ more) target

theorem walk_eq_descend {volume : Volume} {place : Location} (linkFree : volume.LinkFree place)
    (follow : Bool) (links : Nat) {steps : List String}
    (down : ∀ step ∈ steps, step ≠ "." ∧ step ≠ "..") :
    volume.walk follow links place steps = volume.descend place steps := by
  induction steps generalizing place with
  | nil => rw [walk, descend]
  | cons step rest ih =>
    obtain ⟨⟨here, up⟩, later⟩ := List.forall_mem_cons.mp down
    rw [walk, descend]
    simp only [here, up, if_false]
    split
    next => rfl
    next =>
      cases found : volume.node? (place ++ [step]) with
      | none => rfl
      | some node =>
        cases node with
        | directory => exact ih (linkFree.below [step]) later
        | file contents modified => rfl
        | symlink target => exact absurd found (linkFree [step] target)

def Directories (volume : Volume) (place : Location) (steps : List String) : Prop :=
  ∀ before, before ≠ [] → before <+: steps → volume.node? (place ++ before) = some .directory

theorem directories_nil (volume : Volume) (place : Location) : volume.Directories place [] := by
  intro before some_ isStart
  exact absurd (List.prefix_nil.mp isStart) some_

theorem directories_cons {volume : Volume} {place : Location} {step : String}
    {rest : List String} : volume.Directories place (step :: rest) ↔
      volume.node? (place ++ [step]) = some .directory ∧
      volume.Directories (place ++ [step]) rest := by
  constructor
  · intro directories
    refine ⟨directories [step] (by simp) (by simp), fun before some_ isStart => ?_⟩
    have found := directories (step :: before) (by simp) (List.cons_prefix_cons.mpr ⟨rfl, isStart⟩)
    rwa [List.append_assoc]
  · rintro ⟨here, later⟩ before some_ isStart
    cases before with
    | nil => exact absurd rfl some_
    | cons first before =>
      obtain ⟨rfl, isStartLater⟩ := List.cons_prefix_cons.mp isStart
      cases before with
      | nil => exact here
      | cons next before =>
        have found := later (next :: before) (by simp) isStartLater
        rwa [List.append_assoc] at found

/-- A way down leads to its end exactly if directories lie on it. -/
theorem descend_eq_ok {volume : Volume} {place location : Location} {steps : List String} :
    volume.descend place steps = .ok location ↔ location = place ++ steps ∧
      (∀ step ∈ steps, step.utf8ByteSize ≤ nameLimit) ∧
      volume.Directories place steps.dropLast := by
  induction steps generalizing place with
  | nil => simp [descend, directories_nil, eq_comm]
  | cons step rest ih =>
    rw [descend]
    by_cases long : nameLimit < step.utf8ByteSize
    · simp only [long, if_true, reduceCtorEq, false_iff]
      rintro ⟨_, short, _⟩
      exact absurd (short step List.mem_cons_self) (Nat.not_le.mpr long)
    · simp only [long, if_false, List.forall_mem_cons, Nat.not_lt.mp long, true_and]
      cases rest with
      | nil =>
        cases found : volume.node? (place ++ [step]) with
        | none => simp [directories_nil, eq_comm]
        | some node => cases node <;> simp [directories_nil, descend, eq_comm]
      | cons next rest =>
        have shape : (step :: next :: rest).dropLast = step :: (next :: rest).dropLast := rfl
        rw [shape, directories_cons]
        cases found : volume.node? (place ++ [step]) with
        | none => simp
        | some node =>
          cases node with
          | directory =>
            rw [ih]
            simp
          | file | symlink => simp

/-- A way down with a directory missing, and nothing else in its place, is not found. -/
theorem descend_eq_notFound {volume : Volume} {place : Location} {steps : List String}
    (short : ∀ step ∈ steps, step.utf8ByteSize ≤ nameLimit)
    (clear : ∀ before node, before ≠ [] → before <+: steps.dropLast →
      volume.node? (place ++ before) = some node → node = .directory)
    (missing : ¬volume.Directories place steps.dropLast) :
    volume.descend place steps = .error .notFound := by
  induction steps generalizing place with
  | nil => exact absurd (directories_nil volume place) missing
  | cons step rest ih =>
    obtain ⟨here, later⟩ := List.forall_mem_cons.mp short
    cases rest with
    | nil => exact absurd (directories_nil volume place) missing
    | cons next rest =>
      have shape : (step :: next :: rest).dropLast = step :: (next :: rest).dropLast := rfl
      rw [shape] at clear missing
      rw [directories_cons] at missing
      rw [descend, if_neg (Nat.not_lt.mpr here)]
      cases found : volume.node? (place ++ [step]) with
      | none => rfl
      | some node =>
        obtain rfl := clear [step] node (by simp) (by simp) found
        refine ih later (fun before node some_ isStart there => ?_)
          (fun directories => missing ⟨found, directories⟩)
        refine clear (step :: before) node (by simp) (List.cons_prefix_cons.mpr ⟨rfl, isStart⟩) ?_
        rwa [List.append_assoc] at there

end ClusterArchive.Volume
