import ClusterArchive.Proofs.Volume.Removal

/-! Entering a directory. A way either comes to a directory, and all further steps are taken from
there, or it fails whatever the further steps are. So one look at the path of a directory tells where
the paths of its members lead. -/

namespace ClusterArchive.Volume

open ClusterArchive.Path

variable {volume : Volume} {path : String} {place location : Location} {links : Nat}
  {steps : List String}

inductive Entrance (volume : Volume) (links : Nat) (place : Location) (steps : List String) : Prop
  | inside (location : Location) (left : Nat)
      (directory : volume.node? location = some .directory)
      (reached : volume.walk true links place steps = .ok location)
      (further : ∀ follow rest, rest ≠ [] → volume.walk follow links place (steps ++ rest) =
        volume.walk follow left location rest)
  | nowhere (error : FileError)
      (ends : volume.walk true links place steps = .error error ∨
        ∃ location, volume.walk true links place steps = .ok location ∧
          volume.node? location ≠ some .directory ∧ (volume.node? location = none → error = .notFound))
      (further : ∀ follow rest, rest ≠ [] →
        volume.walk follow links place (steps ++ rest) = .error error)

theorem Entrance.of_same {others : List String} {above : Location} {fewer : Nat}
    (same : ∀ follow rest, follow = true ∨ rest ≠ [] → volume.walk follow links place (steps ++ rest) =
      volume.walk follow fewer above (others ++ rest))
    (entrance : Entrance volume fewer above others) : Entrance volume links place steps := by
  have whole : volume.walk true links place steps = volume.walk true fewer above others := by
    simpa using same true [] (.inl rfl)
  cases entrance with
  | inside location left directory reached further =>
    refine .inside location left directory (whole.trans reached) fun follow rest more => ?_
    rw [same follow rest (.inr more), further follow rest more]
  | nowhere error ends further =>
    refine .nowhere error (whole ▸ ends) fun follow rest more => ?_
    rw [same follow rest (.inr more), further follow rest more]

theorem Entrance.of_failed (error : FileError)
    (failed : ∀ follow rest, follow = true ∨ rest ≠ [] →
      volume.walk follow links place (steps ++ rest) = .error error) :
    Entrance volume links place steps :=
  .nowhere error (.inl (by simpa using failed true [] (.inl rfl)))
    fun follow rest more => failed follow rest (.inr more)

theorem WellFormed.entrance (wellFormed : volume.WellFormed) (links : Nat)
    (start : volume.node? place = some .directory) (steps : List String) :
    Entrance volume links place steps := by
  -- All steps before the last lead through directories, so only the last can lead anywhere else.
  fun_induction volume.walk true links place steps with
  | case1 links place => exact .inside place links start (by rw [walk]) fun follow rest more => rfl
  | case2 links place steps ih =>
    refine .of_same (fun follow rest _ => ?_) (ih start)
    rw [List.cons_append, walk_here]
  | case3 links place steps other ih =>
    refine .of_same (fun follow rest _ => ?_) (ih (wellFormed.above _ _ start))
    rw [List.cons_append, walk_up]
  | case4 links place step steps here up long =>
    refine .of_failed .nameTooLong fun follow rest _ => ?_
    rw [List.cons_append, walk]
    simp [here, up, long]
  | case5 links place step steps here up short next absent last =>
    have there : volume.node? (place ++ [step]) = none := absent
    refine .nowhere .notFound (.inr ⟨next, ?_, by simp [absent], fun _ => rfl⟩)
      fun follow rest more => ?_
    · rw [walk]
      simp [here, up, short, there, last, next]
    · rw [List.cons_append, walk]
      simp [here, up, short, there, more]
  | case6 links place step steps here up short next absent more =>
    have there : volume.node? (place ++ [step]) = none := absent
    have further : steps ≠ [] := by simpa using more
    refine .of_failed .notFound fun follow rest _ => ?_
    rw [List.cons_append, walk]
    simp [here, up, short, there, further]
  | case7 links place step steps here up short next found ih =>
    refine .of_same (fun follow rest _ => ?_) (ih found)
    rw [List.cons_append, walk_down ⟨here, up, Nat.not_lt.mp short⟩ found]
  | case8 links place step steps here up short next contents modified found last =>
    have there : volume.node? (place ++ [step]) = some (.file contents modified) := found
    refine .nowhere .notDirectory (.inr ⟨next, ?_, by simp [found], by simp [found]⟩)
      fun follow rest more => ?_
    · rw [walk]
      simp [here, up, short, there, last, next]
    · rw [List.cons_append, walk]
      simp [here, up, short, there, more]
  | case9 links place step steps here up short next contents modified found more =>
    have there : volume.node? (place ++ [step]) = some (.file contents modified) := found
    have further : steps ≠ [] := by simpa using more
    refine .of_failed .notDirectory fun follow rest _ => ?_
    rw [List.cons_append, walk]
    simp [here, up, short, there, further]
  | case10 links place step steps here up short next target found last => simp at last
  | case11 place step steps here up short next target found more =>
    have there : volume.node? (place ++ [step]) = some (.symlink target) := found
    refine .of_failed .tooManyLinks fun follow rest further => ?_
    have open_ : ((steps ++ rest).isEmpty && !follow) = false := by
      rcases further with rfl | further <;> simp [*]
    rw [List.cons_append, walk]
    simp only [here, up, short, if_false, there, open_, Bool.false_eq_true]
  | case12 place step steps here up short next target found more links first ih =>
    refine .of_same (fun follow rest further => ?_) (ih (linkStart_directory start target))
    rw [List.cons_append, walk_link ⟨here, up, Nat.not_lt.mp short⟩ found, List.append_assoc]
    · rfl
    · intro none_
      exact further.resolve_right (not_not_intro (List.append_eq_nil_iff.mp none_).2)

/-- Where a way ends at a node, it ends at one without the last link followed, too. -/
theorem walk_unfollowed {node : Node} (found : volume.node? location = some node)
    (reached : volume.walk true links place steps = .ok location) :
    ∃ other, volume.walk false links place steps = .ok other ∧ (volume.node? other).isSome := by
  simp only [walk_eq_ok] at reached ⊢
  induction reached with
  | arrived links place => exact ⟨place, .arrived links place, by simp [found]⟩
  | here later ih =>
    obtain ⟨other, route, there⟩ := ih found
    exact ⟨other, .here route, there⟩
  | up later ih =>
    obtain ⟨other, route, there⟩ := ih found
    exact ⟨other, .up route, there⟩
  | last links move ends => exact ⟨_, .last links move nofun, by simp [found]⟩
  | down move directory later ih =>
    obtain ⟨other, route, there⟩ := ih found
    exact ⟨other, .down move directory route, there⟩
  | @link links _ _ _ _ rest move link further later ih =>
    cases rest with
    | nil => exact ⟨_, .last (links + 1) move nofun, by simp [link]⟩
    | cons =>
      obtain ⟨other, route, there⟩ := ih found
      exact ⟨other, .link move link nofun route, there⟩

variable {name : String}

/-- A path that leads to a directory leads there before its members are looked for. -/
theorem WellFormed.enters (wellFormed : volume.WellFormed)
    (found : volume.find true path = .ok (place, .directory)) :
    let start := if isAbsolute path then [] else volume.workingDirectory
    volume.walk true linkLimit start (components path) = .ok place ∧
      ∃ left, ∀ follow rest, rest ≠ [] → volume.walk follow linkLimit start (components path ++ rest) =
        volume.walk follow left place rest := by
  intro start
  obtain ⟨resolved, directory⟩ := find_eq_ok.mp found
  obtain ⟨accepts, nonempty⟩ := resolve_ok resolved
  rw [resolve_of_accepts accepts nonempty, walk.steps] at resolved
  cases wellFormed.entrance linkLimit (wellFormed.start (isAbsolute path)) (components path) with
  | inside location left there reached further =>
    have same : location = place := by
      cases closed : namesDirectory path with
      | true => simpa [closed, further true ["."], walk] using resolved
      | false => simpa [closed, reached] using resolved
    subst same
    exact ⟨reached, left, further⟩
  | nowhere error ends further =>
    exfalso
    cases closed : namesDirectory path with
    | true => simp [closed, further true ["."]] at resolved
    | false =>
      simp only [closed, Bool.false_eq_true, if_false, List.append_nil] at resolved
      rcases ends with failed | ⟨other, reached, apart, _⟩
      · rw [failed] at resolved
        cases resolved
      · obtain rfl := Except.ok.inj (reached.symm.trans resolved)
        exact apart directory

theorem WellFormed.enters_missing (wellFormed : volume.WellFormed) (accepts : Accepts path)
    (nonempty : path ≠ "") (missing : volume.find true path = .error .notFound) (follow : Bool)
    {rest : List String} (more : rest ≠ []) :
    volume.walk follow linkLimit (if isAbsolute path then [] else volume.workingDirectory)
      (components path ++ rest) = .error .notFound := by
  rw [Volume.find, resolve_of_accepts accepts nonempty, walk.steps] at missing
  cases wellFormed.entrance linkLimit (wellFormed.start (isAbsolute path)) (components path) with
  | inside location left there reached further =>
    exfalso
    cases closed : namesDirectory path with
    | true => simp [closed, further true ["."], walk, there, bind, Except.bind] at missing
    | false => simp [closed, reached, there, bind, Except.bind] at missing
  | nowhere error ends further =>
    rw [further follow rest more]
    cases closed : namesDirectory path with
    | true => simpa [closed, further true ["."], bind, Except.bind] using missing
    | false =>
      simp only [closed, Bool.false_eq_true, if_false, List.append_nil] at missing
      rcases ends with failed | ⟨other, reached, _, gone⟩
      · simpa [failed, bind, Except.bind] using missing
      · cases there : volume.node? other with
        | none => rw [gone there]
        | some node => simp [reached, there, bind, Except.bind] at missing

theorem WellFormed.makeDirectories_found (wellFormed : volume.WellFormed)
    (found : volume.find true path = .ok (place, .directory)) :
    volume.makeDirectories path = (.ok (), volume) := by
  obtain ⟨resolved, directory⟩ := find_eq_ok.mp found
  obtain ⟨accepts, nonempty⟩ := resolve_ok resolved
  obtain ⟨reached, left, further⟩ := wellFormed.enters found
  have placed : ∃ other, volume.placeOf path = .ok other ∧ (volume.node? other).isSome := by
    rw [placeOf_of_accepts accepts nonempty]
    cases point : endsInPoint path with
    | true => exact ⟨place, by simp [further false ["."], walk], by simp [directory]⟩
    | false => simpa using walk_unfollowed directory reached
  obtain ⟨other, leads, taken⟩ := placed
  have refused : volume.makeDirectory path = .error .taken := by
    simp [makeDirectory, leads, taken, bind, Except.bind]
  rw [makeDirectories, if_neg nonempty, makeBelow, refused]
  simp [isDirectory, found]

theorem WellFormed.resolve_member (wellFormed : volume.WellFormed)
    (found : volume.find true path = .ok (place, .directory)) (step : IsStep name) (up : name ≠ "..")
    (short : name.utf8ByteSize ≤ nameLimit) (accepts : Accepts (Path.join path name)) {follow : Bool}
    (plain : follow = false ∨ ∀ target, volume.node? (place ++ [name]) ≠ some (.symlink target)) :
    volume.resolve follow (Path.join path name) = .ok (place ++ [name]) := by
  obtain ⟨_, left, further⟩ := wellFormed.enters found
  have nonempty : path ≠ "" := (resolve_ok (find_eq_ok.mp found).1).2
  rw [resolve_of_accepts accepts (join_ne_empty nonempty name), steps_member step,
    isAbsolute_join step.isAbsolute, further follow [name] (by simp), walk]
  simp only [step.2.1, up, Nat.not_lt.mpr short, if_false]
  cases there : volume.node? (place ++ [name]) with
  | none => simp
  | some node =>
    cases node with
    | directory => simp [walk]
    | file contents modified => simp
    | symlink target =>
      rcases plain with rfl | plain
      · simp
      · exact absurd there (plain target)

theorem WellFormed.find_member (wellFormed : volume.WellFormed)
    (found : volume.find true path = .ok (place, .directory)) (step : IsStep name) (up : name ≠ "..")
    (short : name.utf8ByteSize ≤ nameLimit) (accepts : Accepts (Path.join path name)) {follow : Bool}
    (plain : follow = false ∨ ∀ target, volume.node? (place ++ [name]) ≠ some (.symlink target)) :
    volume.find follow (Path.join path name) = match volume.node? (place ++ [name]) with
      | some node => .ok (place ++ [name], node)
      | none => .error .notFound := by
  rw [Volume.find, wellFormed.resolve_member found step up short accepts plain]
  rfl

theorem WellFormed.find_member_missing (wellFormed : volume.WellFormed) (nonempty : path ≠ "")
    (missing : volume.find true path = .error .notFound) (step : IsStep name)
    (accepts : Accepts (Path.join path name)) (follow : Bool) :
    volume.find follow (Path.join path name) = .error .notFound := by
  have whole : Accepts path := accepts.of_sublist (sublist_join path step.isAbsolute)
  have failed := wellFormed.enters_missing whole nonempty missing follow (List.cons_ne_nil name [])
  rw [Volume.find, resolve_of_accepts accepts (join_ne_empty nonempty name), steps_member step,
    isAbsolute_join step.isAbsolute, failed]
  rfl

/-! A path may go through a missing directory and up again. It leads nowhere until that directory is
made. -/

theorem short_detour : ¬nameLimit < ("d").utf8ByteSize ∧ ¬nameLimit < ("sub").utf8ByteSize := by decide

theorem makeDirectories_detour (there : volume.node? ["d"] = some .directory)
    (free : volume.node? ["d", "sub"] = none) :
    volume.makeDirectories "/d/sub/.." = (.ok (), volume.put ["d", "sub"] .directory) := by
  obtain ⟨short, shortSub⟩ := short_detour
  have parts : components "/d/sub/.." = ["d", "sub", ".."] := by decide
  have absolute : isAbsolute "/d/sub/.." = true := by decide
  have point : endsInPoint "/d/sub/.." = false := by decide
  have leaf : namesDirectory "/d/sub/.." = false := by decide
  have missing : volume.makeDirectory "/d/sub/.." = .error .notFound := by
    rw [makeDirectory, placeOf_of_accepts (by decide) (by decide), parts, absolute, point]
    simp [walk, there, free, short, shortSub, bind, Except.bind]
  have made : volume.makeDirectory "/d/sub" = .ok (volume.put ["d", "sub"] .directory) := by
    have partsSub : components "/d/sub" = ["d", "sub"] := by decide
    have absoluteSub : isAbsolute "/d/sub" = true := by decide
    have pointSub : endsInPoint "/d/sub" = false := by decide
    rw [makeDirectory, placeOf_of_accepts (by decide) (by decide), partsSub, absoluteSub, pointSub]
    simp [walk, there, free, short, shortSub, bind, Except.bind]
  have taken : (volume.put ["d", "sub"] .directory).makeDirectory "/d/sub/.." = .error .taken := by
    rw [makeDirectory, placeOf_of_accepts (by decide) (by decide), parts, absolute, point]
    simp [walk, there, short, shortSub, bind, Except.bind]
  have present : (volume.put ["d", "sub"] .directory).isDirectory "/d/sub/.." = true := by
    rw [isDirectory, Volume.find, resolve_of_accepts (by decide) (by decide), walk.steps, parts,
      absolute, leaf]
    simp [walk, there, short, shortSub, bind, Except.bind]
  have text : ofComponents true ["d", "sub"] = "/d/sub" := by decide
  rw [makeDirectories, if_neg (by decide), absolute, parts]
  simp [makeBelow, makeTree, missing, text, made, taken, present]

theorem find_detour_missing (there : volume.node? ["d"] = some .directory)
    (free : volume.node? ["d", "sub"] = none) (follow : Bool) :
    volume.find follow "/d/sub/.." = .error .notFound := by
  obtain ⟨short, shortSub⟩ := short_detour
  have steps : walk.steps "/d/sub/.." = ["d", "sub", ".."] := by decide
  have absolute : isAbsolute "/d/sub/.." = true := by decide
  rw [Volume.find, resolve_of_accepts (by decide) (by decide), steps, absolute]
  simp [walk, there, free, short, shortSub, bind, Except.bind]

theorem find_detour (there : volume.node? ["d"] = some .directory)
    (made : volume.node? ["d", "sub"] = some .directory) (follow : Bool) :
    volume.find follow "/d/sub/.." = .ok (["d"], .directory) := by
  obtain ⟨short, shortSub⟩ := short_detour
  have steps : walk.steps "/d/sub/.." = ["d", "sub", ".."] := by decide
  have absolute : isAbsolute "/d/sub/.." = true := by decide
  rw [Volume.find, resolve_of_accepts (by decide) (by decide), steps, absolute]
  simp [walk, there, made, short, shortSub, bind, Except.bind]

end ClusterArchive.Volume
