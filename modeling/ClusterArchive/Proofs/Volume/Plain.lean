import ClusterArchive.Proofs.Volume.Tree

/-! Volumes without links. There an absolute path leads straight down. -/

namespace ClusterArchive.Volume

open ClusterArchive.Path

variable {volume : Volume} {path : String} {location : Location}

theorem LinkFree.of_nodes
    (plain : ∀ location target, (location, .symlink target) ∉ volume.nodes) : volume.LinkFree [] := by
  intro location target found
  rw [List.nil_append, node?] at found
  split at found
  next => cases found
  next => exact plain location target (Assoc.mem_of_get? found)
/-- An absolute path with a last step, none of which goes up. -/
structure IsPlain (path : String) (location : Location) : Prop where
  absolute : isAbsolute path = true
  parts : components path = location
  leaf : namesDirectory path = false
  down : ".." ∉ location
  somewhere : location ≠ []
  accepts : Accepts path
  short : ∀ step ∈ location, step.utf8ByteSize ≤ nameLimit

instance (path : String) (location : Location) : Decidable (IsPlain path location) :=
  decidable_of_iff
    (isAbsolute path = true ∧ components path = location ∧ namesDirectory path = false ∧
      ".." ∉ location ∧ location ≠ [] ∧ Accepts path ∧
      ∀ step ∈ location, step.utf8ByteSize ≤ nameLimit)
    ⟨fun ⟨absolute, parts, leaf, down, somewhere, accepts, short⟩ =>
      ⟨absolute, parts, leaf, down, somewhere, accepts, short⟩,
      fun is => ⟨is.absolute, is.parts, is.leaf, is.down, is.somewhere, is.accepts, is.short⟩⟩

theorem IsPlain.resolve (plain : IsPlain path location) (linkFree : volume.LinkFree [])
    (directories : volume.Directories [] location.dropLast) (follow : Bool) :
    volume.resolve follow path = .ok location := by
  have nonempty : path ≠ "" := by
    rintro rfl
    exact absurd plain.absolute (by decide)
  have straight : ∀ step ∈ location, step ≠ "." ∧ step ≠ ".." := by
    intro step member
    refine ⟨(isStep_of_mem_components path step (plain.parts ▸ member)).2.1, ?_⟩
    rintro rfl
    exact plain.down member
  rw [resolve_of_accepts plain.accepts nonempty, walk.steps, plain.parts, plain.leaf, plain.absolute]
  simp only [if_true, Bool.false_eq_true, if_false, List.append_nil]
  rw [walk_eq_descend linkFree follow linkLimit straight, descend_eq_ok]
  exact ⟨rfl, plain.short, directories⟩

theorem IsPlain.find (plain : IsPlain path location) (linkFree : volume.LinkFree [])
    (directories : volume.Directories [] location.dropLast) (follow : Bool) :
    volume.find follow path = match volume.node? location with
      | some node => .ok (location, node)
      | none => .error .notFound := by
  rw [Volume.find, plain.resolve linkFree directories follow]
  rfl

theorem IsPlain.makeDirectory (plain : IsPlain path location) (volume : Volume) :
    volume.makeDirectory path = (volume.resolve false path).bind fun location =>
      if (volume.node? location).isSome then .error .taken
      else .ok (volume.put location .directory) := by
  rw [Volume.makeDirectory, placeOf_of_leaf plain.leaf (plain.parts ▸ plain.somewhere)]
  rfl

theorem IsPlain.makeDirectories_present (plain : IsPlain path location)
    (linkFree : volume.LinkFree []) (directories : volume.Directories [] location) :
    volume.makeDirectories path = (.ok (), volume) := by
  have above : volume.Directories [] location.dropLast :=
    fun start some_ isStart => directories start some_ (isStart.trans (List.dropLast_prefix _))
  have present : volume.node? location = some .directory := by
    simpa using directories location plain.somewhere (List.prefix_refl _)
  have taken : volume.makeDirectory path = .error .taken := by
    rw [plain.makeDirectory, plain.resolve linkFree above]
    simp [Except.bind, present]
  have isThere : volume.isDirectory path = true := by
    rw [isDirectory, plain.find linkFree above, present]
  have nonempty : path ≠ "" := by
    rintro rfl
    exact absurd plain.absolute (by decide)
  rw [makeDirectories, if_neg nonempty, makeBelow, taken]
  simp [isThere]

end ClusterArchive.Volume
