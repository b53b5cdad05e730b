import ClusterArchive.Proofs.Volume.Way

/-! Files that are removed. No way leads through a file, so every path that led somewhere still leads
there, and all but the file is found as before. -/

namespace ClusterArchive.Volume

variable {volume : Volume} {location : Location} {contents : Contents} {modified : Instant}

theorem node?_drop (volume : Volume) (below : location ≠ []) (other : Location) :
    (volume.drop location).node? other = if location = other then none else volume.node? other := by
  unfold node? Volume.drop
  by_cases top : other = []
  · simp [top, below]
  · simp [top]

theorem walk_drop_file (file : volume.node? location = some (.file contents modified)) {follow : Bool}
    {links : Nat} {place found : Location} {steps : List String}
    (reached : volume.walk follow links place steps = .ok found) :
    (volume.drop location).walk follow links place steps = .ok found := by
  have below : location ≠ [] := ne_nil_of_node? file (by simp)
  have kept {next : Location} {node : Node} (found : volume.node? next = some node)
      (other : ∀ contents modified, node ≠ .file contents modified) :
      (volume.drop location).node? next = some node := by
    rw [node?_drop volume below, if_neg, found]
    rintro rfl
    exact other contents modified (Option.some.inj (found.symm.trans file))
  rw [walk_eq_ok] at reached ⊢
  induction reached with
  | arrived links place => exact .arrived links place
  | here later ih => exact .here ih
  | up later ih => exact .up ih
  | last links move ends =>
    -- At the end of a way it makes no difference whether the file is there.
    refine .last links move fun follows target => ?_
    rw [node?_drop volume below]
    split
    next => simp
    next => exact ends follows target
  | down move directory later ih => exact .down move (kept directory (by simp)) ih
  | link move link further later ih => exact .link move (kept link (by simp)) further ih

theorem find_drop_file (file : volume.node? location = some (.file contents modified)) {follow : Bool}
    {path : String} {place : Location} {node : Node}
    (found : volume.find follow path = .ok (place, node)) (apart : location ≠ place) :
    (volume.drop location).find follow path = .ok (place, node) := by
  obtain ⟨resolved, there⟩ := find_eq_ok.mp found
  obtain ⟨accepts, nonempty⟩ := resolve_ok resolved
  have below : location ≠ [] := ne_nil_of_node? file (by simp)
  refine find_eq_ok.mpr ⟨?_, by rw [node?_drop volume below, if_neg apart, there]⟩
  rw [resolve_of_accepts accepts nonempty] at resolved ⊢
  exact walk_drop_file file resolved

theorem WellFormed.drop (wellFormed : volume.WellFormed)
    (other : volume.node? location ≠ some .directory) : (volume.drop location).WellFormed := by
  have below : location ≠ [] := by
    rintro rfl
    exact other (node?_nil volume)
  have kept {place : Location} (directory : volume.node? place = some .directory) :
      (volume.drop location).node? place = some .directory := by
    rw [node?_drop volume below, if_neg, directory]
    rintro rfl
    exact other directory
  refine ⟨wellFormed.ascending.erase location, ?_, kept wellFormed.working⟩
  intro place node found
  rw [node?_drop volume below] at found
  split at found
  next => cases found
  next => exact kept (wellFormed.above place node found)

def dropAll (volume : Volume) (place : Location) (names : List String) : Volume :=
  names.foldl (fun volume name => volume.drop (place ++ [name])) volume

theorem node?_dropAll (volume : Volume) (place : Location) (names : List String) (other : Location) :
    (volume.dropAll place names).node? other =
      if ∃ name ∈ names, place ++ [name] = other then none else volume.node? other := by
  induction names generalizing volume with
  | nil => simp [dropAll]
  | cons name rest ih =>
    have step : volume.dropAll place (name :: rest) =
        (volume.drop (place ++ [name])).dropAll place rest := rfl
    rw [step, ih, node?_drop volume (by simp)]
    by_cases first : place ++ [name] = other <;> simp [first]

theorem dropAll_append (volume : Volume) (place : Location) (first second : List String) :
    volume.dropAll place (first ++ second) = (volume.dropAll place first).dropAll place second :=
  List.foldl_append ..

theorem keeps_dropAll (volume : Volume) (place : Location) (names : List String) :
    Keeps (volume.dropAll place names) volume where
  nodes := by
    intro location node found
    rw [node?_dropAll] at found
    split at found
    next => cases found
    next => exact found
  workingDirectory := by
    induction names generalizing volume with
    | nil => rfl
    | cons name rest ih => exact ih (volume.drop (place ++ [name]))

end ClusterArchive.Volume
