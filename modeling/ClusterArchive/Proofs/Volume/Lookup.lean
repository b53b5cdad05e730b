import ClusterArchive.Proofs.Volume.Tree

/-! Where paths lead while files change. What is written to a file does not change the way to it, and
a link is followed only where one is. -/

namespace ClusterArchive.Volume

theorem put_put (volume : Volume) (location : Location) (first second : Node) :
    (volume.put location first).put location second = volume.put location second := by
  simp [Volume.put]

theorem drop_put {volume : Volume} {location : Location} (free : volume.node? location = none)
    (node : Node) : (volume.put location node).drop location = volume := by
  have absent : Assoc.get? location volume.nodes = none := by
    unfold node? at free
    split at free
    next => cases free
    next => exact free
  simp [Volume.put, Volume.drop, Assoc.erase_insert absent]

theorem keeps_put {volume : Volume} {location : Location} (free : volume.node? location = none)
    (node : Node) : Keeps volume (volume.put location node) where
  nodes := by
    intro place other found
    have below : location ≠ [] := ne_nil_of_node? free (by simp)
    rw [node?_put volume below, if_neg, found]
    rintro rfl
    rw [free] at found
    cases found
  workingDirectory := rfl

theorem walk_put_file {volume : Volume} {location : Location} {contents other : Contents}
    {modified later : Instant} (file : volume.node? location = some (.file contents modified))
    (follow : Bool) (links : Nat) (place : Location) (steps : List String) :
    (volume.put location (.file other later)).walk follow links place steps =
      volume.walk follow links place steps := by
  have below : location ≠ [] := ne_nil_of_node? file (by simp)
  have same (next : Location) (apart : ∀ contents modified,
      volume.node? next ≠ some (.file contents modified)) :
      (volume.put location (.file other later)).node? next = volume.node? next := by
    rw [node?_put volume below, if_neg]
    rintro rfl
    exact apart contents modified file
  fun_induction volume.walk follow links place steps with
  | case1 => rw [walk]
  | case2 links place steps ih => rwa [walk_here]
  | case3 links place steps other ih => rwa [walk_up]
  | case4 links place step steps here up long =>
    rw [walk]
    simp [here, up, long]
  | case5 links place step steps here up short next absent last
  | case6 links place step steps here up short next absent last =>
    rw [walk]
    simp [here, up, short, same next (by simp [absent]), absent, last, next]
  | case7 links place step steps here up short next found ih =>
    have kept : (volume.put location (.file other later)).node? next = _ :=
      (same next (by simp [found])).trans found
    rwa [walk_down ⟨here, up, Nat.not_lt.mp short⟩ kept]
  | case8 links place step steps here up short next old since found last
  | case9 links place step steps here up short next old since found last =>
    rw [walk]
    by_cases there : location = next
    · simp [here, up, short, there, last, next]
    · have kept : (volume.put location (.file other later)).node? next =
          some (.file old since) := by
        rw [node?_put volume below, if_neg there, found]
      simp [here, up, short, kept, last, next]
  | case10 links place step steps here up short next target found last
  | case11 place step steps here up short next target found last =>
    rw [walk]
    have kept : (volume.put location (.file other later)).node? next = _ :=
      (same next (by simp [found])).trans found
    simp [here, up, short, kept, last, next]
  | case12 place step steps here up short next target found further links start ih =>
    have kept : (volume.put location (.file other later)).node? next = _ :=
      (same next (by simp [found])).trans found
    rwa [walk_link ⟨here, up, Nat.not_lt.mp short⟩ kept (by simpa using further)]

theorem find_eq_ok {volume : Volume} {follow : Bool} {path : String} {location : Location} {node : Node} :
    volume.find follow path = .ok (location, node) ↔
      volume.resolve follow path = .ok location ∧ volume.node? location = some node := by
  unfold Volume.find
  cases volume.resolve follow path with
  | error error => simp [bind, Except.bind]
  | ok place =>
    constructor
    · intro found
      cases there : volume.node? place with
      | none => simp [there, bind, Except.bind] at found
      | some other =>
        simp only [there, bind, Except.bind, Except.ok.injEq, Prod.mk.injEq] at found
        obtain ⟨rfl, rfl⟩ := found
        exact ⟨rfl, there⟩
    · rintro ⟨same, there⟩
      obtain rfl := Except.ok.inj same
      simp [there, bind, Except.bind]

theorem walk_follow {volume : Volume} {location : Location}
    (plain : ∀ target, volume.node? location ≠ some (.symlink target)) {links : Nat}
    {place : Location} {steps : List String}
    (reached : volume.walk false links place steps = .ok location) :
    volume.walk true links place steps = .ok location := by
  rw [walk_eq_ok] at reached ⊢
  induction reached with
  | arrived links place => exact .arrived links place
  | here later ih => exact .here (ih plain)
  | up later ih => exact .up (ih plain)
  | last links move ends => exact .last links move fun _ => plain
  | down move directory later ih => exact .down move directory (ih plain)
  | link move link further later ih => exact .link move link (fun _ => rfl) (ih plain)

/-- A file is found at its path whether or not links are followed. -/
theorem find_follow {volume : Volume} {path : String} {location : Location} {contents : Contents}
    {modified : Instant} (found : volume.find false path = .ok (location, .file contents modified)) :
    volume.find true path = .ok (location, .file contents modified) := by
  obtain ⟨resolved, file⟩ := find_eq_ok.mp found
  refine find_eq_ok.mpr ⟨?_, file⟩
  obtain ⟨accepts, nonempty⟩ := resolve_ok resolved
  rw [resolve_of_accepts accepts nonempty] at resolved ⊢
  exact walk_follow (by simp [file]) resolved

theorem resolve_put_file {volume : Volume} {location : Location} {contents other : Contents}
    {modified later : Instant} (file : volume.node? location = some (.file contents modified))
    (follow : Bool) (path : String) :
    (volume.put location (.file other later)).resolve follow path = volume.resolve follow path := by
  unfold resolve
  rw [walk_put_file file]
  rfl

theorem find_put_file {volume : Volume} {follow : Bool} {path : String} {location : Location}
    {contents other : Contents} {modified later : Instant}
    (found : volume.find follow path = .ok (location, .file contents modified)) :
    (volume.put location (.file other later)).find follow path = .ok (location, .file other later) := by
  obtain ⟨resolved, file⟩ := find_eq_ok.mp found
  have below : location ≠ [] := ne_nil_of_node? file (by simp)
  exact find_eq_ok.mpr ⟨(resolve_put_file file follow path).trans resolved, by simp [below]⟩

end ClusterArchive.Volume
