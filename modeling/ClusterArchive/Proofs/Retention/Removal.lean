import ClusterArchive.Proofs.Retention.Chronology

/-! What pruning takes from a volume, also where a deletion fails on the way: archives of its directory
and nothing else. A report counts all of them. -/

namespace ClusterArchive

open Volume

def Volume.gone (before after : Volume) : List Location :=
  (before.nodes.map (·.1)).filter fun location => (after.node? location).isNone

def Store.IsArchiveAt (store : Store) (volume : Volume) (location : Location) : Prop :=
  ∃ place name contents modified, volume.find true store.directory = .ok (place, .directory) ∧
    location = place ++ [name] ∧ store.isArchiveName name = true ∧
    volume.node? location = some (.file contents modified)

namespace Volume

variable {volume : Volume} {place : Location} {names : List String}

theorem mem_keys (wellFormed : volume.WellFormed) {location : Location} (below : location ≠ []) :
    location ∈ volume.nodes.map (·.1) ↔ (volume.node? location).isSome := by
  have there : volume.node? location = Assoc.get? location volume.nodes := if_neg below
  rw [there, List.mem_map, Option.isSome_iff_exists]
  constructor
  · rintro ⟨⟨_, node⟩, entry, rfl⟩
    exact ⟨node, wellFormed.ascending.get?_of_mem entry⟩
  · rintro ⟨node, found⟩
    exact ⟨_, Assoc.mem_of_get? found, rfl⟩

theorem gone_dropAll (wellFormed : volume.WellFormed) (place : Location) (once : names.Nodup)
    (there : ∀ name ∈ names, (volume.node? (place ++ [name])).isSome) :
    (volume.gone (volume.dropAll place names)).Perm (names.map fun name => place ++ [name]) := by
  have onceGone : (volume.gone (volume.dropAll place names)).Nodup :=
    wellFormed.ascending.nodup_keys.filter _
  have onceNames : (names.map fun name => place ++ [name]).Nodup :=
    once.map fun a b same => List.singleton_inj.mp (List.append_cancel_left same)
  refine (List.perm_ext_iff_of_nodup onceGone onceNames).mpr fun location => ?_
  rw [gone, List.mem_filter, List.mem_map (f := fun name => place ++ [name]),
    Option.isNone_iff_eq_none, node?_dropAll]
  constructor
  · rintro ⟨key, absent⟩
    split at absent
    next dropped => exact dropped
    next =>
      have below : location ≠ [] := ne_nil_of_node? absent (by simp)
      have stored := (mem_keys wellFormed below).mp key
      simp [absent] at stored
  · rintro ⟨name, member, rfl⟩
    exact ⟨(mem_keys wellFormed (by simp)).mpr (there name member), if_pos ⟨name, member, rfl⟩⟩

theorem gone_self (wellFormed : volume.WellFormed) : volume.gone volume = [] := by
  have none_ := gone_dropAll wellFormed [] List.nodup_nil (by simp)
  exact none_.eq_nil

theorem WellFormed.dropAll (wellFormed : volume.WellFormed)
    (others : ∀ name ∈ names, volume.node? (place ++ [name]) ≠ some .directory) :
    (volume.dropAll place names).WellFormed := by
  induction names generalizing volume with
  | nil => exact wellFormed
  | cons name rest ih =>
    rw [List.forall_mem_cons] at others
    refine ih (wellFormed.drop others.1) fun other member => ?_
    rw [node?_drop volume (by simp)]
    split
    next => simp
    next => exact others.2 other member

end Volume

namespace Store

variable {store : Store} {volume : Volume} {place : Location} {archives doomed : List ArchiveInfo}

/-- How deletions end. Some archives are gone, and a success names all of them. -/
structure Deletes (place : Location) (archives : List ArchiveInfo) (volume : Volume)
    (run : Except RunError (List String) × Volume) (done : List ArchiveInfo) : Prop where
  part : done.Sublist archives
  left : run.2 = volume.dropAll place (done.map (·.name))
  named : ∀ names, run.1 = .ok names → names = done.map (·.name)

theorem Listing.deletes (listing : Listing store volume place archives)
    (part : doomed.Sublist archives) :
    ∃ done, Deletes place archives volume (store.deleteEach volume (doomed.map (·.name))) done := by
  have once := nodup_names listing.ascending
  obtain ⟨done, rest, outcome, rfl, deleted, ends⟩ :=
    listing.deleteEach_front (fun _ member => part.subset member) (once.sublist (part.map _))
  rw [deleted]
  refine ⟨done, (List.sublist_append_left ..).trans part, rfl, fun names is => ?_⟩
  rcases ends with ⟨-, rfl⟩ | ⟨error, rfl⟩
  · exact (Except.ok.inj is).symm
  · cases is

theorem Listing.aged (listing : Listing store volume place archives) (policy : RetentionPolicy)
    (now : Instant) : ∃ done, Deletes place archives volume
      ((policy.cutoff? now).elim (.ok [], volume) (store.pruneByAge volume)) done := by
  cases policy.cutoff? now with
  | none => exact ⟨[], List.nil_sublist _, rfl, fun names is => (Except.ok.inj is).symm⟩
  | some cutoff =>
    rw [Option.elim_some, pruneByAge, listing.listed]
    exact listing.deletes List.filter_sublist

theorem Listing.counted (listing : Listing store volume place archives) (most : Nat) :
    ∃ done, Deletes place archives volume (store.pruneByCount volume most archives) done :=
  listing.deletes (List.take_sublist _ _)

/-- What is taken from the rest of a listing is not what was taken before. -/
theorem Listing.apart_of_left (listing : Listing store volume place archives) {more : List ArchiveInfo}
    (part : doomed.Sublist archives)
    (rest : more.Sublist (archives.filter fun other => other.name ∉ doomed.map (·.name))) :
    (∀ info ∈ doomed ++ more, info ∈ archives) ∧ ((doomed ++ more).map (·.name)).Nodup := by
  have once := nodup_names listing.ascending
  refine ⟨fun info member => ?_, ?_⟩
  · rcases List.mem_append.mp member with taken | left
    · exact part.subset taken
    · exact (List.mem_filter.mp (rest.subset left)).1
  · rw [List.map_append, List.nodup_append]
    refine ⟨once.sublist (part.map _), once.sublist ((rest.trans List.filter_sublist).map _), ?_⟩
    rintro name taken _ left rfl
    obtain ⟨info, member, rfl⟩ := List.mem_map.mp left
    simpa [taken] using (List.mem_filter.mp (rest.subset member)).2

theorem Listing.prune_done (listing : Listing store volume place archives) (policy : RetentionPolicy)
    (now : Instant) :
    let run := store.prune policy now volume
    ∃ done : List ArchiveInfo, (∀ info ∈ done, info ∈ archives) ∧ (done.map (·.name)).Nodup ∧
      run.2 = volume.dropAll place (done.map (·.name)) ∧
      ∀ report, run.1 = .ok report → report.deleted = done.length := by
  have once := nodup_names listing.ascending
  obtain ⟨old, part, left, named⟩ := listing.aged policy now
  have members : ∀ info ∈ old, info ∈ archives := fun _ member => part.subset member
  have apart := once.sublist (part.map _)
  rw [prune_eq]
  generalize (policy.cutoff? now).elim (.ok [], volume) (store.pruneByAge volume) = first at *
  obtain ⟨outcome, aged⟩ := first
  dsimp only at left named
  subst left
  cases outcome with
  | error error => exact ⟨old, members, apart, rfl, by simp⟩
  | ok byAge =>
    obtain rfl := named byAge rfl
    have young := listing.withoutAll members apart
    simp only [young.listed]
    cases policy.maxCount with
    | none => exact ⟨old, members, apart, rfl, by simp [CleanupReport.deleted]⟩
    | some most =>
      obtain ⟨excess, partLeft, left, named⟩ := young.counted most
      dsimp only
      generalize store.pruneByCount _ most _ = second at *
      obtain ⟨outcome, after⟩ := second
      dsimp only at left named
      subst left
      obtain ⟨within, apart⟩ := listing.apart_of_left part partLeft
      refine ⟨old ++ excess, within, apart, ?_, ?_⟩
      · rw [List.map_append, dropAll_append]
        cases outcome <;> rfl
      · cases outcome with
        | error error => simp
        | ok byCount =>
          obtain rfl := named byCount rfl
          simp [CleanupReport.deleted]

structure TakesArchives (store : Store) (volume : Volume) (outcome : Except RunError CleanupReport)
    (after : Volume) : Prop where
  wellFormed : after.WellFormed
  archives : ∀ location ∈ volume.gone after, store.IsArchiveAt volume location
  counted : ∀ report, outcome = .ok report → report.deleted = (volume.gone after).length

theorem takes_nothing (wellFormed : volume.WellFormed) {outcome : Except RunError CleanupReport}
    (none_ : ∀ report, outcome = .ok report → report.deleted = 0) :
    TakesArchives store volume outcome volume where
  wellFormed := wellFormed
  archives := by simp [gone_self wellFormed]
  counted := by simpa [gone_self wellFormed] using none_

theorem Listing.takes (listing : Listing store volume place archives) (policy : RetentionPolicy)
    (now : Instant) :
    TakesArchives store volume (store.prune policy now volume).1 (store.prune policy now volume).2 := by
  obtain ⟨done, within, once, after, all⟩ := listing.prune_done policy now
  have files : ∀ name ∈ done.map (·.name), store.isArchiveName name = true ∧ ∃ contents modified,
      volume.node? (place ++ [name]) = some (.file contents modified) := by
    intro name member
    obtain ⟨info, isDone, rfl⟩ := List.mem_map.mp member
    obtain ⟨contents, found, isArchive, -⟩ := listing.mem.mp (within info isDone)
    exact ⟨isArchive, contents, _, found⟩
  have gone := gone_dropAll listing.wellFormed place once fun name member => by
    obtain ⟨-, contents, modified, found⟩ := files name member
    simp [found]
  rw [after]
  refine ⟨listing.wellFormed.dropAll fun name member => ?_, fun location member => ?_,
    fun report succeeded => ?_⟩
  · obtain ⟨-, contents, modified, found⟩ := files name member
    simp [found]
  · obtain ⟨name, named, rfl⟩ := List.mem_map.mp (gone.mem_iff.mp member)
    obtain ⟨isArchive, contents, modified, found⟩ := files name named
    exact ⟨place, name, contents, modified, listing.leads, rfl, isArchive, found⟩
  · rw [all report succeeded, gone.length_eq, List.length_map, List.length_map]

theorem prune_unlisted {error : RunError} (policy : RetentionPolicy) (now : Instant)
    (unlisted : store.list volume = .error error) :
    store.prune policy now volume = (.error error, volume) := by
  rw [prune_eq]
  cases policy.cutoff? now <;> simp [pruneByAge, unlisted]

/-- Pruning takes archives, and reports all that it took. It takes nothing where nothing is listed. -/
theorem prune_takes (wellFormed : volume.WellFormed) (policy : RetentionPolicy) (now : Instant) :
    TakesArchives store volume (store.prune policy now volume).1 (store.prune policy now volume).2 := by
  cases listed : store.list volume with
  | error error =>
    rw [prune_unlisted policy now listed]
    exact takes_nothing wellFormed (by simp)
  | ok archives =>
    rcases list_cases listed with ⟨place, leads, _⟩ | ⟨_, rfl⟩
    · exact Listing.takes ⟨wellFormed, leads, listed⟩ policy now
    · rw [prune_nothing policy now listed]
      exact takes_nothing wellFormed (by simp [CleanupReport.deleted])

end Store

end ClusterArchive
