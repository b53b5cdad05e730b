import ClusterArchive.Store

/-! Pruning of a destination, by age and then by count. Each phase works on the archives that are
listed when it begins; the first deletion that fails ends the run. -/

namespace ClusterArchive

/-- How long and how many archives are kept; a limit that is not given does not hold. -/
structure RetentionPolicy where
  maxAgeDays : Option Nat
  maxCount : Option Nat
deriving DecidableEq, Repr

namespace RetentionPolicy

def purgeAll : RetentionPolicy := ⟨none, some 0⟩

def isUnbounded (policy : RetentionPolicy) : Bool := policy.maxAgeDays.isNone && policy.maxCount.isNone

/-- Archives modified before this instant are too old. A limit that reaches back before the first
instant makes no archive too old. -/
def cutoff? (policy : RetentionPolicy) (now : Instant) : Option Instant :=
  policy.maxAgeDays.bind now.minusDays?

end RetentionPolicy

structure CleanupReport where
  deletedByAge : List String
  deletedByCount : List String
  retained : Nat
deriving DecidableEq, Repr

def CleanupReport.deleted (report : CleanupReport) : Nat :=
  report.deletedByAge.length + report.deletedByCount.length

namespace Store

/-- Deletes archives one after the other; the result names those that were there. -/
def deleteEach (store : Store) (volume : Volume) :
    List String → Except RunError (List String) × Volume
  | [] => (.ok [], volume)
  | name :: rest =>
    match store.delete volume name with
    | .error error => (.error error, volume)
    | .ok (deleted, volume) =>
      match store.deleteEach volume rest with
      | (.error error, volume) => (.error error, volume)
      | (.ok names, volume) => (.ok (if deleted then name :: names else names), volume)

def expired (archives : List ArchiveInfo) (cutoff : Instant) : List String :=
  (archives.filter fun archive => archive.modified.before cutoff).map (·.name)

def pruneByAge (store : Store) (volume : Volume) (cutoff : Instant) :
    Except RunError (List String) × Volume :=
  match store.list volume with
  | .error error => (.error error, volume)
  | .ok archives => store.deleteEach volume (expired archives cutoff)

/-- Deletes the first archives while there are more than `most`. -/
def pruneByCount (store : Store) (volume : Volume) (most : Nat) (archives : List ArchiveInfo) :
    Except RunError (List String) × Volume :=
  store.deleteEach volume ((archives.take (archives.length - most)).map (·.name))

def prune (store : Store) (policy : RetentionPolicy) (now : Instant) (volume : Volume) :
    Except RunError CleanupReport × Volume :=
  let (aged, volume) := match policy.cutoff? now with
    | some cutoff => store.pruneByAge volume cutoff
    | none => (.ok [], volume)
  match aged with
  | .error error => (.error error, volume)
  | .ok byAge =>
    match store.list volume with
    | .error error => (.error error, volume)
    | .ok archives =>
      match policy.maxCount with
      | none => (.ok ⟨byAge, [], archives.length⟩, volume)
      | some most =>
        match store.pruneByCount volume most archives with
        | (.error error, volume) => (.error error, volume)
        | (.ok byCount, volume) => (.ok ⟨byAge, byCount, min archives.length most⟩, volume)

end Store

end ClusterArchive
