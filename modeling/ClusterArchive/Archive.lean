import ClusterArchive.Text.Quoted
import ClusterArchive.Time.Rfc3339

/-! Archives at a destination and their names. The time in a name has a fixed width, so names sort in
the order of the runs that wrote them. -/

namespace ClusterArchive

structure ArchiveInfo where
  name : String
  path : String
  size : Nat
  modified : Instant
deriving DecidableEq, Repr

namespace Archive

def namePrefix : String := "cluster-backup-"

/-- Date and time of day, without separators. -/
def stamp (t : Instant) : String :=
  String.ofList (Rfc3339.dateText [] t.date ++ ['-'] ++ Rfc3339.clockText [] t)

def fileName (started : Instant) (extension : String) : String :=
  namePrefix ++ stamp started ++ "." ++ extension

end Archive

end ClusterArchive
