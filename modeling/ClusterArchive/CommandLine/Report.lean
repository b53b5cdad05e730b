import ClusterArchive.Decimal.Binary64
import ClusterArchive.Engine.Basic
import ClusterArchive.Retention
import ClusterArchive.Text.Table
import ClusterArchive.Time.Rfc3339

/-! What the program prints about archives and runs, as lines. -/

namespace ClusterArchive.CommandLine

/-- Units above the byte, the largest first. -/
def sizeUnits : List (Nat × String) :=
  [(Nat.pow 2 40, "TB"), (Nat.pow 2 30, "GB"), (Nat.pow 2 20, "MB"), (Nat.pow 2 10, "KB")]

/-- A binary64 number of bytes in its largest unit, with one decimal place; a tie goes to the even
digit. Below the first unit it stands as it is. -/
def sizeText (bytes : Nat) : String :=
  match sizeUnits.find? (·.1 ≤ bytes) with
  | none => toString bytes ++ " B"
  | some (unit, name) =>
    let x := Binary64.ofNat bytes
    let tenths := Binary64.roundQuotient (10 * x.significand * Nat.pow 2 x.exponent)
      (unit * Nat.pow 2 1074)
    toString (tenths / 10) ++ "." ++ toString (tenths % 10) ++ " " ++ name

def timeText (t : Instant) : String :=
  String.ofList (Rfc3339.dateText ['-'] t.date ++ [' '] ++ Rfc3339.clockText [':'] t)

def archiveRow (archive : ArchiveInfo) : List String :=
  [archive.name, sizeText archive.size, timeText archive.modified]

def archiveLines (archives : List ArchiveInfo) : List String :=
  if archives.isEmpty then ["No archives found"]
  else Text.Table.lines (["Archive", "Size", "Modified"] :: archives.map archiveRow)

def cleanupLines (report : CleanupReport) : List String :=
  ((report.deletedByAge ++ report.deletedByCount).map fun name => "  deleted " ++ name) ++
    ["✓ Deleted " ++ toString report.deleted ++ " archives, " ++ toString report.retained ++
      " retained"]

def backupLines (result : BackupResult) : List String :=
  ["✓ Backup written to " ++ result.archivePath,
    "  Objects: " ++ toString result.objectCount,
    "  Size: " ++ sizeText result.archiveSize,
    "  SHA-256: " ++ result.sha256,
    "  Duration: " ++ toString result.durationMillis ++ "ms"]

def restoreLines (result : RestoreResult) : List String :=
  ["✓ Restored " ++ toString result.applied ++ " objects from " ++ result.archiveName ++ " (" ++
    toString result.created ++ " created, " ++ toString result.updated ++ " updated)"]

end ClusterArchive.CommandLine
