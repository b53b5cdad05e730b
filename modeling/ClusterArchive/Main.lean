import ClusterArchive.CommandLine.Program
import Std.Time.DateTime.Timestamp

/-! The program at a terminal. It works on a picture of the destination's directory, in which files
have their sizes alone; the files that are then missing from the picture are deleted. -/

namespace ClusterArchive.CommandLine.Terminal

def instantOf (t : IO.FS.SystemTime) : Instant := ⟨t.sec, t.nsec.toNat⟩

/-- A member of a directory, as a picture shows it; links and devices are left out. -/
def nodeOf (entry : IO.FS.DirEntry) : IO (Option Node) := do
  let found ← entry.path.symlinkMetadata
  match found.type with
  | .file => return some (.file ⟨[], found.byteSize.toNat⟩ (instantOf found.modified))
  | .dir => return some .directory
  | _ => return none

def withDirectory (volume : Volume) (path : String) : Volume :=
  (volume.makeTree (Path.isAbsolute path) (Path.components path).reverse).2

def picture (path : String) : IO Volume := do
  let empty : Volume := ⟨[], Path.components (← IO.currentDir).toString⟩
  let found ← try some <$> IO.FS.realPath path catch _ => pure none
  match found with
  | none => return empty
  | some place =>
    if ← place.isDir then
      let volume := withDirectory empty path
      let location := (volume.resolve true path).toOption.getD []
      (← place.readDir).foldlM (fun volume entry => do
        match ← nodeOf entry with
        | some node => return volume.put (location ++ [entry.fileName]) node
        | none => return volume) volume
    else
      let volume := withDirectory empty (Path.parent path)
      return (volume.writeFile path default default).toOption.getD volume

/-- The names of the files that are in one picture of a directory and not in a later one. -/
def vanished (path : String) (before after : Volume) : List String :=
  match before.readDirectory path with
  | .ok members => (members.map (·.1)).filter fun name =>
      (after.find false (Path.join path name)).toOption.isNone
  | .error _ => []

def clock : IO Instant := do
  let t ← Std.Time.Timestamp.now
  let nanos := t.toNanosecondsSinceUnixEpoch.val
  return ⟨nanos / Instant.nanosPerSecond, (nanos % Instant.nanosPerSecond).toNat⟩

def answer : Step Unit → IO (Outcome Unit)
  | .finished outcome => return outcome
  | .question prompt next => do
    IO.print prompt
    (← IO.getStdout).flush
    return next (← (← IO.getStdin).getLine)

def report (outcome : Outcome Unit) : IO UInt32 := do
  outcome.lines.forM (IO.println ·)
  match outcome.ending with
  | .done => pure ()
  | .failed message => IO.eprintln ("Error: " ++ message)
  | .misused => IO.eprintln Program.usageLine
  return outcome.ending.exitCode.toUInt32

end ClusterArchive.CommandLine.Terminal

open ClusterArchive ClusterArchive.CommandLine in
def main (words : List String) : IO UInt32 := do
  let environment ← Invocation.variableNames.filterMapM fun name => do
    return (← IO.getEnv name).map fun value => (name, value)
  let lookup (name : String) : Option String := environment.lookup name
  let path := (Program.directory? lookup words).getD ""
  let volume ← Terminal.picture path
  let now ← Terminal.clock
  let setting : Setting Unit := ⟨lookup, ⟨fun _ => (false, ()), fun _ => (now, ())⟩, none⟩
  let outcome ← Terminal.answer (Program.run setting words ⟨volume, [], default, ()⟩)
  for name in Terminal.vanished path volume outcome.world.volume do
    IO.FS.removeFile (Path.join path name)
  Terminal.report outcome
