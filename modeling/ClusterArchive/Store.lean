import ClusterArchive.Archive
import ClusterArchive.RunError
import ClusterArchive.Volume.Operations

/-! Archives of one extension in one directory. The directory is made on the first write; archives
are made, never replaced. -/

namespace ClusterArchive

structure Store where
  directory : String
  extension : String
deriving DecidableEq, Repr

namespace Store

def pathOf (store : Store) (name : String) : String := Path.join store.directory name

/-- Whether a file name is that of an archive: between the common prefix and the extension stands
more than a point, and a point last. -/
def isArchiveName (store : Store) (name : String) : Bool :=
  match (Text.stripPrefix? Archive.namePrefix name).bind (Text.stripSuffix? store.extension) with
  | some stem => 1 < stem.utf8ByteSize && stem.toList.getLast? = some '.'
  | none => false

/-- Archives are addressed by plain file names. -/
def checkName (name : String) : Except RunError Unit :=
  if Text.isBlankText name then .error (.validation "archive name must not be empty")
  else if name = "." ∨ name = ".." ∨ name.toList.any (fun c => c = '/' || c = '\\') then
    .error (.validation ("archive name " ++ Text.quoted name ++ " must be a plain file name"))
  else .ok ()

def storageError (action path : String) (error : FileError) : RunError :=
  .storage ("Failed to " ++ action ++ " " ++ path ++ ": " ++ error.message)

def ensureDirectory (store : Store) (volume : Volume) : Except RunError Unit × Volume :=
  let (outcome, volume) := volume.makeDirectories store.directory
  (outcome.mapError (storageError "create directory" store.directory), volume)

def info? (store : Store) : String × Node → Option ArchiveInfo
  | (name, .file contents modified) =>
    if store.isArchiveName name then some ⟨name, store.pathOf name, contents.size, modified⟩ else none
  | _ => none

/-- The archives, in the order of their names. A missing directory has none. -/
def list (store : Store) (volume : Volume) : Except RunError (List ArchiveInfo) :=
  match volume.readDirectory store.directory with
  | .ok members =>
    .ok ((members.filterMap store.info?).mergeSort fun a b => a.name ≤ b.name)
  | .error .notFound => .ok []
  | .error error => .error (storageError "read directory" store.directory error)

def ensureAvailable (store : Store) (volume : Volume) (name : String) : Except RunError Unit := do
  checkName name
  let path := store.pathOf name
  match volume.find false path with
  | .ok _ => .error (.archiveExists path)
  | .error .notFound => .ok ()
  | .error error => .error (storageError "inspect archive" path error)

/-- Makes an empty archive; the location tells where. -/
def create (store : Store) (volume : Volume) (name : String) (now : Instant) :
    Except RunError Location × Volume :=
  match checkName name with
  | .error error => (.error error, volume)
  | .ok () =>
    match store.ensureDirectory volume with
    | (.error error, volume) => (.error error, volume)
    | (.ok (), volume) =>
      let path := store.pathOf name
      match volume.createFile path (.ofBytes []) now with
      | .ok (location, volume) => (.ok location, volume)
      | .error .taken => (.error (.archiveExists path), volume)
      | .error error => (.error (storageError "create archive" path error), volume)

def «open» (store : Store) (volume : Volume) (name : String) : Except RunError Volume.Opened := do
  checkName name
  let path := store.pathOf name
  match volume.openFile path with
  | .ok opened => .ok opened
  | .error .notFound => .error (.archiveNotFound path)
  | .error error => .error (storageError "open archive" path error)

/-- Deletes an archive; tells whether there was one. -/
def delete (store : Store) (volume : Volume) (name : String) : Except RunError (Bool × Volume) := do
  checkName name
  match volume.remove (store.pathOf name) with
  | .ok volume => .ok (true, volume)
  | .error .notFound => .ok (false, volume)
  | .error error => .error (.retention name error.message)

end Store

end ClusterArchive
