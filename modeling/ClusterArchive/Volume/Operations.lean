import ClusterArchive.Volume.Basic

/-! Operations on a volume by path. One that fails leaves the volume as it was, except that
directories made on the way to one that cannot be made remain. -/

namespace ClusterArchive.Volume

def isDirectory (volume : Volume) (path : String) : Bool :=
  match volume.find true path with
  | .ok (_, .directory) => true
  | _ => false

/-- The place of a directory that is to be made. A slash at the end of its path does not matter; a
point there asks for a directory that exists. -/
def placeOf (volume : Volume) (path : String) : Except FileError Location :=
  if path.toList.contains '\x00' then .error .nulByte
  else if path = "" then .error .notFound
  else if pathLimit < path.utf8ByteSize then .error .nameTooLong
  else
    let start := if Path.isAbsolute path then [] else volume.workingDirectory
    volume.walk false linkLimit start
      (Path.components path ++ if Path.endsInPoint path then ["."] else [])

def makeDirectory (volume : Volume) (path : String) : Except FileError Volume := do
  let location ← volume.placeOf path
  if (volume.node? location).isSome then .error .taken else .ok (volume.put location .directory)

/-- Makes the directory at a path, or finds it. Those above it are made only if it is not found. -/
def makeBelow (path : String) (above : Volume → Except FileError Unit × Volume) (volume : Volume) :
    Except FileError Unit × Volume :=
  let orPresent (volume : Volume) (error : FileError) : Except FileError Unit × Volume :=
    (if volume.isDirectory path then .ok () else .error error, volume)
  match volume.makeDirectory path with
  | .ok made => (.ok (), made)
  | .error .notFound =>
    match above volume with
    | (.error error, volume) => (.error error, volume)
    | (.ok (), volume) =>
      match volume.makeDirectory path with
      | .ok made => (.ok (), made)
      | .error error => orPresent volume error
  | .error error => orPresent volume error

/-- Makes the directory at the end of the steps, which come last first, and those above it. -/
def makeTree (absolute : Bool) (volume : Volume) : List String → Except FileError Unit × Volume
  | [] => (.ok (), volume)
  | name :: above => makeBelow (Path.ofComponents absolute (name :: above).reverse)
    (fun volume => makeTree absolute volume above) volume

@[irreducible] def makeDirectories (volume : Volume) (path : String) : Except FileError Unit × Volume :=
  if path = "" then (.ok (), volume)
  else
    makeBelow path
      (fun volume => makeTree (Path.isAbsolute path) volume (Path.components path).reverse.tail) volume

/-- A file that is open for reading; a directory can be opened and not read. -/
inductive Opened
  | file (contents : Contents)
  | directory
deriving DecidableEq, Repr

def Opened.read : Opened → Except FileError Bytes
  | file contents => .ok contents.toBytes
  | directory => .error .isDirectory

def openFile (volume : Volume) (path : String) : Except FileError Opened := do
  match ← volume.find true path with
  | (_, .file contents _) => .ok (.file contents)
  | _ => .ok .directory

def read (volume : Volume) (path : String) : Except FileError Bytes := do
  (← volume.openFile path).read

/-- A new file; the location tells where it was made. -/
def createFile (volume : Volume) (path : String) (contents : Contents) (now : Instant) :
    Except FileError (Location × Volume) := do
  let location ← volume.resolve false path
  if (volume.node? location).isSome then .error .taken
  else .ok (location, volume.put location (.file contents now))

def writeFile (volume : Volume) (path : String) (contents : Contents) (now : Instant) :
    Except FileError Volume := do
  let location ← volume.resolve true path
  if volume.node? location = some .directory then .error .isDirectory
  else .ok (volume.put location (.file contents now))

def link (volume : Volume) (path target : String) : Except FileError Volume := do
  let location ← volume.resolve false path
  if (volume.node? location).isSome then .error .taken
  else .ok (volume.put location (.symlink target))

def remove (volume : Volume) (path : String) : Except FileError Volume := do
  match ← volume.find false path with
  | (_, .directory) => .error .isDirectory
  | (location, _) => .ok (volume.drop location)

def removeTree (volume : Volume) (location : Location) : Volume :=
  { volume with nodes := volume.nodes.filter fun (place, _) => !location.isPrefixOf place }

def readDirectory (volume : Volume) (path : String) : Except FileError (List (String × Node)) := do
  match ← volume.find true path with
  | (location, .directory) => .ok (volume.children location)
  | _ => .error .notDirectory

def below (volume : Volume) (root : Location) : List (String × Node) :=
  volume.nodes.filterMap fun (place, node) =>
    match root.isPrefixOf? place with
    | some (name :: rest) => some ("/".intercalate (name :: rest), node)
    | _ => none

end ClusterArchive.Volume
