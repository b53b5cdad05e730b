import ClusterArchive.Assoc
import ClusterArchive.Bytes
import ClusterArchive.Time.Instant
import ClusterArchive.Volume.Path

/-! A volume of files, directories and symbolic links. Every node lies at one location; `resolve`
finds the location that a path leads to. -/

namespace ClusterArchive

/-- The bytes of a file; a number of zero bytes at its end need not be held. -/
structure Contents where
  bytes : Bytes
  zeros : Nat
deriving DecidableEq, Repr, Inhabited

namespace Contents

def ofBytes (bytes : Bytes) : Contents := ⟨bytes, 0⟩

def size (contents : Contents) : Nat := contents.bytes.length + contents.zeros

def toBytes (contents : Contents) : Bytes := contents.bytes ++ List.replicate contents.zeros 0

/-- The contents cut or filled with zeros to a size. -/
def resize (contents : Contents) (size : Nat) : Contents :=
  if size ≤ contents.bytes.length then ⟨contents.bytes.take size, 0⟩
  else ⟨contents.bytes, size - contents.bytes.length⟩

end Contents

inductive Node
  | file (contents : Contents) (modified : Instant)
  | directory
  | symlink (target : String)
deriving DecidableEq, Repr, Inhabited

abbrev Location := List String

structure Volume where
  nodes : List (Location × Node)
  workingDirectory : Location
deriving Inhabited

inductive FileError
  | notFound
  | taken
  | notDirectory
  | isDirectory
  | nameTooLong
  | tooManyLinks
  | nulByte
deriving DecidableEq, Repr

def FileError.message : FileError → String
  | notFound => "No such file or directory (os error 2)"
  | taken => "File exists (os error 17)"
  | notDirectory => "Not a directory (os error 20)"
  | isDirectory => "Is a directory (os error 21)"
  | nameTooLong => "File name too long (os error 36)"
  | tooManyLinks => "Too many levels of symbolic links (os error 40)"
  | nulByte => "file name contained an unexpected NUL byte"

namespace Volume

def linkLimit : Nat := 40

def nameLimit : Nat := 255

def pathLimit : Nat := 4095

def node? (volume : Volume) (location : Location) : Option Node :=
  if location = [] then some .directory else Assoc.get? location volume.nodes

def put (volume : Volume) (location : Location) (node : Node) : Volume :=
  { volume with nodes := Assoc.insert location node volume.nodes }

def drop (volume : Volume) (location : Location) : Volume :=
  { volume with nodes := Assoc.erase location volume.nodes }

def children (volume : Volume) (location : Location) : List (String × Node) :=
  volume.nodes.filterMap fun (place, node) =>
    match place.getLast? with
    | some name => if place.dropLast = location then some (name, node) else none
    | none => none

/-- Follows steps from a directory. The result is where they lead, whether or not a node is there;
all before the last step must exist. A link at the last step is followed only if asked. -/
def walk (volume : Volume) (follow : Bool) (links : Nat) (place : Location) :
    List String → Except FileError Location
  | [] => .ok place
  | step :: rest =>
    if step = "." then volume.walk follow links place rest
    else if step = ".." then volume.walk follow links place.dropLast rest
    else if nameLimit < step.utf8ByteSize then .error .nameTooLong
    else
      let next := place ++ [step]
      match volume.node? next with
      | none => if rest.isEmpty then .ok next else .error .notFound
      | some .directory => volume.walk follow links next rest
      | some (.file ..) => if rest.isEmpty then .ok next else .error .notDirectory
      | some (.symlink target) =>
        if rest.isEmpty && !follow then .ok next
        else
          match links with
          | 0 => .error .tooManyLinks
          | links + 1 =>
            let start := if Path.isAbsolute target then [] else place
            volume.walk follow links start (steps target ++ rest)
termination_by steps => (links, steps.length)
where
  /-- The steps of a path; a last step `.` stands for a slash at the end. -/
  steps (path : String) : List String :=
    Path.components path ++ if Path.namesDirectory path then ["."] else []

def resolve (volume : Volume) (follow : Bool) (path : String) : Except FileError Location :=
  if path.toList.contains '\x00' then .error .nulByte
  else if path = "" then .error .notFound
  else if pathLimit < path.utf8ByteSize then .error .nameTooLong
  else
    let start := if Path.isAbsolute path then [] else volume.workingDirectory
    volume.walk follow linkLimit start (walk.steps path)

def find (volume : Volume) (follow : Bool) (path : String) : Except FileError (Location × Node) := do
  let location ← volume.resolve follow path
  match volume.node? location with
  | some node => .ok (location, node)
  | none => .error .notFound

end Volume

end ClusterArchive
