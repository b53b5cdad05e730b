import ClusterArchive.Gzip.Member
import ClusterArchive.Restore
import ClusterArchive.Tar.Reader
import ClusterArchive.Tar.Writer
import ClusterArchive.Volume.Operations

/-! Container formats of archives. A format packs the files below a directory into bytes and delivers
the files of such bytes. -/

namespace ClusterArchive

/-- What packing wrote, and its failure if it failed. -/
structure Packing where
  bytes : Bytes
  failure : Option RunError

structure ArchiveFormat where
  extension : String
  algorithm : String
  pack : Volume → String → Packing
  files : ByteStream → Delivery

namespace TarGzip

def standardLevel : Nat := 6

def effectiveLevel (level : Nat) : Nat := min level 9

/-- The member for a node; links are left out. -/
def content? : Node → Option Tar.Content
  | .file contents _ => some (.file contents.toBytes)
  | .directory => some .directory
  | .symlink _ => none

/-- The members for the nodes below a location, by their paths from there. -/
def membersBelow (volume : Volume) (root : Location) : List (String × Tar.Content) :=
  (volume.below root).filterMap fun (path, node) => (content? node).map fun content => (path, content)

def writeMembers (members : List (String × Tar.Content)) : Bytes :=
  Gzip.compress (Tar.write (members.map fun (path, content) => (Bytes.ofText path, content)))

/-- Packs with a compressor that stores its input as it is, so no level is asked for; any compressor at
any level is read back alike. -/
def pack (volume : Volume) (directory : String) : Packing :=
  let unreadable (error : FileError) : Packing :=
    ⟨[], some (.archive ("Failed to read directory " ++ Path.join directory "" ++ ": " ++ error.message))⟩
  match volume.find true (Path.join directory "") with
  | .ok (root, .directory) => ⟨writeMembers (membersBelow volume root), none⟩
  | .ok _ => unreadable .notDirectory
  | .error error => unreadable error

/-- The regular files among members. A file whose data is not complete ends the delivery. -/
def deliver (fault : Option String) : List Tar.Member → Delivery
  | [] => ⟨[], fault.map fun fault => .archive ("Failed to read archive entry: " ++ fault)⟩
  | member :: rest =>
    if !member.isFile then deliver fault rest
    else
      match member.failure with
      | some failure =>
        ⟨[], some (.archive ("Failed to read archive entry " ++ member.pathText ++ ": " ++ failure))⟩
      | none =>
        if member.data.length ≠ member.size then
          ⟨[], some (.archive ("Archive entry " ++ member.pathText ++ " is truncated: header declares " ++
            toString member.size ++ " bytes, found " ++ toString member.data.length))⟩
        else
          let later := deliver fault rest
          ⟨(member.pathText, member.data) :: later.files, later.failure⟩

def tarFiles (stream : ByteStream) : Delivery :=
  let listing := Tar.readMembers stream
  deliver listing.fault listing.members

def files (stream : ByteStream) : Delivery := tarFiles (Gzip.decompress stream)

end TarGzip

def ArchiveFormat.tarGzip : ArchiveFormat := ⟨"tar.gz", "gzip", TarGzip.pack, TarGzip.files⟩

end ClusterArchive
