import ClusterArchive.Tar.Header

/-! Writing tar data. A path too long for its field is told by an entry of its own before. -/

namespace ClusterArchive.Tar

inductive Content
  | file (bytes : Bytes)
  | directory
  | symlink (target : Bytes)
deriving DecidableEq, Repr

def nameSize : Nat := 100

def fill (width : Nat) (bytes : Bytes) : Bytes :=
  bytes.take width ++ List.replicate (width - bytes.length) 0

def octalField (width n : Nat) : Bytes :=
  ((List.range width).map fun i => UInt8.ofNat (0x30 + n / Nat.pow 8 i % 8)).reverse

/-- A size of up to eleven octal digits, or as big-endian bytes after a marked one. -/
def sizeField (size : Nat) : Bytes :=
  if size < Nat.pow 8 11 then octalField 11 size ++ [0] else 0x80 :: Bytes.bigEndian 11 size

def makeHeader (name : Bytes) (kind : UInt8) (size : Nat) (target : Bytes) : Header :=
  let front := fill nameSize name ++ octalField 7 0o644 ++ [0] ++ octalField 7 0 ++ [0] ++
    octalField 7 0 ++ [0] ++ sizeField size ++ octalField 11 0 ++ [0]
  let back := [kind] ++ fill nameSize target ++ [0x75, 0x73, 0x74, 0x61, 0x72, 0x20, 0x20, 0] ++
    List.replicate 247 0
  let sum := (front ++ back).foldl (fun sum byte => sum + byte.toNat) (8 * 32)
  front ++ octalField 6 sum ++ [0, 0x20] ++ back

def fillBlocks (bytes : Bytes) : Bytes :=
  bytes ++ List.replicate (padded bytes.length - bytes.length) 0

def longLinkName : Bytes := Bytes.ofText "././@LongLink"

def longName (kind : UInt8) (name : Bytes) : Bytes :=
  if name.length ≤ nameSize then []
  else makeHeader longLinkName kind (name.length + 1) [] ++ fillBlocks (name ++ [0])

def writeMember (path : Bytes) : Content → Bytes
  | .file bytes =>
    longName 0x4c path ++ makeHeader path 0x30 bytes.length [] ++ fillBlocks bytes
  | .directory => longName 0x4c path ++ makeHeader path 0x35 0 []
  | .symlink target =>
    longName 0x4c path ++ longName 0x4b target ++ makeHeader path 0x32 0 target

def endMark : Bytes := List.replicate (2 * blockSize) 0

def write (members : List (Bytes × Content)) : Bytes :=
  members.flatMap (fun (path, content) => writeMember path content) ++ endMark

end ClusterArchive.Tar
