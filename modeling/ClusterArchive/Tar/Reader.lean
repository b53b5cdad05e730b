import ClusterArchive.ByteStream
import ClusterArchive.Tar.Header

/-! Reading tar data. Members come in the order of the stream; the reading ends at a block of zeros,
at the end of the stream between two members, or at a fault. -/

namespace ClusterArchive.Tar

/-- One member, with what there was of its data, and the failure that ended the data early. -/
structure Member where
  path : Bytes
  kind : UInt8
  size : Nat
  data : Bytes
  failure : Option String
deriving DecidableEq, Repr

namespace Member

def isFile (member : Member) : Bool := member.kind = 0x30 || member.kind = 0

def isDirectory (member : Member) : Bool := member.kind = 0x35

def pathText (member : Member) : String :=
  String.ofList ((Text.lossy member.path).toList.map fun c => if c = '\\' then '/' else c)

end Member

/-- Members, and why there are no more where the data does not end well. -/
structure Listing where
  members : List Member
  fault : Option String
deriving Repr

structure Ahead where
  longName : Option Bytes
  longLink : Bool
  records : Option Bytes
deriving DecidableEq, Repr

namespace Ahead

def nothing : Ahead := ⟨none, false, none⟩

def path (ahead : Ahead) (header : Header) : Bytes :=
  match ahead.longName with
  | some name => if name.getLast? = some 0 then name.dropLast else name
  | none => (ahead.records.bind recordedPath?).getD header.path

def size? (ahead : Ahead) (header : Header) : Option Nat :=
  header.size?.map fun size => (ahead.records.bind recordedSize?).getD size

/-- Adds what a member tells about the next one; nothing for one that stands for itself. -/
def add? (ahead : Ahead) (header : Header) (data : Bytes) : Option (Except String Ahead) :=
  if !(header.isGnu || header.isUstar) then none
  else if header.kind = 0x4c then
    some (if ahead.longName.isSome then .error "two long name entries describing the same member"
      else .ok { ahead with longName := some data })
  else if header.kind = 0x4b then
    some (if ahead.longLink then .error "two long name entries describing the same member"
      else .ok { ahead with longLink := true })
  else if header.kind = 0x78 then
    some (if ahead.records.isSome then .error "two pax extensions entries describing the same member"
      else .ok { ahead with records := some data })
  else none

end Ahead

/-- A map of the chunks of a sparse file, as far as it was followed. -/
structure SparseMap where
  position : Nat
  remaining : Nat

namespace SparseMap

/-- Follows one chunk of a file whose chunks have `size` bytes in all. -/
def follow (size : Nat) (map : SparseMap) (chunk : Bytes) : Except String SparseMap :=
  if chunk.getD 0 0 = 0 ∨ chunk.getD 12 0 = 0 then .ok map
  else
    match octal? (chunk.take 12), octal? ((chunk.drop 12).take 12) with
    | some start, some length =>
      if length ≠ 0 ∧ (size - map.remaining) % blockSize ≠ 0 then
        .error "previous block in sparse file was not aligned to 512-byte boundary"
      else if start < map.position then .error "out of order or overlapping sparse blocks"
      else if Nat.pow 2 64 ≤ start + length then
        .error "more bytes listed in sparse file than u64 can hold"
      else if map.remaining < length then
        .error "sparse file consumed more data than the header listed"
      else .ok ⟨start + length, map.remaining - length⟩
    | _, _ => .error "numeric field was not a number"

def chunks (count : Nat) (bytes : Bytes) : List Bytes :=
  (List.range count).map fun i => (bytes.drop (24 * i)).take 24

/-- Follows the blocks that continue the map, and counts them. -/
def extend (size : Nat) (map : SparseMap) (more : Bool) (stream : ByteStream) :
    Except String (SparseMap × Nat) :=
  if !more then .ok (map, 0)
  else if stream.bytes.length < blockSize then .error (stream.shortage "failed to read extension")
  else do
    let block := stream.bytes.take blockSize
    let map ← (chunks 21 block).foldlM (follow size) map
    let (map, count) ← extend size map (block.getD 504 0 = 1) (stream.drop blockSize)
    return (map, count + 1)
termination_by stream.bytes.length
decreasing_by simp only [ByteStream.drop, List.length_drop, blockSize] at *; omega

/-- Checks the map of a sparse file; the number of blocks that continue it after the header. -/
def blocks (header : Header) (size : Nat) (stream : ByteStream) : Except String Nat := do
  if !header.isGnu then throw "sparse entry type listed but not GNU header"
  let map ← (chunks 4 (header.drop 386)).foldlM (follow size) ⟨0, size⟩
  let (map, count) ← map.extend size (header.getD 482 0 = 1) stream
  match octal? (field header 483 12) with
  | none => throw "numeric field was not a number"
  | some real =>
    if map.position ≠ real then throw "mismatch in sparse chunks and size in header"
    if 0 < map.remaining then throw "mismatch in sparse chunks and entry size in header"
    return count

end SparseMap

def readFrom (position : Nat) (ahead : Ahead) (stream : ByteStream) : Listing :=
  let header : Header := stream.bytes.take blockSize
  let stop (fault : String) : Listing := ⟨[], some fault⟩
  let endNow : Listing :=
    if ahead = .nothing then ⟨[], none⟩
    else stop "members found describing a future member but no future member found"
  if _short : stream.bytes.length < blockSize then
    if stream.bytes = [] ∧ stream.failure = none then endNow
    else stop (stream.shortage "failed to read entire block")
  else if header.all (· = 0) then endNow
  else if !header.isSound then stop "archive header checksum mismatch"
  else
    match ahead.size? header with
    | none => stop "numeric field was not a number"
    | some size =>
      let rest := stream.drop blockSize
      let room := padded size
      -- The members after this one, whose data begins some blocks later.
      let next (ahead : Ahead) (later : Nat) (shown : List Member) : Listing :=
        let taken := later * blockSize + room
        if rest.bytes.length < taken then ⟨shown, some (rest.shortage "unexpected EOF during skip")⟩
        else
          let listing := readFrom (position + blockSize + taken) ahead (rest.drop taken)
          ⟨shown ++ listing.members, listing.fault⟩
      if Nat.pow 2 64 ≤ position + blockSize + room then stop "size overflow"
      else
        let data := rest.bytes.take size
        let failure := if data.length < size then rest.failure else none
        match ahead.add? header data with
        | some (.error fault) => stop fault
        | some (.ok ahead) =>
          match failure with
          | some fault => stop fault
          | none => next ahead 0 []
        | none =>
          let member : Member := ⟨ahead.path header, header.kind, size, data, failure⟩
          if header.kind = 0x53 then
            match SparseMap.blocks header size rest with
            | .error fault => stop fault
            | .ok count => next .nothing count [member]
          else next .nothing 0 [member]
termination_by stream.bytes.length
decreasing_by all_goals simp only [ByteStream.drop, List.length_drop, blockSize] at *; omega

def readMembers (stream : ByteStream) : Listing := readFrom 0 .nothing stream

end ClusterArchive.Tar
