import ClusterArchive.Bytes
import ClusterArchive.Decimal.Digits
import ClusterArchive.Text.Blank
import ClusterArchive.Text.Utf8

/-! Headers of tar entries: blocks of 512 bytes with fields at fixed places. -/

namespace ClusterArchive.Tar

def blockSize : Nat := 512

/-- The least number of blocks that hold some bytes, in bytes. -/
def padded (size : Nat) : Nat := (size + blockSize - 1) / blockSize * blockSize

abbrev Header := Bytes

def field (header : Header) (start length : Nat) : Bytes := (header.drop start).take length

def untilZero (bytes : Bytes) : Bytes := bytes.takeWhile (· ≠ 0)

def asciiText? (bytes : Bytes) : Option (List Char) := (Text.units bytes).mapM id

/-- The value of octal digits, if it fits 64 bits. -/
def octalValue? (digits : List Char) : Option Nat :=
  if digits.isEmpty || !digits.all (fun c => '0' ≤ c && c ≤ '7') then none
  else
    let n := digits.foldl (fun n c => n * 8 + Decimal.digitValue c) 0
    if n < Nat.pow 2 64 then some n else none

/-- A number in octal digits, with blanks around them or a plus sign before them. -/
def octal? (bytes : Bytes) : Option Nat := do
  let text ← asciiText? (untilZero bytes)
  match Text.trimRight (Text.trimLeft text) with
  | '+' :: digits => octalValue? digits
  | digits => octalValue? digits

/-- A number in octal digits or, marked by the highest bit, in big-endian bytes, of which the last
eight count. -/
def number? (bytes : Bytes) : Option Nat :=
  match bytes with
  | b :: _ => if 0x80 ≤ b then some (Bytes.fromBigEndian (bytes.drop (bytes.length - 8))) else octal? bytes
  | [] => none

namespace Header

def name (header : Header) : Bytes := field header 0 100

def size? (header : Header) : Option Nat := number? (field header 124 12)

def kind (header : Header) : UInt8 := header.getD 156 0

def magic (header : Header) : Bytes := field header 257 8

def isUstar (header : Header) : Bool := header.magic == [0x75, 0x73, 0x74, 0x61, 0x72, 0, 0x30, 0x30]

def isGnu (header : Header) : Bool := header.magic == [0x75, 0x73, 0x74, 0x61, 0x72, 0x20, 0x20, 0]

/-- The sum of all bytes, those of the checksum taken as blanks. -/
def checksum (header : Header) : Nat :=
  (header.take 148 ++ header.drop 156).foldl (fun sum byte => sum + byte.toNat) (8 * 32)

def isSound (header : Header) : Bool :=
  (octal? (field header 148 8)).map (· % Nat.pow 2 32) == some header.checksum

/-- The path in the header. A prefix is put before the name in the form that has one. -/
def path (header : Header) : Bytes :=
  let name := untilZero header.name
  match if header.isUstar then untilZero (field header 345 155) else [] with
  | [] => name
  | start => start ++ 0x2f :: name

end Header

/-! Records that extend a header: lines `length key=value`, of which the length counts all. -/

/-- The records up to the first empty line; nothing stands for one that is malformed. -/
def records (bytes : Bytes) : List (Option (Bytes × Bytes)) :=
  (lines bytes).takeWhile (· ≠ []) |>.map record?
where
  lines (bytes : Bytes) : List Bytes :=
    bytes.foldr
      (fun b lines => if b = 0x0a then [] :: lines else (b :: lines.headD []) :: lines.tail) [[]]
  record? (line : Bytes) : Option (Bytes × Bytes) := do
    let length ← asciiText? (line.takeWhile (· ≠ 0x20))
    let rest ← (line.dropWhile (· ≠ 0x20)).tail?
    let digits := match length with
      | '+' :: digits => digits
      | digits => digits
    if (← Decimal.natural? digits) ≠ line.length + 1 then none
    else
      let value ← (rest.dropWhile (· ≠ 0x3d)).tail?
      return (rest.takeWhile (· ≠ 0x3d), value)

def recordedPath? (bytes : Bytes) : Option Bytes :=
  ((records bytes).filterMap id).lookup [0x70, 0x61, 0x74, 0x68]

/-- The size that records give; a malformed record before it hides it. -/
def recordedSize? (bytes : Bytes) : Option Nat := do
  let sound := (records bytes).takeWhile Option.isSome
  let value ← (sound.filterMap id).lookup [0x73, 0x69, 0x7a, 0x65]
  let digits ← asciiText? value
  let n ← Decimal.natural? (match digits with
    | '+' :: digits => digits
    | digits => digits)
  if n < Nat.pow 2 64 then some n else none

end ClusterArchive.Tar
