import ClusterArchive.ByteStream
import ClusterArchive.Gzip.Crc32
import ClusterArchive.Gzip.Inflate

/-! Gzip data: a header, deflate data, and the checksum and length of what it stands for. Only the
first member is read, and its end is checked only by who reads all of it. -/

namespace ClusterArchive.Gzip

inductive Fault
  | header
  | truncated
  | data
  | checksum
deriving DecidableEq, Repr

def Fault.message : Fault → String
  | header => "invalid gzip header"
  | truncated => "unexpected end of file"
  | data => "corrupt deflate stream"
  | checksum => "corrupt gzip stream does not have a matching checksum"

def afterZero : Bytes → Except Fault Bytes
  | [] => .error .truncated
  | b :: rest => if b = 0 then .ok rest else afterZero rest

def afterExtra : Bytes → Except Fault Bytes
  | l₀ :: l₁ :: rest =>
    let length := Bytes.fromLittleEndian [l₀, l₁]
    if rest.length < length then .error .truncated else .ok (rest.drop length)
  | _ => .error .truncated

/-- A header may end with half a checksum of itself. -/
def afterCheck (all : Bytes) : Bytes → Except Fault Bytes
  | c₀ :: c₁ :: rest =>
    let header := all.take (all.length - rest.length - 2)
    if Bytes.fromLittleEndian [c₀, c₁] = (Crc32.checksum header).toNat % 65536 then .ok rest
    else .error .header
  | _ => .error .truncated

def body (all : Bytes) : Except Fault Bytes :=
  if all.length < 10 then .error .truncated
  else
    match all.take 4 with
    | [0x1f, 0x8b, 8, flags] => do
      if 32 ≤ flags then throw .header
      let has (flag : Nat) : Bool := flags.toNat.testBit flag
      let rest := all.drop 10
      let rest ← if has 2 then afterExtra rest else pure rest
      let rest ← if has 3 then afterZero rest else pure rest
      let rest ← if has 4 then afterZero rest else pure rest
      if has 1 then afterCheck all rest else return rest
    | _ => .error .header

def checkTrailer (output trailer : Bytes) : Except Fault Unit :=
  if trailer.length < 8 then .error .truncated
  else if Bytes.fromLittleEndian (trailer.take 4) = (Crc32.checksum output).toNat ∧
      Bytes.fromLittleEndian ((trailer.drop 4).take 4) = output.length % Nat.pow 2 32 then .ok ()
  else .error .checksum

/-- The first member: what it stands for, and what is wrong with it. -/
def readMember (bytes : Bytes) : Bytes × Option Fault :=
  match body bytes with
  | .error fault => ([], some fault)
  | .ok body =>
    let inflated := Deflate.inflate body
    match inflated.rest with
    | .error .endOfInput => (inflated.output, some .truncated)
    | .error .corrupt => (inflated.output, some .data)
    | .ok trailer =>
      match checkTrailer inflated.output trailer with
      | .ok () => (inflated.output, none)
      | .error fault => (inflated.output, some fault)

/-- Decompresses a stream. A failure of the stream shows where more of it is needed. -/
def decompress (stream : ByteStream) : ByteStream :=
  let (output, fault) := readMember stream.bytes
  ⟨output, fault.map fun
    | .truncated => stream.shortage Fault.truncated.message
    | fault => fault.message⟩

/-- One member without a name or a time, of an unknown system. -/
def compress (bytes : Bytes) : Bytes :=
  [0x1f, 0x8b, 8, 0, 0, 0, 0, 0, 0, 0xff] ++ Deflate.deflate bytes ++
    Bytes.littleEndian 4 (Crc32.checksum bytes).toNat ++ Bytes.littleEndian 4 bytes.length

end ClusterArchive.Gzip
