import ClusterArchive.Gzip.Huffman

/-! Decompression of deflate data. Output is kept where the input breaks off; a defect in the data
takes with it what was put out since the last full window. -/

namespace ClusterArchive.Deflate

inductive Stop
  | endOfInput
  | corrupt
deriving DecidableEq, Repr

structure Decoder where
  cursor : BitCursor
  output : Array UInt8

abbrev Decode := ExceptT Stop (StateM Decoder)

def windowSize : Nat := 32768

namespace Decode

def bits (n : Nat) : Decode Nat := do
  match (← get).cursor.bits? n with
  | none => throw .endOfInput
  | some (value, cursor) =>
    modify fun d => { d with cursor := cursor }
    return value

def symbol (code : PrefixCode) : Decode Nat := do
  match code.read (← get).cursor with
  | .endOfInput => throw .endOfInput
  | .noWord => throw .corrupt
  | .symbol value cursor =>
    modify fun d => { d with cursor := cursor }
    return value

def emit (b : UInt8) : Decode Unit := modify fun d => { d with output := d.output.push b }

/-- Repeats bytes from a distance back. Before the first byte lie zeros. -/
def copy (distance : Nat) : Nat → Decode Unit
  | 0 => return
  | length + 1 => do
    modify fun d =>
      let b := if distance ≤ d.output.size then d.output.getD (d.output.size - distance) 0 else 0
      { d with output := d.output.push b }
    copy distance length

end Decode

open Decode

/-- Shortest length and number of extra bits, by symbol from 257 on. -/
def lengthTable : Array (Nat × Nat) := #[
  (3, 0), (4, 0), (5, 0), (6, 0), (7, 0), (8, 0), (9, 0), (10, 0), (11, 1), (13, 1), (15, 1),
  (17, 1), (19, 2), (23, 2), (27, 2), (31, 2), (35, 3), (43, 3), (51, 3), (59, 3), (67, 4), (83, 4),
  (99, 4), (115, 4), (131, 5), (163, 5), (195, 5), (227, 5), (258, 0)]

/-- Shortest distance and number of extra bits, by symbol. -/
def distanceTable : Array (Nat × Nat) := #[
  (1, 0), (2, 0), (3, 0), (4, 0), (5, 1), (7, 1), (9, 2), (13, 2), (17, 3), (25, 3), (33, 4),
  (49, 4), (65, 5), (97, 5), (129, 6), (193, 6), (257, 7), (385, 7), (513, 8), (769, 8), (1025, 9),
  (1537, 9), (2049, 10), (3073, 10), (4097, 11), (6145, 11), (8193, 12), (12289, 12), (16385, 13),
  (24577, 13)]

def endOfBlock : Nat := 256

def ranged (table : Array (Nat × Nat)) (symbol : Nat) : Decode Nat := do
  match table[symbol]? with
  | none => throw .corrupt
  | some (least, extra) => return least + (← bits extra)

/-- The literals and copies of a block. Each takes a bit at least, so the bits that are left bound
their number. -/
def compressed (literals distances : PrefixCode) : Nat → Decode Unit
  | 0 => throw .endOfInput
  | bound + 1 => do
    let value ← symbol literals
    if value = endOfBlock then return
    if value < endOfBlock then emit (UInt8.ofNat value)
    else
      let length ← ranged lengthTable (value - 257)
      let distance ← ranged distanceTable (← symbol distances)
      copy distance length
    compressed literals distances bound

def stored : Decode Unit := do
  match (← get).cursor.aligned with
  | l₀ :: l₁ :: n₀ :: n₁ :: rest =>
    let length := Bytes.fromLittleEndian [l₀, l₁]
    if length + Bytes.fromLittleEndian [n₀, n₁] ≠ 0xFFFF then throw .corrupt
    let block := rest.take length
    set (Decoder.mk ⟨rest.drop length, 0⟩ ((← get).output ++ block.toArray))
    if block.length < length then throw .endOfInput
  | _ => throw .endOfInput

def fixedLiterals : PrefixCode := .ofLengths
  (List.replicate 144 8 ++ List.replicate 112 9 ++ List.replicate 24 7 ++ List.replicate 8 8)

def fixedDistances : PrefixCode := .ofLengths (List.replicate 32 5)

/-- The order in which the lengths of the code of lengths are written. -/
def lengthOrder : List Nat := [16, 17, 18, 0, 8, 7, 9, 6, 10, 5, 11, 4, 12, 3, 13, 2, 14, 1, 15]

/-- Word lengths, up to a number of them; those read come last first. -/
def wordLengths (code : PrefixCode) (wanted : Nat) : Nat → List Nat → Decode (List Nat)
  | 0, found => if found.length = wanted then return found.reverse else throw .corrupt
  | bound + 1, found => do
    if found.length = wanted then return found.reverse
    if wanted < found.length then throw .corrupt
    let value ← symbol code
    let again (length least extra : Nat) : Decode (List Nat) := do
      let times ← bits extra
      wordLengths code wanted bound (List.replicate (least + times) length ++ found)
    if value < 16 then wordLengths code wanted bound (value :: found)
    else if value = 16 then
      match found with
      | last :: _ => again last 3 2
      | [] => throw .corrupt
    else if value = 17 then again 0 3 3
    else again 0 11 7

def checked (code : PrefixCode) : Decode PrefixCode :=
  if code.isValid then return code else throw .corrupt

def blockCodes : Decode (PrefixCode × PrefixCode) := do
  let literalCount := 257 + (← bits 5)
  let distanceCount := 1 + (← bits 5)
  let lengthCount := 4 + (← bits 4)
  if 286 < literalCount ∨ 30 < distanceCount then throw .corrupt
  let given ← (lengthOrder.take lengthCount).mapM fun place => return (place, ← bits 3)
  let lengths := (List.range 19).map fun place => (given.lookup place).getD 0
  let code ← checked (.ofLengths lengths)
  let wanted := literalCount + distanceCount
  let lengths ← wordLengths code wanted wanted []
  return (← checked (.ofLengths (lengths.take literalCount)),
    ← checked (.ofLengths (lengths.drop literalCount)))

def blocks : Nat → Decode Unit
  | 0 => throw .endOfInput
  | bound + 1 => do
    let final ← bits 1
    match ← bits 2 with
    | 0 => stored
    | 1 => compressed fixedLiterals fixedDistances ((← get).cursor.size + 1)
    | 2 =>
      let (literals, distances) ← blockCodes
      compressed literals distances ((← get).cursor.size + 1)
    | _ => throw .corrupt
    if final = 0 then blocks bound

/-- What decompression yields: the output, and the bytes after the last block or why there is no
end to it. -/
structure Inflated where
  output : Bytes
  rest : Except Stop Bytes

def inflate (bytes : Bytes) : Inflated :=
  match (blocks (8 * bytes.length + 1)).run.run ⟨⟨bytes, 0⟩, #[]⟩ with
  | (.ok (), decoder) => ⟨decoder.output.toList, .ok decoder.cursor.aligned⟩
  | (.error .endOfInput, decoder) => ⟨decoder.output.toList, .error .endOfInput⟩
  | (.error .corrupt, decoder) =>
    let kept := decoder.output.size / windowSize * windowSize
    ⟨decoder.output.toList.take kept, .error .corrupt⟩

def storedLimit : Nat := 65535

def storedBlock (final : Bool) (block : Bytes) : Bytes :=
  (if final then 1 else 0) :: Bytes.littleEndian 2 block.length ++
    Bytes.littleEndian 2 (0xFFFF - block.length) ++ block

/-- The bytes as stored blocks, the last of which is final. -/
def deflate (bytes : Bytes) : Bytes :=
  if bytes.length ≤ storedLimit then storedBlock true bytes
  else storedBlock false (bytes.take storedLimit) ++ deflate (bytes.drop storedLimit)
termination_by bytes.length
decreasing_by simp only [storedLimit, List.length_drop] at *; omega

end ClusterArchive.Deflate
