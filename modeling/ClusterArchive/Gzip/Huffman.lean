import ClusterArchive.Bytes

/-! Canonical prefix codes, read bit by bit. A code is given by the lengths of its words: shorter
words come first, and words of one length in the order of their symbols. -/

namespace ClusterArchive.Deflate

/-- A position among bits; those of a byte are read from its lowest on. -/
structure BitCursor where
  bytes : Bytes
  used : Nat
deriving DecidableEq, Repr

namespace BitCursor

def bit? (cursor : BitCursor) : Option (Bool × BitCursor) :=
  match cursor.bytes with
  | [] => none
  | b :: rest =>
    some (b.toNat.testBit cursor.used,
      if cursor.used = 7 then ⟨rest, 0⟩ else ⟨b :: rest, cursor.used + 1⟩)

/-- The number of some bits, its lowest bit first. -/
def bits? : Nat → BitCursor → Option (Nat × BitCursor)
  | 0, cursor => some (0, cursor)
  | n + 1, cursor => do
    let (bit, cursor) ← cursor.bit?
    let (rest, cursor) ← bits? n cursor
    return (bit.toNat + 2 * rest, cursor)

def aligned (cursor : BitCursor) : Bytes :=
  if cursor.used = 0 then cursor.bytes else cursor.bytes.tail

def size (cursor : BitCursor) : Nat := 8 * cursor.bytes.length - cursor.used

end BitCursor

def wordLimit : Nat := 15

/-- A prefix code: how many words there are of each length from one on, and the symbols in the
order of their words. -/
structure PrefixCode where
  counts : List Nat
  symbols : Array Nat
deriving Repr

namespace PrefixCode

/-- The code whose `i`th symbol has a word of the `i`th length; length zero stands for no word. -/
def ofLengths (lengths : List Nat) : PrefixCode :=
  let indexed := lengths.zipIdx
  let ofLength (n : Nat) : List Nat := (indexed.filter fun (length, _) => length == n).map (·.2)
  let groups := (List.range wordLimit).map fun i => ofLength (i + 1)
  ⟨groups.map List.length, groups.flatten.toArray⟩

/-- Words fill the space of bit sequences: `2 ^ 15` for all words when none is missing. -/
def filled (code : PrefixCode) : Nat :=
  code.counts.zipIdx.foldl (fun sum (count, i) => sum + count * Nat.pow 2 (wordLimit - 1 - i)) 0

/-- A code with no space left over and no overlap. One word or none may leave space over. -/
def isValid (code : PrefixCode) : Bool :=
  code.filled == Nat.pow 2 wordLimit || code.symbols.size ≤ 1

inductive Found
  | symbol (value : Nat) (rest : BitCursor)
  | endOfInput
  | noWord

/-- Reads one word. `word` is what was read, and `first` the first word of the length so far. -/
def readFrom (code : PrefixCode) (word first index : Nat) : List Nat → BitCursor → Found
  | [], _ => .noWord
  | count :: counts, cursor =>
    match cursor.bit? with
    | none => .endOfInput
    | some (bit, cursor) =>
      let word := 2 * word + bit.toNat
      if word < first + count then
        match code.symbols[index + (word - first)]? with
        | some symbol => .symbol symbol cursor
        | none => .noWord
      else code.readFrom word (2 * (first + count)) (index + count) counts cursor

def read (code : PrefixCode) (cursor : BitCursor) : Found := code.readFrom 0 0 0 code.counts cursor

end PrefixCode

end ClusterArchive.Deflate
