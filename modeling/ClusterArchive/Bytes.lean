/-! Byte sequences: the bytes of a text, their hexadecimal form, and fixed-width integers. -/

namespace ClusterArchive

abbrev Bytes := List UInt8

namespace Bytes

/-- The UTF-8 bytes of a text. -/
def ofText (text : String) : Bytes := text.toUTF8.data.toList

def hexDigit (n : Nat) : Char := (Nat.toDigits 16 n).headD '0'

def hexPair (b : UInt8) : List Char := [hexDigit (b.toNat / 16), hexDigit (b.toNat % 16)]

/-- Lower-case hexadecimal text. -/
def hex (bytes : Bytes) : String := String.ofList (bytes.flatMap hexPair)

def bigEndian (width n : Nat) : Bytes :=
  ((List.range width).map fun i => UInt8.ofNat (n >>> (8 * i))).reverse

def littleEndian (width n : Nat) : Bytes :=
  (List.range width).map fun i => UInt8.ofNat (n >>> (8 * i))

/-- The number whose base-256 digits are given, the lowest first. -/
def fromLittleEndian : Bytes → Nat
  | [] => 0
  | b :: rest => b.toNat + 256 * fromLittleEndian rest

/-- The number whose base-256 digits are given, the highest first. -/
def fromBigEndian (bytes : Bytes) : Nat := bytes.foldl (fun n b => n * 256 + b.toNat) 0

end Bytes

end ClusterArchive
