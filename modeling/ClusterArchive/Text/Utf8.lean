import ClusterArchive.Bytes

/-! Reading bytes as UTF-8, with the bytes that are not text kept apart. -/

namespace ClusterArchive.Text

/-- A character of which `missing` bytes are still to come, the next of them between the bounds. -/
structure Partial where
  code : Nat
  missing : Nat
  low : UInt8
  high : UInt8

inductive Opening
  | character (c : Char)
  | lead (begun : Partial)
  | stray

/-- The narrower bounds after four of the lead bytes shut out overlong forms, surrogates and code
points past the last one. -/
def Opening.ofByte (b : UInt8) : Opening :=
  if b < 0x80 then .character (Char.ofNat b.toNat)
  else if b < 0xC2 then .stray
  else if b < 0xE0 then .lead ⟨b.toNat % 32, 1, 0x80, 0xBF⟩
  else if b == 0xE0 then .lead ⟨0, 2, 0xA0, 0xBF⟩
  else if b == 0xED then .lead ⟨13, 2, 0x80, 0x9F⟩
  else if b < 0xF0 then .lead ⟨b.toNat % 16, 2, 0x80, 0xBF⟩
  else if b == 0xF0 then .lead ⟨0, 3, 0x90, 0xBF⟩
  else if b < 0xF4 then .lead ⟨b.toNat % 8, 3, 0x80, 0xBF⟩
  else if b == 0xF4 then .lead ⟨4, 3, 0x80, 0x8F⟩
  else .stray

namespace Partial

def accepts (p : Partial) (b : UInt8) : Bool := p.low ≤ b && b ≤ p.high

def extend (p : Partial) (b : UInt8) : Partial :=
  ⟨p.code * 64 + b.toNat % 64, p.missing - 1, 0x80, 0xBF⟩

end Partial

/-- The characters of the bytes after a begun character; see `units`. -/
def unitsFrom : Option Partial → Bytes → List (Option Char)
  | none, [] => []
  | some _, [] => [none]
  | none, b :: rest =>
    match Opening.ofByte b with
    | .character c => some c :: unitsFrom none rest
    | .lead begun => unitsFrom (some begun) rest
    | .stray => none :: unitsFrom none rest
  | some p, b :: rest =>
    if p.accepts b then
      let q := p.extend b
      if q.missing = 0 then some (Char.ofNat q.code) :: unitsFrom none rest
      else unitsFrom (some q) rest
    else
      match Opening.ofByte b with
      | .character c => none :: some c :: unitsFrom none rest
      | .lead begun => none :: unitsFrom (some begun) rest
      | .stray => none :: none :: unitsFrom none rest

/-- The characters of a byte sequence; `none` stands for each longest run of bytes that begins a
character and breaks off, and for each byte that begins none. -/
def units (bytes : Bytes) : List (Option Char) := unitsFrom none bytes

def ofBytes? (bytes : Bytes) : Option String := ((units bytes).mapM id).map String.ofList

/-- Bytes as text, with the replacement character for what is not text. -/
def lossy (bytes : Bytes) : String :=
  String.ofList ((units bytes).map (·.getD '\ufffd'))

end ClusterArchive.Text
