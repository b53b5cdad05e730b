import ClusterArchive.Digest.Sha256

/-! A writer that hashes and counts the bytes on their way to a sink. Only what the sink accepts
counts, so a failed write changes nothing. -/

namespace ClusterArchive

/-- Accepts some of the bytes offered, from the first on, or fails and accepts none. -/
structure Sink (τ : Type) where
  offer : τ → Bytes → Option Nat × τ

/-- A sink as a system gives it. An offer that fails may only have been interrupted, which the state
that it leaves tells; what is accepted may have to be flushed. -/
structure Outlet (τ : Type) extends Sink τ where
  interrupted : τ → Bool
  flush : τ → Bool × τ

namespace Sink

def memory : Sink Bytes := ⟨fun held bytes => (some bytes.length, held ++ bytes)⟩

/-- Holds at most `total` bytes, of which it accepts at most `most` at a time. Full, it fails. -/
def limited (most total : Nat) : Sink Bytes :=
  ⟨fun held bytes =>
    if !bytes.isEmpty && total ≤ held.length then (none, held)
    else
      let accepted := min bytes.length (min most (total - held.length))
      (some accepted, held ++ bytes.take accepted)⟩

end Sink

/-- A call on a writer. One that writes all is looked at after a number of offers. -/
inductive WriterCall
  | write (bytes : Bytes)
  | writeAll (offers : Nat) (bytes : Bytes)
  | flush

/-- What a call is answered with: how many bytes were accepted, if the call did not fail, or whether
all went well. There is no answer while a call goes on. -/
inductive WriterAnswer
  | accepted (count : Option Nat)
  | ended (well : Bool)
  | ongoing
deriving DecidableEq

/-- The count is not bounded; at 2^64 bytes it would begin anew in 64 bits. -/
structure DigestWriter (τ : Type) where
  inner : τ
  hasher : Sha256.Hasher
  bytesWritten : Nat

namespace DigestWriter

variable {τ : Type}

def start (inner : τ) : DigestWriter τ := ⟨inner, .start, 0⟩

def write (sink : Sink τ) (writer : DigestWriter τ) (bytes : Bytes) :
    Option Nat × DigestWriter τ :=
  match sink.offer writer.inner bytes with
  | (none, inner) => (none, { writer with inner := inner })
  | (some n, inner) =>
    (some n, ⟨inner, writer.hasher.update (bytes.take n), writer.bytesWritten + n⟩)

/-- Offers bytes until all are accepted; a sink that accepts none of them fails. -/
def writeAll (sink : Sink τ) (writer : DigestWriter τ) (bytes : Bytes) : Bool × DigestWriter τ :=
  if bytes.isEmpty then (true, writer)
  else
    match writer.write sink bytes with
    | (none, writer) | (some 0, writer) => (false, writer)
    | (some (n + 1), writer) => writer.writeAll sink (bytes.drop (n + 1))
termination_by bytes.length
decreasing_by simp only [List.isEmpty_iff, ← List.length_eq_zero_iff, List.length_drop] at *; omega

/-- Offers bytes until all are accepted, again after each interruption, as it stands after a number of
offers: whether all went well, once that is known. Interruptions without end never let it be known. -/
def writeWithin (outlet : Outlet τ) (offers : Nat) (writer : DigestWriter τ) (bytes : Bytes) :
    Option Bool × DigestWriter τ :=
  if bytes.isEmpty then (some true, writer)
  else
    match offers with
    | 0 => (none, writer)
    | offers + 1 =>
      match writer.write outlet.toSink bytes with
      | (none, writer) =>
        if outlet.interrupted writer.inner then writer.writeWithin outlet offers bytes
        else (some false, writer)
      | (some 0, writer) => (some false, writer)
      | (some (n + 1), writer) => writer.writeWithin outlet offers (bytes.drop (n + 1))

def perform (outlet : Outlet τ) (writer : DigestWriter τ) :
    WriterCall → WriterAnswer × DigestWriter τ
  | .write bytes =>
    let (count, writer) := writer.write outlet.toSink bytes
    (.accepted count, writer)
  | .writeAll offers bytes =>
    let (well, writer) := writer.writeWithin outlet offers bytes
    (well.elim .ongoing .ended, writer)
  | .flush =>
    let (well, inner) := outlet.flush writer.inner
    (.ended well, { writer with inner := inner })

def digest (writer : DigestWriter τ) : String := writer.hasher.digest

/-- Flushes what was accepted; gives the sink back with the digest and the number of bytes. -/
def finish (outlet : Outlet τ) (writer : DigestWriter τ) : Option (τ × String × Nat) :=
  match outlet.flush writer.inner with
  | (true, inner) => some (inner, writer.digest, writer.bytesWritten)
  | (false, _) => none

end DigestWriter

end ClusterArchive
