import ClusterArchive.Digest.Writer

/-! A file that is written through a buffer. The disk below may take less than it is offered, be
interrupted, or fail; what it did not take stays in the buffer and is offered again. -/

namespace ClusterArchive

inductive DiskAnswer
  | takes (most : Nat)
  | interrupts
  | fails (fault : String)
deriving DecidableEq, Repr

/-- The answers to the writes, in their order; later writes are taken whole. In the end the disk makes
sure of the file, or fails to. -/
structure Disk where
  answers : List DiskAnswer
  sync : Option String

def Disk.sound : Disk := ⟨[], none⟩

/-- What the file holds, what is still in the buffer, the answers that the disk will give, and what it
told when it last failed. -/
structure BufferedFile where
  held : Bytes
  pending : Bytes
  answers : List DiskAnswer
  interrupted : Bool
  fault : String
deriving DecidableEq, Repr

namespace BufferedFile

def empty (disk : Disk) : BufferedFile := ⟨[], [], disk.answers, false, ""⟩

def capacity : Nat := 8 * 1024

def write (file : BufferedFile) (bytes : Bytes) : Option Nat × BufferedFile :=
  match file.answers with
  | [] => (some bytes.length, { file with held := file.held ++ bytes })
  | .takes most :: rest =>
    let count := min most bytes.length
    (some count, { file with held := file.held ++ bytes.take count, answers := rest })
  | .interrupts :: rest => (none, { file with answers := rest, interrupted := true })
  | .fails fault :: rest =>
    (none, { file with answers := rest, interrupted := false, fault := fault })

theorem pending_write (file : BufferedFile) (bytes : Bytes) :
    (file.write bytes).2.pending = file.pending := by
  unfold write
  split <;> rfl

theorem answers_write_le (file : BufferedFile) (bytes : Bytes) :
    (file.write bytes).2.answers.length ≤ file.answers.length := by
  unfold write
  split <;> simp_all

theorem answers_write_lt {file : BufferedFile} {bytes : Bytes}
    (failed : (file.write bytes).1 = none) :
    (file.write bytes).2.answers.length < file.answers.length := by
  unfold write at failed ⊢
  split <;> simp_all

/-- Writes what is in the buffer, again after each interruption. A write that takes nothing fails. -/
def drain (file : BufferedFile) : Bool × BufferedFile :=
  if file.pending.isEmpty then (true, file)
  else
    match _wrote : file.write file.pending with
    | (none, next) => if next.interrupted then next.drain else (false, next)
    | (some 0, next) =>
      (false, { next with interrupted := false, fault := "failed to write the buffered data" })
    | (some (n + 1), next) => { next with pending := next.pending.drop (n + 1) }.drain
termination_by file.answers.length + file.pending.length
decreasing_by
  · have fewer := answers_write_lt (congrArg Prod.fst _wrote)
    have same := file.pending_write file.pending
    simp only [_wrote] at fewer same
    rw [same]
    omega
  · have fewer := file.answers_write_le file.pending
    have same := file.pending_write file.pending
    rw [_wrote] at fewer same
    simp only [List.isEmpty_iff, ← List.length_eq_zero_iff] at *
    rw [same, List.length_drop]
    omega

/-- Takes bytes into the buffer; those that no buffer takes are offered to the file itself. -/
def accept (file : BufferedFile) (bytes : Bytes) : Option Nat × BufferedFile :=
  if capacity ≤ bytes.length then file.write bytes
  else (some bytes.length, { file with pending := file.pending ++ bytes })

/-- Bytes for which the buffer has no room wait until it is drained. -/
def offer (file : BufferedFile) (bytes : Bytes) : Option Nat × BufferedFile :=
  if file.pending.length + bytes.length ≤ capacity then file.accept bytes
  else
    match file.drain with
    | (true, file) => file.accept bytes
    | (false, file) => (none, file)

def outlet : Outlet BufferedFile where
  offer := offer
  interrupted := interrupted
  flush := drain

/-- What the file holds when the writer lets go of it, after one more attempt at the rest. -/
def close (file : BufferedFile) : Bytes := file.drain.2.held

end BufferedFile

end ClusterArchive
