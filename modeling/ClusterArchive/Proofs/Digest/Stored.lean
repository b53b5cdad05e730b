import ClusterArchive.Digest.Writer
import ClusterArchive.Engine.Basic
import ClusterArchive.Proofs.Volume.Plain

/-! Digests of what is stored. Whatever a sink accepts of what it is offered, the writer before it has
hashed and counted these bytes and no others; and however a file is read, its digest is that of its
bytes. -/

namespace ClusterArchive

namespace Outlet

variable {τ : Type}

/-- Accepts no more than is offered. -/
def IsModest (outlet : Outlet τ) : Prop :=
  ∀ s bytes n, (outlet.offer s bytes).1 = some n → n ≤ bytes.length

/-- The same outlet, with the bytes that it accepted written down. -/
def recorded (outlet : Outlet τ) : Outlet (τ × Bytes) where
  offer s bytes :=
    let (count, next) := outlet.offer s.1 bytes
    (count, next, s.2 ++ bytes.take (count.getD 0))
  interrupted s := outlet.interrupted s.1
  flush s :=
    let (well, next) := outlet.flush s.1
    (well, next, s.2)

theorem IsModest.recorded {outlet : Outlet τ} (modest : outlet.IsModest) :
    outlet.recorded.IsModest :=
  fun s bytes n accepted => modest s.1 bytes n accepted

end Outlet

namespace DigestWriter

variable {τ : Type} {outlet : Outlet τ}

/-- Calls one after the other, whether or not those before went well, up to one that still goes on. -/
def run (outlet : Outlet τ) (writer : DigestWriter τ) :
    List WriterCall → List WriterAnswer × DigestWriter τ
  | [] => ([], writer)
  | call :: rest =>
    let (answer, writer) := writer.perform outlet call
    if answer = .ongoing then ([answer], writer)
    else
      let (answers, writer) := writer.run outlet rest
      (answer :: answers, writer)

def after (inner : τ) (bytes : Bytes) : DigestWriter τ :=
  ⟨inner, Sha256.Hasher.start.update bytes, bytes.length⟩

theorem finish_after (outlet : Outlet τ) (inner : τ) (bytes : Bytes) :
    (after inner bytes).finish outlet =
      if (outlet.flush inner).1 then some ((outlet.flush inner).2, sha256 bytes, bytes.length)
      else none := by
  have is : (after inner bytes).inner = inner := rfl
  rw [finish, is]
  rcases outlet.flush inner with ⟨well, next⟩
  cases well <;> rfl

theorem write_after (modest : outlet.IsModest) {inner next : τ} {seen bytes : Bytes}
    {count : Option Nat} (offered : outlet.offer inner bytes = (count, next)) :
    (after inner seen).write outlet.toSink bytes =
      (count, after next (seen ++ bytes.take (count.getD 0))) := by
  have modest := modest inner bytes
  rw [offered] at modest
  cases count with
  | none => simp [write, after, offered]
  | some n =>
    have within : n ≤ bytes.length := modest n rfl
    simp [write, after, offered, Sha256.Hasher.update_append, within]

/-- With a record, a writer goes on as it does without, and sees what is recorded. -/
theorem write_recorded (modest : outlet.IsModest) (inner : τ) (seen bytes : Bytes) :
    ∃ count next more, more <+: bytes ∧ count.getD 0 = more.length ∧
      (after inner seen).write outlet.toSink bytes = (count, after next (seen ++ more)) ∧
      (after (inner, seen) seen).write outlet.recorded.toSink bytes =
        (count, after (next, seen ++ more) (seen ++ more)) := by
  rcases offered : outlet.offer inner bytes with ⟨count, next⟩
  have recorded : outlet.recorded.offer (inner, seen) bytes =
      (count, next, seen ++ bytes.take (count.getD 0)) := by simp [Outlet.recorded, offered]
  refine ⟨count, next, bytes.take (count.getD 0), List.take_prefix .., ?_, write_after modest offered,
    write_after modest.recorded recorded⟩
  cases count with
  | none => simp
  | some n =>
    have within : n ≤ bytes.length := modest inner bytes n (by rw [offered])
    simp [within]

@[simp] theorem writeWithin_nil (outlet : Outlet τ) (offers : Nat) (writer : DigestWriter τ) :
    writer.writeWithin outlet offers [] = (some true, writer) := by
  cases offers <;> rfl

/-- What a call that writes all comes to. A front of the bytes was accepted, and all of them if it went
well; with a record it comes to the same. -/
def Advances (outlet : Outlet τ) (offers : Nat) (inner : τ) (seen bytes : Bytes) : Prop :=
  ∃ well next more, more <+: bytes ∧ (well = some true → more = bytes) ∧
    (after inner seen).writeWithin outlet offers bytes = (well, after next (seen ++ more)) ∧
    (after (inner, seen) seen).writeWithin outlet.recorded offers bytes =
      (well, after (next, seen ++ more) (seen ++ more))

theorem advances_nil (outlet : Outlet τ) (offers : Nat) (inner : τ) (seen : Bytes) :
    Advances outlet offers inner seen [] :=
  ⟨some true, inner, [], List.prefix_rfl, fun _ => rfl, by simp, by simp⟩

theorem writeWithin_recorded (modest : outlet.IsModest) (offers : Nat) (inner : τ) (seen bytes : Bytes) :
    Advances outlet offers inner seen bytes := by
  induction offers generalizing inner seen bytes with
  | zero =>
    by_cases empty : bytes.isEmpty
    · exact List.isEmpty_iff.mp empty ▸ advances_nil outlet 0 inner seen
    · exact ⟨none, inner, [], List.nil_prefix, by simp, by simp [writeWithin, empty],
        by simp [writeWithin, empty]⟩
  | succ offers ih =>
    by_cases empty : bytes.isEmpty
    · exact List.isEmpty_iff.mp empty ▸ advances_nil outlet (offers + 1) inner seen
    obtain ⟨count, next, more, isFront, counted, wrote, recorded⟩ :=
      write_recorded modest inner seen bytes
    simp only [Advances, writeWithin, if_neg empty, wrote, recorded]
    cases count with
    | none =>
      obtain rfl := List.length_eq_zero_iff.mp counted.symm
      rw [List.append_nil]
      by_cases again : outlet.interrupted next
      · simpa [Advances, after, Outlet.recorded, again] using ih next seen bytes
      · exact ⟨some false, next, [], List.nil_prefix, by simp, by simp [after, again],
          by simp [after, Outlet.recorded, again]⟩
    | some n =>
      cases n with
      | zero =>
        obtain rfl := List.length_eq_zero_iff.mp counted.symm
        exact ⟨some false, next, [], List.nil_prefix, by simp, rfl, rfl⟩
      | succ n =>
        have split : bytes = more ++ bytes.drop (n + 1) := by
          obtain ⟨rest, rfl⟩ := isFront
          rw [show n + 1 = more.length from counted, List.drop_left]
        obtain ⟨well, last, latest, isFrontThen, whole, went, recordedThen⟩ :=
          ih next (seen ++ more) (bytes.drop (n + 1))
        refine ⟨well, last, more ++ latest, ?_, fun fine => ?_, ?_, ?_⟩
        · rw [split]
          exact (List.prefix_append_right_inj more).mpr isFrontThen
        · rw [whole fine, ← split]
        · simpa only [List.append_assoc] using went
        · simpa only [List.append_assoc] using recordedThen

theorem perform_recorded (modest : outlet.IsModest) (inner : τ) (seen : Bytes) (call : WriterCall) :
    ∃ answer next more, (after inner seen).perform outlet call = (answer, after next (seen ++ more)) ∧
      (after (inner, seen) seen).perform outlet.recorded call =
        (answer, after (next, seen ++ more) (seen ++ more)) := by
  cases call with
  | write bytes =>
    obtain ⟨count, next, more, _, _, wrote, recorded⟩ := write_recorded modest inner seen bytes
    exact ⟨.accepted count, next, more, by simp [perform, wrote], by simp [perform, recorded]⟩
  | writeAll offers bytes =>
    obtain ⟨well, next, more, _, _, went, recorded⟩ :=
      writeWithin_recorded modest offers inner seen bytes
    exact ⟨well.elim .ongoing .ended, next, more, by simp only [perform, went],
      by simp only [perform, recorded]⟩
  | flush => exact ⟨_, _, [], by rw [List.append_nil]; rfl, by rw [List.append_nil]; rfl⟩

theorem run_recorded (modest : outlet.IsModest) (calls : List WriterCall) (inner : τ) (seen : Bytes) :
    ∃ answers next more, (after inner seen).run outlet calls = (answers, after next (seen ++ more)) ∧
      (after (inner, seen) seen).run outlet.recorded calls =
        (answers, after (next, seen ++ more) (seen ++ more)) := by
  induction calls generalizing inner seen with
  | nil => exact ⟨[], inner, [], by rw [List.append_nil]; rfl, by rw [List.append_nil]; rfl⟩
  | cons call rest ih =>
    obtain ⟨answer, next, more, performed, recorded⟩ := perform_recorded modest inner seen call
    simp only [run, performed, recorded]
    by_cases ongoing : answer = .ongoing
    · exact ⟨[answer], next, more, by simp [ongoing], by simp [ongoing]⟩
    · obtain ⟨answers, last, latest, ran, ranRecorded⟩ := ih next (seen ++ more)
      refine ⟨answer :: answers, last, more ++ latest, ?_, ?_⟩
      · simp only [if_neg ongoing, ran, List.append_assoc]
      · simp only [if_neg ongoing, ranRecorded, List.append_assoc]

/-- Where no offer is interrupted, all is written as to a plain sink, a byte at least by each offer. -/
theorem writeWithin_eq (calm : ∀ s, outlet.interrupted s = false) (writer : DigestWriter τ)
    (bytes : Bytes) {offers : Nat} (enough : bytes.length ≤ offers) :
    writer.writeWithin outlet offers bytes =
      (some (writer.writeAll outlet.toSink bytes).1, (writer.writeAll outlet.toSink bytes).2) := by
  induction offers generalizing writer bytes with
  | zero =>
    obtain rfl : bytes = [] := List.length_eq_zero_iff.mp (Nat.le_zero.mp enough)
    rw [writeWithin_nil, writeAll, if_pos List.isEmpty_nil]
  | succ offers ih =>
    by_cases empty : bytes.isEmpty
    · obtain rfl := List.isEmpty_iff.mp empty
      rw [writeWithin_nil, writeAll, if_pos List.isEmpty_nil]
    rw [writeAll, writeWithin, if_neg empty, if_neg empty]
    rcases writer.write outlet.toSink bytes with ⟨_ | _ | n, next⟩
    · simp [calm]
    · rfl
    · exact ih next (bytes.drop (n + 1)) (by rw [List.length_drop]; omega)

end DigestWriter

/-- The verification passes exactly if the file has the recorded digest, and tells both if not. -/
theorem verifyIn_of_read (splitting : Splitting) {result : BackupResult} {volume : Volume}
    {bytes : Bytes} (read : volume.read result.archivePath = .ok bytes) :
    result.verifyIn splitting volume =
      if sha256 bytes = result.sha256 then .ok ()
      else .error (.integrity result.sha256 (sha256 bytes)) := by
  simp only [BackupResult.verifyIn, hashFileIn_eq, read, bind, Except.bind]
  rfl

/-- Whatever a sink does, after any calls, the last of which may still go on, a writer has counted and
hashed the bytes that the sink accepted; the record of these changes nothing. Whichever way a file is
read, its digest is that of its bytes, and its verification compares that. -/
theorem digests_agree :
    (∀ {τ : Type} (outlet : Outlet τ), outlet.IsModest → ∀ (inner : τ) (calls : List WriterCall)
      (answers : List WriterAnswer) (writer : DigestWriter τ),
      (DigestWriter.start inner).run outlet calls = (answers, writer) →
      ∃ stored : Bytes,
        (DigestWriter.start (inner, [])).run outlet.recorded calls =
          (answers, ⟨(writer.inner, stored), writer.hasher, writer.bytesWritten⟩) ∧
        writer.bytesWritten = stored.length ∧
        writer.finish outlet = if (outlet.flush writer.inner).1 then
          some ((outlet.flush writer.inner).2, sha256 stored, stored.length) else none) ∧
    ∀ (splitting : Splitting) (volume : Volume) (path : String) (bytes : Bytes),
      volume.read path = .ok bytes →
      hashFileIn splitting volume path = .ok (sha256 bytes) ∧
      ∀ result : BackupResult, result.archivePath = path →
        (result.verifyIn splitting volume = .ok () ↔ sha256 bytes = result.sha256) := by
  constructor
  · intro τ outlet modest inner calls answers writer ran
    obtain ⟨_, next, stored, plain, recorded⟩ := DigestWriter.run_recorded modest calls inner []
    obtain ⟨rfl, rfl⟩ := Prod.mk.inj (ran.symm.trans plain)
    exact ⟨stored, recorded, rfl, DigestWriter.finish_after outlet next stored⟩
  · intro splitting volume path bytes read
    refine ⟨by rw [hashFileIn_eq, read], ?_⟩
    rintro result rfl
    rw [verifyIn_of_read splitting read]
    split
    next same => exact iff_of_true rfl same
    next other => exact iff_of_false (by simp) other

/-! A sink that accepts two bytes at most at a time. Its second offer is interrupted, its fourth
fails. -/

def patchyOutlet : Outlet Nat where
  offer calls bytes :=
    (if calls = 1 ∨ calls = 3 then none else some (min 2 bytes.length), calls + 1)
  interrupted calls := calls = 2
  flush calls := (true, calls)

def Splitting.single : Splitting where
  size left := min left 1
  proceeds left some_ := by omega
  bounded left := by simp only [bufferSize]; omega

def patchyCalls : List WriterCall := [.write [1, 2, 3], .writeAll 9 [4, 5, 6], .write [7]]

def patchyAnswers : List WriterAnswer := [.accepted (some 2), .ended false, .accepted (some 1)]

theorem modest_patchy : patchyOutlet.IsModest := by
  intro calls bytes n accepted
  simp only [patchyOutlet] at accepted
  split at accepted
  next => cases accepted
  next =>
    obtain rfl := Option.some.inj accepted
    exact Nat.min_le_right ..

theorem run_patchy : (DigestWriter.start 0).run patchyOutlet patchyCalls =
    (patchyAnswers, .after 5 [1, 2, 4, 5, 7]) := by
  rfl

def smallVolume : Volume := ⟨[(["small"], .file (.ofBytes [1, 2, 3]) ⟨0, 0⟩)], []⟩

theorem read_small : smallVolume.read "/small" = .ok [1, 2, 3] := by
  have plain : Volume.IsPlain "/small" ["small"] := by decide
  have linkFree : smallVolume.LinkFree [] := .of_nodes (by simp [smallVolume])
  have found := plain.find linkFree (Volume.directories_nil _ _) true
  simp only [Volume.read, Volume.openFile, found]
  rfl

/-- What was cut off by a failure is not counted, and what came behind it is. -/
theorem digests_agree_patchy :
    (∃ stored : Bytes, stored.length = 5 ∧
      (DigestWriter.start (0, [])).run patchyOutlet.recorded patchyCalls =
        (patchyAnswers, ⟨(5, stored), (DigestWriter.after 5 [1, 2, 4, 5, 7]).hasher, 5⟩) ∧
      (DigestWriter.after 5 [1, 2, 4, 5, 7]).finish patchyOutlet =
        some (5, sha256 stored, stored.length)) ∧
    hashFileIn .single smallVolume "/small" = .ok (sha256 [1, 2, 3]) ∧
    ∀ result : BackupResult, result.archivePath = "/small" →
      (result.verifyIn .single smallVolume = .ok () ↔ sha256 [1, 2, 3] = result.sha256) := by
  obtain ⟨written, read⟩ := digests_agree
  obtain ⟨stored, recorded, counted, finished⟩ :=
    written patchyOutlet modest_patchy 0 patchyCalls patchyAnswers _ run_patchy
  exact ⟨⟨stored, counted.symm, recorded, finished⟩, read .single smallVolume "/small" _ read_small⟩

end ClusterArchive
