import ClusterArchive.Engine.Medium
import ClusterArchive.Proofs.Digest.BufferedFile

/-! What an archive file holds when its writing ends. It holds the front of what was hashed and
counted, and all of it if nothing failed; so the size and the digest that are told are those of the
file, whatever a format writes and a disk does. -/

namespace ClusterArchive

open DigestWriter

theorem Writing.run_agrees {τ : Type} {outlet : Outlet τ} {view : τ → Bytes}
    (shows : outlet.Shows view) (writing : Writing) {writer : DigestWriter τ}
    (agrees : writer.Agrees view) : (writing.run outlet writer).2.Agrees view := by
  induction writing generalizing writer with
  | ends failure => exact agrees
  | calls call next ih => exact ih _ (agrees.perform shows call)

namespace Medium

/-- How a packing may end, with some bytes hashed and counted: the file holds a front of them, and
all of them if nothing failed. -/
inductive Filed (seen : Bytes) : Except RunError (Nat × String) × Bytes → Prop
  | partly {held : Bytes} (error : RunError) (front : held <+: seen) : Filed seen (.error error, held)
  | wholly : Filed seen (.ok (seen.length, sha256 seen), seen)

theorem Filed.front {seen : Bytes} {ending : Except RunError (Nat × String) × Bytes}
    (filed : Filed seen ending) : ending.2 <+: seen := by
  cases filed with
  | partly error front => exact front
  | wholly => exact List.prefix_rfl

theorem packInto_filed (medium : Medium) (volume : Volume) (staging : String) :
    ∃ seen, Filed seen (medium.packInto volume staging) := by
  have agrees : ((medium.pack volume staging).run BufferedFile.outlet
      (.start (.empty medium.disk))).2.Agrees BufferedFile.taken :=
    Writing.run_agrees BufferedFile.shows_taken _ (agrees_after _)
  unfold packInto
  generalize (medium.pack volume staging).run _ _ = result at agrees
  obtain ⟨failure, writer⟩ := result
  refine ⟨writer.inner.taken, ?_⟩
  cases failure with
  | some failure => exact .partly failure writer.inner.close_prefix
  | none =>
    have finished : writer.finish BufferedFile.outlet =
        if writer.inner.drain.1 then
          some (writer.inner.drain.2, sha256 writer.inner.taken, writer.inner.taken.length)
        else none :=
      (congrArg _ agrees).trans (finish_after ..)
    have same := writer.inner.taken_drain
    have empties := writer.inner.pending_drain
    simp only [finished]
    generalize writer.inner.drain = result at same empties
    obtain ⟨ready, file⟩ := result
    cases ready with
    | false => exact .partly (.io file.fault) (same ▸ file.close_prefix)
    | true =>
      have whole : file.held = writer.inner.taken := by
        rw [← same, BufferedFile.taken, empties rfl, List.append_nil]
      simp only [if_true, BufferedFile.drain_of_empty (empties rfl), whole]
      cases medium.disk.sync with
      | some fault => exact .partly (.io fault) List.prefix_rfl
      | none => exact .wholly

-- The disk takes one byte of three and is full from then on.
example (volume : Volume) (staging : String) :
    packInto ⟨fun _ _ => .calls (.write [1, 2, 3]) fun _ => .ends none,
      ⟨[.interrupts, .takes 1, .fails "full", .fails "full"], none⟩⟩ volume staging =
      (.error (.io "full"), [1]) := by
  cbv

end Medium

/-- On a disk that takes all, a format's packing is what the file holds. -/
theorem Engine.packInto_medium (engine : Engine) (volume : Volume) (staging : String) :
    let packing := engine.format.pack volume staging
    engine.medium.packInto volume staging =
      (match packing.failure with
        | none => .ok (packing.bytes.length, sha256 packing.bytes)
        | some failure => .error failure, packing.bytes) := by
  intro packing
  have sound : (BufferedFile.empty .sound).answers = [] := rfl
  obtain ⟨file, written, soundNow, taken⟩ := writeWithin_of_sound sound packing.bytes
  have ran : (engine.medium.pack volume staging).run BufferedFile.outlet (.start (.empty .sound)) =
      (packing.failure, after file packing.bytes) := by
    have performed : (DigestWriter.start (.empty .sound)).perform BufferedFile.outlet
        (.writeAll packing.bytes.length packing.bytes) = (.ended true, after file packing.bytes) :=
      congrArg (fun result => (result.1.elim WriterAnswer.ongoing .ended, result.2)) written
    simp only [Engine.medium, Packing.writing, Writing.run, packing] at performed ⊢
    rw [performed]
    rfl
  have drained := BufferedFile.drain_of_sound soundNow
  have holds : file.taken = packing.bytes := taken
  unfold Medium.packInto
  rw [show engine.medium.disk = .sound from rfl, ran]
  cases packing.failure with
  | some failure => simp [BufferedFile.close, drained, after, holds]
  | none =>
    have finished := finish_after BufferedFile.outlet file packing.bytes
    rw [show BufferedFile.outlet.flush file = _ from drained, if_pos rfl, holds] at finished
    simp only [finished]
    rw [BufferedFile.drain_of_empty rfl]
    rfl

end ClusterArchive
