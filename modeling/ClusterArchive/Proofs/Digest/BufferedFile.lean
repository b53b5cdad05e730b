import ClusterArchive.Digest.BufferedFile
import ClusterArchive.Proofs.Digest.Stored

/-! What a buffered file has taken: what it holds, and after it what is in the buffer. Offers add to it
what they accept, and nothing else changes it, whatever the disk does. So a writer before such a file
has hashed and counted what the file holds once the buffer is empty. -/

namespace ClusterArchive

namespace BufferedFile

/-- What was accepted, in its order. -/
def taken (file : BufferedFile) : Bytes := file.held ++ file.pending

theorem held_write (file : BufferedFile) (bytes : Bytes) :
    (file.write bytes).2.held = file.held ++ bytes.take ((file.write bytes).1.getD 0) := by
  unfold write
  split <;> simp

theorem write_modest {file : BufferedFile} {bytes : Bytes} {n : Nat}
    (wrote : (file.write bytes).1 = some n) : n ≤ bytes.length := by
  unfold write at wrote
  split at wrote <;> simp at wrote <;> omega

theorem taken_written {file next : BufferedFile} {count : Option Nat}
    (wrote : file.write file.pending = (count, next)) :
    next.held ++ next.pending.drop (count.getD 0) = file.taken := by
  have held := file.held_write file.pending
  have pending := file.pending_write file.pending
  rw [wrote] at held pending
  rw [held, pending, List.append_assoc, List.take_append_drop, taken]

theorem taken_drain (file : BufferedFile) : file.drain.2.taken = file.taken := by
  fun_induction drain file with
  | case1 => rfl
  | case2 file _ next wrote _ ih => exact ih.trans (taken_written wrote)
  | case3 file _ next wrote => exact taken_written wrote
  | case4 file _ next wrote => exact taken_written wrote
  | case5 file _ n next wrote ih => exact ih.trans (taken_written wrote)

theorem pending_drain (file : BufferedFile) (drained : file.drain.1 = true) :
    file.drain.2.pending = [] := by
  fun_induction drain file with
  | case1 file empty => exact List.isEmpty_iff.mp empty
  | case2 file _ next wrote _ ih => exact ih drained
  | case3 | case4 => cases drained
  | case5 file _ n next wrote ih => exact ih drained

theorem drain_of_empty {file : BufferedFile} (empty : file.pending = []) :
    file.drain = (true, file) := by
  unfold drain
  simp [empty]

theorem close_prefix (file : BufferedFile) : file.close <+: file.taken := by
  rw [close, ← taken_drain file]
  exact List.prefix_append ..

theorem taken_accept {file : BufferedFile} {bytes : Bytes}
    (room : capacity ≤ bytes.length → file.pending = []) :
    (file.accept bytes).2.taken = file.taken ++ bytes.take ((file.accept bytes).1.getD 0) := by
  unfold accept
  split
  next large => simp [taken, pending_write, held_write, room large]
  next => simp [taken]

theorem accept_modest {file : BufferedFile} {bytes : Bytes} {n : Nat}
    (accepted : (file.accept bytes).1 = some n) : n ≤ bytes.length := by
  unfold accept at accepted
  split at accepted
  next => exact write_modest accepted
  next => exact Nat.le_of_eq (Option.some.inj accepted).symm

/-- Bytes are offered to the file as it is or drained, unless it cannot be drained. What goes past the
buffer finds it empty. -/
theorem offer_cases (file : BufferedFile) (bytes : Bytes) :
    (∃ stuck, file.drain = (false, stuck) ∧ file.offer bytes = (none, stuck)) ∨
    ∃ ready, (ready = file ∨ file.drain = (true, ready)) ∧
      (capacity ≤ bytes.length → ready.pending = []) ∧ file.offer bytes = ready.accept bytes := by
  unfold offer
  split
  next fits => exact .inr ⟨file, .inl rfl, fun large => List.length_eq_zero_iff.mp (by omega), rfl⟩
  next =>
    rcases drained : file.drain with ⟨ready, next⟩
    cases ready with
    | false => exact .inl ⟨next, rfl, rfl⟩
    | true =>
      have empty := file.pending_drain (by rw [drained])
      rw [drained] at empty
      exact .inr ⟨next, .inr rfl, fun _ => empty, rfl⟩

theorem taken_offer (file : BufferedFile) (bytes : Bytes) :
    (file.offer bytes).2.taken = file.taken ++ bytes.take ((file.offer bytes).1.getD 0) := by
  rcases file.offer_cases bytes with ⟨stuck, drained, offered⟩ | ⟨ready, isReady, room, offered⟩
  · rw [offered, ← file.taken_drain, drained]
    simp
  · have same : ready.taken = file.taken := by
      rcases isReady with rfl | drained
      · rfl
      · rw [← file.taken_drain, drained]
    rw [offered, ← same]
    exact taken_accept room

theorem modest_outlet : outlet.IsModest := by
  intro file bytes n accepted
  change (file.offer bytes).1 = some n at accepted
  rcases file.offer_cases bytes with ⟨stuck, _, offered⟩ | ⟨ready, _, _, offered⟩
  · rw [offered] at accepted
    cases accepted
  · rw [offered] at accepted
    exact accept_modest accepted

/-! Where the disk takes all. -/

variable {file : BufferedFile} (sound : file.answers = [])

include sound

theorem write_of_sound (bytes : Bytes) :
    file.write bytes = (some bytes.length, { file with held := file.held ++ bytes }) := by
  simp [write, sound]

theorem drain_of_sound : file.drain = (true, { file with held := file.taken, pending := [] }) := by
  obtain ⟨held, pending, answers, interrupted, fault⟩ := file
  cases pending with
  | nil => rw [drain_of_empty rfl, taken, List.append_nil]
  | cons byte rest =>
    unfold drain
    rw [write_of_sound sound]
    simp only [List.isEmpty_cons, Bool.false_eq_true, if_false, List.length_cons]
    rw [drain_of_empty (by simp)]
    simp [taken]

theorem accept_of_sound (bytes : Bytes) :
    ∃ next, file.accept bytes = (some bytes.length, next) ∧ next.answers = [] := by
  unfold accept
  split
  next => exact ⟨_, write_of_sound sound bytes, sound⟩
  next => exact ⟨_, rfl, sound⟩

theorem offer_of_sound (bytes : Bytes) :
    ∃ next, file.offer bytes = (some bytes.length, next) ∧ next.answers = [] := by
  have drains := drain_of_sound sound
  rcases file.offer_cases bytes with ⟨stuck, drained, _⟩ | ⟨ready, isReady, _, offered⟩
  · rw [drains] at drained
    cases drained
  · have soundReady : ready.answers = [] := by
      rcases isReady with rfl | drained
      · exact sound
      · rw [drains] at drained
        obtain rfl := (Prod.mk.inj drained).2
        exact sound
    rw [offered]
    exact accept_of_sound soundReady bytes

end BufferedFile

/-! Writers before an outlet that shows what it accepted. -/

/-- What an outlet accepts is added to what it shows. -/
structure Outlet.Shows {τ : Type} (outlet : Outlet τ) (view : τ → Bytes) : Prop where
  modest : outlet.IsModest
  offer : ∀ s bytes, view (outlet.offer s bytes).2 =
    view s ++ bytes.take ((outlet.offer s bytes).1.getD 0)
  flush : ∀ s, view (outlet.flush s).2 = view s

theorem BufferedFile.shows_taken : outlet.Shows taken := ⟨modest_outlet, taken_offer, taken_drain⟩

namespace DigestWriter

variable {τ : Type} {outlet : Outlet τ} {view : τ → Bytes}

/-- A writer that has seen what its sink shows. -/
def Agrees (view : τ → Bytes) (writer : DigestWriter τ) : Prop :=
  writer = after writer.inner (view writer.inner)

theorem agrees_after (inner : τ) : (after inner (view inner)).Agrees view := rfl

theorem Agrees.write (shows : outlet.Shows view) {writer next : DigestWriter τ}
    (agrees : writer.Agrees view) {bytes : Bytes} {count : Option Nat}
    (wrote : writer.write outlet.toSink bytes = (count, next)) : next.Agrees view := by
  rcases offered : outlet.offer writer.inner bytes with ⟨accepted, inner⟩
  have shown := shows.offer writer.inner bytes
  rw [offered] at shown
  rw [agrees, write_after shows.modest offered, ← shown] at wrote
  obtain ⟨_, rfl⟩ := Prod.mk.inj wrote
  exact agrees_after inner

theorem Agrees.writeWithin (shows : outlet.Shows view) (offers : Nat) {writer : DigestWriter τ}
    (agrees : writer.Agrees view) (bytes : Bytes) :
    (writer.writeWithin outlet offers bytes).2.Agrees view := by
  fun_induction DigestWriter.writeWithin outlet offers writer bytes with
  | case1 | case2 => exact agrees
  | case3 writer bytes _ offers next wrote _ ih => exact ih (agrees.write shows wrote)
  | case4 writer bytes _ offers next wrote => exact agrees.write shows wrote
  | case5 writer bytes _ offers next wrote => exact agrees.write shows wrote
  | case6 writer bytes _ offers n next wrote ih => exact ih (agrees.write shows wrote)

theorem Agrees.perform (shows : outlet.Shows view) {writer : DigestWriter τ}
    (agrees : writer.Agrees view) (call : WriterCall) : (writer.perform outlet call).2.Agrees view := by
  cases call with
  | write bytes => exact agrees.write shows rfl
  | writeAll offers bytes => exact agrees.writeWithin shows offers bytes
  | flush =>
    have flushed : { writer with inner := (outlet.flush writer.inner).2 } =
        after (outlet.flush writer.inner).2 (view writer.inner) := by
      rw [agrees]
      rfl
    rw [← shows.flush] at flushed
    exact flushed

/-- Where the disk takes all, all is written at the first offer. -/
theorem writeWithin_of_sound {file : BufferedFile} (sound : file.answers = []) (bytes : Bytes) :
    ∃ next : BufferedFile, (after file file.taken).writeWithin BufferedFile.outlet bytes.length bytes =
      (some true, after next (file.taken ++ bytes)) ∧ next.answers = [] ∧
      next.taken = file.taken ++ bytes := by
  cases bytes with
  | nil => exact ⟨file, by simp, sound, by simp⟩
  | cons byte rest =>
    obtain ⟨next, offered, soundNext⟩ := BufferedFile.offer_of_sound sound (byte :: rest)
    have taken := BufferedFile.taken_offer file (byte :: rest)
    have wrote : (after file file.taken).write BufferedFile.outlet.toSink _ = _ :=
      write_after BufferedFile.modest_outlet offered
    rw [offered] at taken
    simp only [Option.getD_some, List.take_length] at taken wrote
    refine ⟨next, ?_, soundNext, taken⟩
    rw [List.length_cons, writeWithin, wrote]
    simp

end DigestWriter

end ClusterArchive
