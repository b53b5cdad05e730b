import ClusterArchive.Digest.BufferedFile
import ClusterArchive.Engine.Basic

/-! How an archive gets into its file. A format writes to a writer that hashes and counts, which writes
through a buffer to the disk. The archive is whole once all of it was written, flushed and made sure
of; any of these may fail. -/

namespace ClusterArchive

/-- What a format does with its writer. It goes on by the answer to each call, also by one that tells
of a failure, and fails or not in the end. -/
inductive Writing
  | ends (failure : Option RunError)
  | calls (call : WriterCall) (next : WriterAnswer → Writing)

def Writing.run {τ : Type} (outlet : Outlet τ) (writer : DigestWriter τ) :
    Writing → Option RunError × DigestWriter τ
  | .ends failure => (failure, writer)
  | .calls call next =>
    let (answer, writer) := writer.perform outlet call
    (next answer).run outlet writer

structure Medium where
  pack : Volume → String → Writing
  disk : Disk

/-- The bytes of a packing, written at once. -/
def Packing.writing (packing : Packing) : Writing :=
  .calls (.writeAll packing.bytes.length packing.bytes) fun
    | .ended true => .ends packing.failure
    | _ => .ends (some (.archive "Failed to finish compression: failed to write whole buffer"))

/-- The format of the engine on a disk that takes all. -/
def Engine.medium (engine : Engine) : Medium where
  pack volume staging := (engine.format.pack volume staging).writing
  disk := .sound

/-- Packs a directory into a new file: the size and the digest, and what the file holds then. -/
def Medium.packInto (medium : Medium) (volume : Volume) (staging : String) :
    Except RunError (Nat × String) × Bytes :=
  match (medium.pack volume staging).run BufferedFile.outlet (.start (.empty medium.disk)) with
  | (some failure, writer) => (.error failure, writer.inner.close)
  | (none, writer) =>
    match writer.finish BufferedFile.outlet with
    | none =>
      let (_, file) := writer.inner.drain
      (.error (.io file.fault), file.close)
    | some (file, digest, size) =>
      match file.drain with
      | (false, file) => (.error (.archive ("Failed to flush archive: " ++ file.fault)), file.close)
      | (true, file) =>
        match medium.disk.sync with
        | some fault => (.error (.io fault), file.held)
        | none => (.ok (size, digest), file.held)

/-- Packs the staging directory into a new archive, which is removed again if that fails. -/
def Medium.writeArchive {σ : Type} (medium : Medium) (store : Store) (name staging : String)
    (now : Instant) (world : World σ) : Except RunError (Nat × String) × World σ :=
  match world.onVolume (store.create · name now) with
  | (.error error, world) => (.error error, world)
  | (.ok location, world) =>
    let (packed, held) := medium.packInto world.volume staging
    let written := world.volume.put location (.file (.ofBytes held) now)
    match packed with
    | .ok told => (.ok told, { world with volume := written })
    | .error failure =>
      match store.delete written name with
      | .ok (_, volume) => (.error failure, { world with volume := volume })
      | .error error =>
        let world := { world with volume := written }
        (.error failure, world.warn "Failed to remove partial archive"
          [("archive", name), ("error", error.message)])

end ClusterArchive
