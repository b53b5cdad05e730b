import ClusterArchive.Proofs.Format.Visit

/-! Archives that end too early. Whatever a visitor makes of the files, it is shown those that lie
before the cut, whole and in their order, and nothing of the one that is torn. -/

namespace ClusterArchive.TarGzip

open Tar

variable {σ : Type} {ahead : Ahead} {pieces : List Piece} {tail : Bytes}

/-- The regular files of well-formed pieces, with slashes in their paths. -/
def payloadFiles : Ahead → List Piece → List (String × Bytes)
  | _, [] => []
  | ahead, piece :: rest =>
    match ahead.add? piece.header piece.data with
    | some (.ok next) => payloadFiles next rest
    | some (.error _) => []
    | none =>
      if (piece.member ahead).isFile then
        ((piece.member ahead).pathText, piece.data) :: payloadFiles .nothing rest
      else payloadFiles .nothing rest

def filesAmong (members : List Tar.Member) : List (String × Bytes) :=
  members.filterMap fun member => if member.isFile then some (member.pathText, member.data) else none

theorem filesAmong_cons (member : Tar.Member) (rest : List Tar.Member) :
    filesAmong (member :: rest) =
      if member.isFile then (member.pathText, member.data) :: filesAmong rest else filesAmong rest := by
  rw [filesAmong, List.filterMap_cons]
  cases member.isFile <;> rfl

/-- Only a sparse file has blocks between its header and its data. -/
theorem bare_of_payload (payload : Payload ahead pieces) :
    ∀ piece ∈ pieces, piece.header.kind ≠ 0x53 → piece.blocks = [] := by
  induction payload with
  | done => simp
  | telling sound tells bare later ih => exact List.forall_mem_cons.mpr ⟨fun _ => bare, ih⟩
  | standing sound stands mapped later ih =>
    refine List.forall_mem_cons.mpr ⟨fun plain => ?_, ih⟩
    rwa [Piece.IsMapped, if_neg plain] at mapped

theorem filesAmong_members (bare : ∀ piece ∈ pieces, piece.header.kind ≠ 0x53 → piece.blocks = [])
    (ahead : Ahead) : filesAmong (members ahead pieces) = payloadFiles ahead pieces := by
  induction pieces generalizing ahead with
  | nil => rfl
  | cons piece rest ih =>
    obtain ⟨here, later⟩ := List.forall_mem_cons.mp bare
    cases told : ahead.add? piece.header piece.data with
    | some answer =>
      cases answer with
      | error fault => simp only [members, payloadFiles, told, filesAmong, List.filterMap_nil]
      | ok next => simp only [members, payloadFiles, told, ih later next]
    | none =>
      simp only [members, payloadFiles, told, filesAmong_cons, ih later]
      by_cases isFile : (piece.member ahead).isFile = true
      · have plain : piece.header.kind ≠ 0x53 := by
          intro sparse
          simp [Piece.member, Tar.Member.isFile, sparse] at isFile
        have data : (piece.member ahead).data = piece.data := by
          simp [Piece.member, here plain]
        simp only [if_pos isFile, data]
      · simp only [if_neg isFile]

theorem complete_members (pieces : List Piece) (ahead : Ahead) :
    ∀ member ∈ members ahead pieces, member.failure = none ∧ member.data.length = member.size := by
  induction pieces generalizing ahead with
  | nil => simp [members]
  | cons piece rest ih =>
    rw [members]
    split
    next next _ => exact ih next
    next => simp
    next =>
      refine List.forall_mem_cons.mpr ⟨⟨rfl, ?_⟩, ih .nothing⟩
      simp [Piece.member]

theorem deliver_append (fault : Option String) (torn : List Tar.Member) {whole : List Tar.Member}
    (complete : ∀ member ∈ whole, member.failure = none ∧ member.data.length = member.size) :
    deliver fault (whole ++ torn) =
      ⟨filesAmong whole ++ (deliver fault torn).files, (deliver fault torn).failure⟩ := by
  induction whole with
  | nil => rfl
  | cons member rest ih =>
    obtain ⟨⟨fine, full⟩, later⟩ := List.forall_mem_cons.mp complete
    rw [List.cons_append, deliver, ih later, filesAmong_cons]
    cases member.isFile with
    | false => rfl
    | true => simp [fine, full]

theorem deliver_torn (fault : Option String) {torn : List Tar.Member}
    (unfinished : ∀ member ∈ torn, member.isFile = true → member.data.length < member.size) :
    (deliver fault torn).files = [] ∧
      (fault.isSome = true → (deliver fault torn).failure.isSome = true) := by
  induction torn with
  | nil => cases fault <;> simp [deliver]
  | cons member rest ih =>
    obtain ⟨here, later⟩ := List.forall_mem_cons.mp unfinished
    rw [deliver]
    cases isFile : member.isFile with
    | false => exact ih later
    | true =>
      have short : member.data.length ≠ member.size := Nat.ne_of_lt (here isFile)
      cases member.failure <;> simp [short]

theorem tarFiles_take (payload : Payload .nothing pieces) (ends : IsEnd tail) {cut : Nat}
    (small : ((payloadBytes pieces ++ tail).take cut).length + blockSize ≤ 2 ^ 64)
    (failure : Option String) :
    (tarFiles ⟨(payloadBytes pieces ++ tail).take cut, failure⟩).files =
      payloadFiles .nothing (within cut pieces) ∧
    (IsInside cut pieces →
      (tarFiles ⟨(payloadBytes pieces ++ tail).take cut, failure⟩).failure.isSome = true) := by
  have start : 0 + ((payloadBytes pieces ++ tail).take cut).length + blockSize ≤ 2 ^ 64 := by omega
  obtain ⟨torn, isCut⟩ := readFrom_take payload ends start failure
  have bare : ∀ piece ∈ within cut pieces, piece.header.kind ≠ 0x53 → piece.blocks = [] :=
    fun piece isIn => bare_of_payload payload piece ((isBefore_within cut pieces).first.subset isIn)
  have complete := complete_members (within cut pieces) .nothing
  rw [tarFiles, readMembers]
  generalize readFrom 0 .nothing ⟨(payloadBytes pieces ++ tail).take cut, failure⟩ = listing at isCut ⊢
  obtain ⟨nothing, failed⟩ := deliver_torn listing.fault isCut.unfinished
  simp only [isCut.shown, deliver_append listing.fault torn complete, nothing, List.append_nil,
    filesAmong_members bare]
  exact ⟨trivial, fun inside => failed (isCut.noticed (.inr inside))⟩

theorem tarFiles_payload (payload : Payload .nothing pieces) (ends : IsEnd tail)
    (small : (payloadBytes pieces).length < 2 ^ 64) :
    tarFiles ⟨payloadBytes pieces ++ tail, none⟩ = ⟨payloadFiles .nothing pieces, none⟩ := by
  have start : 0 + (payloadBytes pieces).length < 2 ^ 64 := by omega
  have whole := deliver_append none [] (complete_members pieces .nothing)
  rw [List.append_nil] at whole
  rw [tarFiles, readMembers, readFrom_payload payload ends start, whole,
    filesAmong_members (bare_of_payload payload)]
  simp [deliver]

theorem payloadFiles_start {before : List Piece} (first : before <+: pieces)
    (bare : ∀ piece ∈ pieces, piece.header.kind ≠ 0x53 → piece.blocks = []) (ahead : Ahead) :
    payloadFiles ahead before <+: payloadFiles ahead pieces := by
  rw [← filesAmong_members bare, ← filesAmong_members fun piece isIn => bare piece (first.subset isIn)]
  exact (members_start first ahead).filterMap _

theorem backslash_pathText (member : Tar.Member) : '\\' ∉ member.pathText.toList := by
  rw [Tar.Member.pathText, String.toList_ofList]
  intro isIn
  obtain ⟨c, _, shown⟩ := List.mem_map.mp isIn
  split at shown
  next => cases shown
  next other => exact other shown

theorem backslash_payloadFiles (pieces : List Piece) (ahead : Ahead) :
    ∀ file ∈ payloadFiles ahead pieces, '\\' ∉ file.1.toList := by
  induction pieces generalizing ahead with
  | nil => simp [payloadFiles]
  | cons piece rest ih =>
    rw [payloadFiles]
    split
    next next _ => exact ih next
    next => simp
    next =>
      split
      next => exact List.forall_mem_cons.mpr ⟨backslash_pathText _, ih .nothing⟩
      next => exact ih .nothing

/-- How the files of a payload are shown that ends at a cut, with those that the visitor was handed. -/
structure IsShown (cut : Nat) (pieces : List Piece) (visit : Visitor σ) (s : σ)
    (handed : List (String × Bytes)) (outcome : Except RunError Unit) (t : σ) : Prop where
  before : IsBefore cut (within cut pieces) pieces
  whole : handed <+: payloadFiles .nothing (within cut pieces)
  order : payloadFiles .nothing (within cut pieces) <+: payloadFiles .nothing pieces
  slashes : ∀ file ∈ handed, '\\' ∉ file.1.toList
  visits : ∃ failure, Visits visit (payloadFiles .nothing (within cut pieces)) failure s handed outcome t
  torn : IsInside cut pieces → ∃ error, outcome = .error error

theorem Visits.first {visit : Visitor σ} {offered handed : List (String × Bytes)}
    {failure : Option RunError} {s t : σ} {outcome : Except RunError Unit}
    (visits : Visits visit offered failure s handed outcome t) : handed <+: offered := by
  cases visits with
  | failed reading accepts => exact List.prefix_rfl
  | finished reading accepts => exact List.prefix_rfl
  | refused first accepts refuses => exact first

theorem Visits.error {visit : Visitor σ} {offered handed : List (String × Bytes)}
    {failure : Option RunError} {s t : σ} {outcome : Except RunError Unit}
    (visits : Visits visit offered failure s handed outcome t) (failed : failure.isSome = true) :
    ∃ error, outcome = .error error := by
  cases visits with
  | failed reading accepts => exact ⟨_, rfl⟩
  | finished reading accepts =>
    rw [reading] at failed
    cases failed
  | refused first accepts refuses => exact ⟨_, rfl⟩

/-- Wherever a payload ends, and whatever the visitor: it is handed the first of the regular files that
lie before the cut, each with its complete data. A cut through a header or through data is an error,
and so is what the visitor refuses, with its own error and at once. -/
theorem forEachFile_cut (payload : Payload .nothing pieces) (ends : IsEnd tail) {input : ByteStream}
    {cut : Nat} {failure : Option String}
    (stream : Gzip.decompress input = ⟨(payloadBytes pieces ++ tail).take cut, failure⟩)
    (small : (Gzip.decompress input).bytes.length + blockSize ≤ 2 ^ 64) (visit : Visitor σ) (s : σ) :
    ∃ handed outcome t, forEachFile visit input s = (outcome, t) ∧
      forEachFile (recording visit) input (s, []) = (outcome, t, handed) ∧
      IsShown cut pieces visit s handed outcome t ∧
      ((payloadBytes pieces ++ tail).length ≤ cut → failure = none →
        (∀ path body r, (visit path body r).1 = .ok ()) →
          outcome = .ok () ∧ handed = payloadFiles .nothing pieces) := by
  rw [stream] at small
  obtain ⟨shown, failed⟩ := tarFiles_take payload ends small failure
  obtain ⟨handed, outcome, t, visited, recorded, visits⟩ :=
    visits visit (files input).failure (files input).files [] s
  have offered : (files input).files = payloadFiles .nothing (within cut pieces) := by
    rw [files, stream, shown]
  have before := isBefore_within cut pieces
  rw [offered] at visits
  refine ⟨handed, outcome, t, ?_, ?_, ⟨before, visits.first, ?_, ?_, ⟨_, visits⟩, ?_⟩, ?_⟩
  · rw [forEachFile_eq, visited]
  · rw [forEachFile_eq, recorded, List.nil_append]
  · exact payloadFiles_start before.first (bare_of_payload payload) .nothing
  · exact fun file isIn => backslash_payloadFiles _ _ file (visits.first.subset isIn)
  · intro inside
    apply visits.error
    rw [files, stream]
    exact failed inside
  · rintro uncut rfl accepts
    rw [List.take_of_length_le uncut, List.length_append] at small
    have room : 0 < blockSize := by decide
    have delivered := tarFiles_payload payload ends (by omega)
    rw [← List.take_of_length_le uncut] at delivered
    have whole : payloadFiles .nothing (within cut pieces) = payloadFiles .nothing pieces := by
      rw [← shown, delivered]
    have fine : (files input).failure = none := by
      rw [files, stream, delivered]
    rw [fine, whole] at visits
    cases visits with
    | failed reading _ => cases reading
    | finished => exact ⟨rfl, rfl⟩
    | @refused accepted path body error r t first _ refuses =>
      have taken := accepts path body r
      rw [refuses] at taken
      cases taken

/-- A file with a backslash in its name, a directory, and another file. -/
def mixedMembers : List (Bytes × Content) :=
  [([0x61, 0x5c, 0x62], .file [1, 2, 3]), ([0x64], .directory), ([0x65], .file [4, 5])]

def mixedPieces : List Piece := mixedMembers.flatMap fun (path, content) => memberPieces path content

theorem mixedPieces_eq : mixedPieces =
    [.made [0x61, 0x5c, 0x62] 0x30 [1, 2, 3] [], .made [0x64] 0x35 [] [], .made [0x65] 0x30 [4, 5] []] :=
  rfl

def tornArchive : ByteStream := .ofBytes (Gzip.compress ((write mixedMembers).take 2049))

def counting : Visitor Nat := fun _ _ n => (.ok (), n + 1)

theorem payload_mixed : Payload .nothing mixedPieces := by
  apply payload_members
  rw [write_eq, ← mixedPieces, mixedPieces_eq]
  have mark : endMark.length = 1024 := List.length_replicate ..
  simp [payloadBytes, Piece.bytes_made, mark, padded, blockSize]

theorem isInside_mixed : IsInside 2049 mixedPieces := by
  refine ⟨[.made [0x61, 0x5c, 0x62] 0x30 [1, 2, 3] [], .made [0x64] 0x35 [] []],
    .made [0x65] 0x30 [4, 5] [], [], rfl, ?_, ?_⟩
  · simp [payloadBytes, Piece.bytes_made, padded, blockSize]
  · simp [payloadBytes, Piece.bytes_made, Piece.reach_made, padded, blockSize]

theorem forEachFile_cut_mixed :
    Payload .nothing mixedPieces ∧ IsEnd endMark ∧ IsInside 2049 mixedPieces ∧
    ∃ handed error t, forEachFile counting tornArchive 0 = (.error error, t) ∧
      forEachFile (recording counting) tornArchive (0, []) = (.error error, t, handed) ∧
      IsShown 2049 mixedPieces counting 0 handed (.error error) t := by
  refine ⟨payload_mixed, isEnd_endMark, isInside_mixed, ?_⟩
  have stream : Gzip.decompress tornArchive = ⟨(payloadBytes mixedPieces ++ endMark).take 2049, none⟩ := by
    rw [tornArchive, Gzip.decompress_compress, write_eq]
    rfl
  have small : (Gzip.decompress tornArchive).bytes.length + blockSize ≤ 2 ^ 64 := by
    rw [stream, List.length_take]
    have : blockSize = 512 := rfl
    omega
  obtain ⟨handed, outcome, t, visited, recorded, shown, _⟩ :=
    forEachFile_cut payload_mixed isEnd_endMark stream small counting 0
  obtain ⟨error, rfl⟩ := shown.torn isInside_mixed
  exact ⟨handed, error, t, visited, recorded, shown⟩

end ClusterArchive.TarGzip
