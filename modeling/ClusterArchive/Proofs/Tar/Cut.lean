import ClusterArchive.Proofs.Tar.Payload

/-! Payloads that end too early. The pieces before a cut are read whole, and a cut inside of a piece is
noticed. -/

namespace ClusterArchive.Tar

variable {ahead next : Ahead} {piece : Piece} {pieces rest : List Piece} {position cut : Nat}
  {failure : Option String} {more tail : Bytes}

/-! Where a payload is cut. -/

def members : Ahead → List Piece → List Member
  | _, [] => []
  | ahead, piece :: rest =>
    match ahead.add? piece.header piece.data with
    | some (.ok next) => members next rest
    | some (.error _) => []
    | none => piece.member ahead :: members .nothing rest

def within (cut : Nat) : List Piece → List Piece
  | [] => []
  | piece :: rest =>
    if piece.bytes.length ≤ cut then piece :: within (cut - piece.bytes.length) rest
    else if piece.reach ≤ cut then [piece]
    else []

/-- A cut through the header of a piece, or through what it has before its padding. -/
def IsInside (cut : Nat) (pieces : List Piece) : Prop :=
  ∃ before piece after, pieces = before ++ piece :: after ∧ (payloadBytes before).length < cut ∧
    cut < (payloadBytes before).length + piece.reach

@[simp] theorem payloadBytes_cons (piece : Piece) (rest : List Piece) :
    payloadBytes (piece :: rest) = piece.bytes ++ payloadBytes rest := rfl

theorem IsInside.cons {cut : Nat} (inside : IsInside cut (piece :: rest)) :
    0 < cut ∧ cut < piece.reach ∨ IsInside (cut - piece.bytes.length) rest := by
  obtain ⟨before, torn, after, shape, starts, ends⟩ := inside
  cases before with
  | nil =>
    obtain ⟨rfl, rfl⟩ := List.cons.inj shape
    simp only [payloadBytes, List.flatMap_nil, List.length_nil, Nat.zero_add] at starts ends
    exact .inl ⟨starts, ends⟩
  | cons first before =>
    obtain ⟨rfl, rfl⟩ := List.cons.inj shape
    rw [payloadBytes_cons, List.length_append] at starts ends
    exact .inr ⟨before, torn, after, rfl, by omega, by omega⟩

/-- What a reader makes of a payload that ends at a cut: the members of the pieces before it, and then
at most what is torn. -/
structure IsCut (cut : Nat) (pieces : List Piece) (whole torn : List Member) (listing : Listing) :
    Prop where
  shown : listing.members = whole ++ torn
  unfinished : ∀ member ∈ torn, member.isFile = true → member.data.length < member.size
  noticed : torn ≠ [] ∨ IsInside cut pieces → listing.fault.isSome = true

variable {position cut : Nat} {failure : Option String} {more tail : Bytes} {next : Ahead}

theorem Piece.IsSound.length_bytes (sound : piece.IsSound ahead) :
    piece.bytes.length = blockSize + piece.body.length := by
  rw [Piece.bytes, List.length_append, sound.block]

theorem Piece.IsSound.length_body (sound : piece.IsSound ahead) :
    piece.body.length = piece.blocks.length + padded piece.data.length := by
  rw [Piece.body, List.length_append, List.length_append, sound.filled]

theorem Piece.IsSound.reach_eq (sound : piece.IsSound ahead) :
    piece.reach = blockSize + (piece.blocks.length + piece.data.length) := by
  rw [Piece.reach, sound.block]

theorem readFrom_piece (sound : piece.IsSound ahead) (long : blockSize ≤ cut) :
    readFrom position ahead ⟨(piece.bytes ++ more).take cut, failure⟩ =
      if 2 ^ 64 ≤ position + (blockSize + padded piece.data.length) then ⟨[], some "size overflow"⟩
      else readBody position piece.data.length ahead piece.header
        ⟨(piece.body ++ more).take (cut - blockSize), failure⟩ := by
  have bytes : (piece.bytes ++ more).take cut =
      piece.header ++ (piece.body ++ more).take (cut - blockSize) := by
    rw [Piece.bytes, List.append_assoc, List.take_append, sound.block,
      List.take_of_length_le (by rw [sound.block]; exact long)]
  rw [bytes, readFrom_header sound.block sound.checksum sound.size]

/-- As much of the front of a text as its size asks for and its cut leaves. -/
theorem take_front {front : Bytes} (behind : Bytes) (cut : Nat) :
    ((front ++ behind).take cut).take front.length = front.take cut := by
  rw [List.take_take, List.take_append_of_le_length (Nat.min_le_left ..), ← List.take_take,
    List.take_of_length_le]
  rw [List.length_take]
  exact Nat.min_le_right ..

theorem take_data (bare : piece.blocks = []) (cut : Nat) :
    ((piece.body ++ more).take cut).take piece.data.length = piece.data.take cut := by
  rw [Piece.body, bare, List.nil_append, List.append_assoc, take_front]

theorem take_shown (present : piece.blocks.length + piece.data.length ≤ cut) :
    ((piece.body ++ more).take cut).take piece.data.length =
      (piece.blocks ++ piece.data).take piece.data.length := by
  have enough : min piece.data.length cut ≤ (piece.blocks ++ piece.data).length := by
    rw [List.length_append]
    omega
  have split : piece.body ++ more = piece.blocks ++ piece.data ++ (piece.padding ++ more) := by
    rw [Piece.body]
    simp only [List.append_assoc]
  rw [split, List.take_take, List.take_append_of_le_length enough, Nat.min_eq_left (by omega)]

theorem take_body (more : Bytes) (present : piece.blocks.length ≤ cut) :
    ∃ behind, (piece.body ++ more).take cut = piece.blocks ++ behind := by
  refine ⟨(piece.data ++ (piece.padding ++ more)).take (cut - piece.blocks.length), ?_⟩
  rw [Piece.body, List.append_assoc, List.append_assoc, List.take_append,
    List.take_of_length_le present]

theorem readBody_telling (sound : piece.IsSound ahead)
    (tells : ahead.add? piece.header piece.data = some (.ok next)) (bare : piece.blocks = [])
    (present : piece.data.length ≤ cut) :
    readBody position piece.data.length ahead piece.header ⟨(piece.body ++ more).take cut, failure⟩ =
      pass position next ⟨(piece.body ++ more).take cut, failure⟩ piece.body.length [] := by
  have taken : piece.body.length = padded piece.data.length := by
    simpa [bare] using sound.length_body
  simp [readBody, take_data bare, List.take_of_length_le present, tells, taken]

theorem readBody_standing (sound : piece.IsSound ahead)
    (stands : ahead.add? piece.header piece.data = none) (mapped : piece.IsMapped)
    (present : piece.blocks.length + piece.data.length ≤ cut) :
    readBody position piece.data.length ahead piece.header ⟨(piece.body ++ more).take cut, failure⟩ =
      pass position .nothing ⟨(piece.body ++ more).take cut, failure⟩ piece.body.length
        [piece.member ahead] := by
  have full : ¬((piece.blocks ++ piece.data).take piece.data.length).length < piece.data.length := by
    rw [List.length_take, List.length_append]
    omega
  have taken := sound.length_body
  unfold Piece.IsMapped at mapped
  split at mapped
  next sparse =>
    obtain ⟨count, counted, told⟩ := mapped
    obtain ⟨behind, split⟩ := take_body more (Nat.le_of_add_right_le present)
    have map := SparseMap.blocks_append told behind failure
    rw [← split] at map
    simp only [readBody, take_shown present, Ahead.add?_none stands, full, if_false, sparse, if_true,
      map, ← counted, ← taken, Piece.member]
  next plain =>
    rw [mapped, List.length_nil, Nat.zero_add] at taken
    simp only [readBody, take_shown present, Ahead.add?_none stands, full, if_false, plain,
      ← taken, Piece.member]

theorem readBody_telling_torn
    (tells : ahead.add? piece.header piece.data = some (.ok next)) (bare : piece.blocks = [])
    (short : cut < piece.data.length) :
    ∃ fault, readBody position piece.data.length ahead piece.header
      ⟨(piece.body ++ more).take cut, failure⟩ = ⟨[], some fault⟩ := by
  obtain ⟨told, tells⟩ := Ahead.add?_ok tells (piece.data.take cut)
  have part : (piece.data.take cut).length < piece.data.length := by
    rw [List.length_take]
    omega
  have missing : ((piece.body ++ more).take cut).length < padded piece.data.length := by
    have := length_le_padded piece.data.length
    rw [List.length_take]
    omega
  simp only [readBody, take_data bare, tells, part, if_true]
  cases failure with
  | some fault => exact ⟨fault, rfl⟩
  | none => exact pass_short missing position told none []

theorem readBody_standing_torn
    (stands : ahead.add? piece.header piece.data = none) (mapped : piece.IsMapped)
    (short : cut < piece.blocks.length + piece.data.length) :
    ∃ torn fault, readBody position piece.data.length ahead piece.header
      ⟨(piece.body ++ more).take cut, failure⟩ = ⟨torn, some fault⟩ ∧
      ∀ member ∈ torn, member.isFile = true → member.data.length < member.size := by
  have missing : ((piece.body ++ more).take cut).length <
      piece.blocks.length + padded piece.data.length := by
    have := length_le_padded piece.data.length
    rw [List.length_take]
    omega
  unfold Piece.IsMapped at mapped
  split at mapped
  next sparse =>
    obtain ⟨count, counted, told⟩ := mapped
    simp only [readBody, Ahead.add?_none stands, sparse, if_true]
    by_cases inside : cut < piece.blocks.length
    · have split : (piece.body ++ more).take cut = piece.blocks.take cut := by
        rw [Piece.body, List.append_assoc, List.take_append_of_le_length (Nat.le_of_lt inside)]
      obtain ⟨fault, stops⟩ := SparseMap.blocks_take told counted inside failure
      rw [split, stops]
      exact ⟨[], fault, rfl, by simp⟩
    · obtain ⟨behind, split⟩ := take_body more (Nat.not_lt.mp inside)
      have map := SparseMap.blocks_append told behind failure
      rw [← split] at map
      simp only [map, ← counted]
      refine ⟨_, _, if_pos missing, fun member isIn isFile => ?_⟩
      obtain rfl := List.mem_singleton.mp isIn
      simp [Member.isFile] at isFile
  next plain =>
    rw [mapped, List.length_nil, Nat.zero_add] at missing short
    have part : (piece.data.take cut).length < piece.data.length := by
      rw [List.length_take]
      omega
    simp only [readBody, Ahead.add?_none stands, plain, if_false, take_data mapped]
    refine ⟨_, _, if_pos missing, fun member isIn _ => ?_⟩
    obtain rfl := List.mem_singleton.mp isIn
    exact part

/-- What a piece shows and what it tells about the next one, whole or torn. -/
structure Reads (ahead next : Ahead) (piece : Piece) (shown : List Member) : Prop where
  sound : piece.IsSound ahead
  members : ∀ others, members ahead (piece :: others) = shown ++ members next others
  present : ∀ (position cut : Nat) (more : Bytes) (failure : Option String),
    piece.blocks.length + piece.data.length ≤ cut →
      readBody position piece.data.length ahead piece.header ⟨(piece.body ++ more).take cut, failure⟩ =
        pass position next ⟨(piece.body ++ more).take cut, failure⟩ piece.body.length shown
  torn : ∀ (position cut : Nat) (more : Bytes) (failure : Option String),
    cut < piece.blocks.length + piece.data.length → ∃ torn fault,
      readBody position piece.data.length ahead piece.header ⟨(piece.body ++ more).take cut, failure⟩ =
        ⟨torn, some fault⟩ ∧
      ∀ member ∈ torn, member.isFile = true → member.data.length < member.size

theorem Reads.telling (sound : piece.IsSound ahead)
    (tells : ahead.add? piece.header piece.data = some (.ok next)) (bare : piece.blocks = []) :
    Reads ahead next piece [] where
  sound := sound
  members others := by simp [Tar.members, tells]
  present position cut more failure fits :=
    readBody_telling sound tells bare (by simpa [bare] using fits)
  torn position cut more failure short := by
    obtain ⟨fault, stopped⟩ := readBody_telling_torn tells bare (by simpa [bare] using short)
    exact ⟨[], fault, stopped, by simp⟩

theorem Reads.standing (sound : piece.IsSound ahead)
    (stands : ahead.add? piece.header piece.data = none) (mapped : piece.IsMapped) :
    Reads ahead .nothing piece [piece.member ahead] where
  sound := sound
  members others := by simp [Tar.members, stands]
  present position cut more failure fits := readBody_standing sound stands mapped fits
  torn position cut more failure short := readBody_standing_torn stands mapped short

theorem Reads.whole {shown : List Member} (reads : Reads ahead next piece shown)
    (small : position + piece.bytes.length < 2 ^ 64) (more : Bytes) (failure : Option String) :
    readFrom position ahead ⟨piece.bytes ++ more, failure⟩ =
      let listing := readFrom (position + piece.bytes.length) next ⟨more, failure⟩
      ⟨shown ++ listing.members, listing.fault⟩ := by
  have length := reads.sound.length_bytes
  have body := reads.sound.length_body
  have fits := length_le_padded piece.data.length
  have all : (piece.bytes ++ more).take (piece.bytes ++ more).length = piece.bytes ++ more :=
    List.take_length
  have total : (piece.bytes ++ more).length = blockSize + (piece.body.length + more.length) := by
    rw [List.length_append, length, Nat.add_assoc]
  rw [← all, readFrom_piece reads.sound (by omega), if_neg (by omega), total,
    Nat.add_sub_cancel_left, reads.present _ _ _ _ (by omega), pass_whole rfl (by omega),
    Nat.add_sub_cancel_left, ← length, List.take_length]

theorem isCut_header (short : cut < blockSize) (reach : blockSize ≤ piece.reach)
    (bytes : piece.reach ≤ piece.bytes.length) (position : Nat) (ahead : Ahead)
    (failure : Option String) :
    IsCut cut (piece :: rest) [] []
      (readFrom position ahead ⟨(piece.bytes ++ more).take cut, failure⟩) := by
  have few : ((piece.bytes ++ more).take cut).length < blockSize := by
    rw [List.length_take]
    omega
  obtain ⟨none_, noticed⟩ := readFrom_short position ahead few failure
  refine ⟨none_, by simp, fun either => noticed ?_⟩
  rcases either with some_ | inside
  · exact absurd rfl some_
  · rcases inside.cons with ⟨some_, _⟩ | ⟨_, _, _, _, starts, _⟩
    · rw [← List.length_pos_iff, List.length_take, List.length_append]
      omega
    · omega

/-- One piece is read whole if its data ends before the cut, and the reading goes on behind it if it
ends there itself. -/
theorem Reads.step {shown : List Member} (reads : Reads ahead next piece shown)
    (small : position + ((piece.bytes ++ more).take cut).length + blockSize ≤ 2 ^ 64)
    (later : ∀ left, cut = piece.bytes.length + left →
      ∃ torn, IsCut left rest (Tar.members next (within left rest)) torn
        (readFrom (position + piece.bytes.length) next ⟨more.take left, failure⟩)) :
    ∃ torn, IsCut cut (piece :: rest) (Tar.members ahead (within cut (piece :: rest))) torn
      (readFrom position ahead ⟨(piece.bytes ++ more).take cut, failure⟩) := by
  have sound := reads.sound
  have length := sound.length_bytes
  have body := sound.length_body
  have reach := sound.reach_eq
  have fits := length_le_padded piece.data.length
  have filled := padded_lt piece.data.length
  rw [List.length_take, List.length_append] at small
  by_cases short : cut < blockSize
  · rw [within, if_neg (by omega), if_neg (by omega)]
    exact ⟨[], isCut_header short (by omega) (by omega) position ahead failure⟩
  · by_cases whole : piece.bytes.length ≤ cut
    · obtain ⟨left, rfl⟩ := Nat.exists_eq_add_of_le whole
      obtain ⟨torn, isCut⟩ := later left rfl
      rw [List.take_length_add_append, reads.whole (by omega), within, if_pos whole,
        Nat.add_sub_cancel_left, reads.members]
      refine ⟨torn, ?_, isCut.unfinished, fun either => isCut.noticed (either.imp_right fun inside => ?_)⟩
      · simp only [isCut.shown, List.append_assoc]
      · rcases inside.cons with ⟨_, short⟩ | inside
        · omega
        · rwa [Nat.add_sub_cancel_left] at inside
    · rw [readFrom_piece sound (Nat.not_lt.mp short), within, if_neg whole]
      by_cases present : piece.blocks.length + piece.data.length ≤ cut - blockSize
      · -- the cut is in the padding
        have missing : ((piece.body ++ more).take (cut - blockSize)).length < piece.body.length := by
          rw [List.length_take]
          omega
        have there : piece.reach ≤ cut := by omega
        have room : ¬2 ^ 64 ≤ position + (blockSize + padded piece.data.length) := by omega
        obtain ⟨fault, stopped⟩ := pass_short missing position next failure shown
        rw [if_pos there, if_neg room, reads.present _ _ _ _ present, stopped, reads.members]
        exact ⟨[], by simp [Tar.members], by simp, fun _ => rfl⟩
      · rw [if_neg (by omega : ¬piece.reach ≤ cut)]
        split
        next => exact ⟨[], rfl, by simp, fun _ => rfl⟩
        next =>
          obtain ⟨torn, fault, stopped, unfinished⟩ :=
            reads.torn position (cut - blockSize) more failure (Nat.not_le.mp present)
          rw [stopped]
          exact ⟨torn, rfl, unfinished, fun _ => rfl⟩

theorem isCut_end (ends : IsEnd tail) (position cut : Nat) (failure : Option String) :
    IsCut cut [] [] [] (readFrom position .nothing ⟨tail.take cut, failure⟩) := by
  have nowhere : ¬IsInside cut [] := by
    rintro ⟨before, _, _, shape, _⟩
    simp at shape
  refine ⟨?_, by simp, by simp [nowhere]⟩
  by_cases short : (tail.take cut).length < blockSize
  · exact (readFrom_short position .nothing short failure).1
  · rw [List.length_take] at short
    rcases ends with rfl | ⟨_, zeros⟩
    · simp [blockSize] at short
    · have first : ((tail.take cut).take blockSize).all (· = 0) = true := by
        rwa [List.take_take, Nat.min_eq_left (by omega)]
      rw [readFrom]
      simp [short, first]

/-- The pieces before a cut are read whole, whatever is at the cut, and a cut inside of one does not
go unnoticed. Only what is there has to have positions of 64 bits. -/
theorem readFrom_take (payload : Payload ahead pieces) (ends : IsEnd tail)
    (small : position + ((payloadBytes pieces ++ tail).take cut).length + blockSize ≤ 2 ^ 64)
    (failure : Option String) :
    ∃ torn, IsCut cut pieces (members ahead (within cut pieces)) torn
      (readFrom position ahead ⟨(payloadBytes pieces ++ tail).take cut, failure⟩) := by
  induction payload generalizing position cut with
  | done => exact ⟨[], isCut_end ends position cut failure⟩
  | @telling _ _ piece rest sound tells bare later ih =>
    rw [payloadBytes_cons, List.append_assoc] at small ⊢
    refine (Reads.telling sound tells bare).step small fun left same => ih ?_
    subst same
    rw [List.take_length_add_append, List.length_append] at small
    omega
  | @standing _ piece rest sound stands mapped later ih =>
    rw [payloadBytes_cons, List.append_assoc] at small ⊢
    refine (Reads.standing sound stands mapped).step small fun left same => ih ?_
    subst same
    rw [List.take_length_add_append, List.length_append] at small
    omega

theorem readFrom_end (ends : IsEnd tail) (position : Nat) :
    readFrom position .nothing ⟨tail, none⟩ = ⟨[], none⟩ := by
  rw [readFrom]
  rcases ends with rfl | ⟨long, zeros⟩
  · simp [blockSize]
  · simp [Nat.not_lt.mpr long, zeros]

theorem readFrom_payload (payload : Payload ahead pieces) (ends : IsEnd tail)
    (small : position + (payloadBytes pieces).length < 2 ^ 64) :
    readFrom position ahead ⟨payloadBytes pieces ++ tail, none⟩ = ⟨members ahead pieces, none⟩ := by
  induction payload generalizing position with
  | done => exact readFrom_end ends position
  | telling sound tells bare later ih =>
    have reads := Reads.telling sound tells bare
    rw [payloadBytes_cons, List.length_append] at small
    rw [payloadBytes_cons, List.append_assoc, reads.whole (by omega), ih (by omega), reads.members]
  | standing sound stands mapped later ih =>
    have reads := Reads.standing sound stands mapped
    rw [payloadBytes_cons, List.length_append] at small
    rw [payloadBytes_cons, List.append_assoc, reads.whole (by omega), ih (by omega), reads.members]

/-! The pieces before a cut are the first ones, up to the first that is not all before it. -/

/-- Pieces that are there up to a cut, but for padding, and no more than these. -/
structure IsBefore (cut : Nat) (before pieces : List Piece) : Prop where
  first : before <+: pieces
  there : ∀ front piece rest, before = front ++ piece :: rest →
    (payloadBytes front).length + piece.reach ≤ cut
  most : ∀ piece rest, pieces = before ++ piece :: rest →
    cut < (payloadBytes before).length + piece.reach

theorem isBefore_within (cut : Nat) (pieces : List Piece) : IsBefore cut (within cut pieces) pieces := by
  induction pieces generalizing cut with
  | nil => exact ⟨List.prefix_rfl, by simp [within], by simp⟩
  | cons piece rest ih =>
    have reach : piece.reach ≤ piece.bytes.length := by
      simp only [Piece.reach, Piece.bytes, Piece.body, List.length_append]
      omega
    rw [within]
    split
    next whole =>
      obtain ⟨first, there, most⟩ := ih (cut - piece.bytes.length)
      refine ⟨List.cons_prefix_cons.mpr ⟨rfl, first⟩, fun front other more shape => ?_,
        fun other more shape => ?_⟩
      · cases front with
        | nil =>
          obtain ⟨rfl, _⟩ := List.cons.inj shape
          simp only [payloadBytes, List.flatMap_nil, List.length_nil]
          omega
        | cons head front =>
          obtain ⟨rfl, later⟩ := List.cons.inj shape
          have bound := there front other more later
          rw [payloadBytes_cons, List.length_append]
          omega
      · have bound := most other more (List.cons.inj shape).2
        rw [payloadBytes_cons, List.length_append]
        omega
    next short =>
      split
      next present =>
        refine ⟨List.cons_prefix_cons.mpr ⟨rfl, List.nil_prefix⟩, fun front other more shape => ?_,
          fun other more shape => ?_⟩
        · obtain ⟨rfl, rfl, _⟩ : front = [] ∧ other = piece ∧ more = [] := by
            simpa [List.singleton_eq_append_iff] using shape
          simpa [payloadBytes] using present
        · rw [payloadBytes_cons, List.length_append]
          omega
      next torn =>
        refine ⟨List.nil_prefix, by simp, fun other more shape => ?_⟩
        obtain ⟨rfl, _⟩ := List.cons.inj shape
        simp only [payloadBytes, List.flatMap_nil, List.length_nil]
        omega

theorem members_start (first : pieces <+: rest) (ahead : Ahead) :
    members ahead pieces <+: members ahead rest := by
  induction pieces generalizing ahead rest with
  | nil => exact List.nil_prefix
  | cons piece pieces ih =>
    obtain ⟨more, rfl⟩ := first
    rw [List.cons_append, members, members]
    split
    next next _ => exact ih (List.prefix_append ..) next
    next => exact List.prefix_rfl
    next => exact List.cons_prefix_cons.mpr ⟨rfl, ih (List.prefix_append ..) .nothing⟩

end ClusterArchive.Tar
