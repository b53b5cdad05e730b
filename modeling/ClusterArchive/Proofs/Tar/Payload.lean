import ClusterArchive.Proofs.Tar.RoundTrip

/-! Tar payloads as sequences of pieces: a header, what continues it, the data and the bytes that fill
the last block. What a reader makes of one piece depends on how much of it is there. -/

namespace ClusterArchive.Tar

/-- One header with what belongs to it. The map of a sparse file can go on for some blocks. -/
structure Piece where
  header : Header
  blocks : Bytes
  data : Bytes
  padding : Bytes

namespace Piece

def body (piece : Piece) : Bytes := piece.blocks ++ (piece.data ++ piece.padding)

def bytes (piece : Piece) : Bytes := piece.header ++ piece.body

/-- Where the data ends, counted from the header on. -/
def reach (piece : Piece) : Nat := piece.header.length + (piece.blocks.length + piece.data.length)

/-- The member that a piece stands for. What is shown of a sparse file begins with its map. -/
def member (ahead : Ahead) (piece : Piece) : Member :=
  ⟨ahead.path piece.header, piece.header.kind, piece.data.length,
    (piece.blocks ++ piece.data).take piece.data.length, none⟩

/-- The header is a block whose checksum is right, and its size, or that told before, is that of the
data. -/
structure IsSound (ahead : Ahead) (piece : Piece) : Prop where
  block : piece.header.length = blockSize
  checksum : piece.header.isSound = true
  size : ahead.size? piece.header = some piece.data.length
  filled : piece.data.length + piece.padding.length = padded piece.data.length

/-- Only the map of a sparse file goes on behind the header, for as many blocks as it tells. -/
def IsMapped (piece : Piece) : Prop :=
  if piece.header.kind = 0x53 then ∃ count, piece.blocks.length = count * blockSize ∧
    SparseMap.blocks piece.header piece.data.length ⟨piece.blocks, none⟩ = .ok count
  else piece.blocks = []

end Piece

/-- Well-formed pieces. Some tell about the next one, which must come then; the others stand for
members. -/
inductive Payload : Ahead → List Piece → Prop
  | done : Payload .nothing []
  | telling {ahead next : Ahead} {piece : Piece} {rest : List Piece} (sound : piece.IsSound ahead)
      (tells : ahead.add? piece.header piece.data = some (.ok next)) (bare : piece.blocks = [])
      (later : Payload next rest) : Payload ahead (piece :: rest)
  | standing {ahead : Ahead} {piece : Piece} {rest : List Piece} (sound : piece.IsSound ahead)
      (stands : ahead.add? piece.header piece.data = none) (mapped : piece.IsMapped)
      (later : Payload .nothing rest) : Payload ahead (piece :: rest)

/-- What may come after the last piece: nothing, or a block of zeros and anything behind it. -/
def IsEnd (tail : Bytes) : Prop :=
  tail = [] ∨ blockSize ≤ tail.length ∧ (tail.take blockSize).all (· = 0) = true

theorem isEnd_endMark : IsEnd endMark := by
  refine .inr ⟨?_, by simp [endMark]⟩
  rw [endMark, List.length_replicate]
  decide

def payloadBytes (pieces : List Piece) : Bytes := pieces.flatMap Piece.bytes

variable {ahead : Ahead} {piece : Piece} {pieces rest : List Piece} {header : Header}

/-! What is written is a payload. -/

def Piece.made (name : Bytes) (kind : UInt8) (data target : Bytes) : Piece :=
  ⟨makeHeader name kind data.length target, [], data,
    List.replicate (padded data.length - data.length) 0⟩

theorem Piece.bytes_made (name : Bytes) (kind : UInt8) (data target : Bytes) :
    (made name kind data target).bytes = makeHeader name kind data.length target ++ fillBlocks data :=
  rfl

theorem Piece.reach_made (name : Bytes) (kind : UInt8) (data target : Bytes) :
    (made name kind data target).reach = blockSize + data.length := by
  simp only [reach, made, length_makeHeader, List.length_nil, Nat.zero_add]

theorem Piece.IsSound.made {name data target : Bytes} {kind : UInt8} (plain : ahead.records = none)
    (small : data.length < 2 ^ 64) : (Piece.made name kind data target).IsSound ahead where
  block := length_makeHeader ..
  checksum := isSound_makeHeader ..
  size := by simp [Piece.made, Ahead.size?, size?_makeHeader name kind target small, plain]
  filled := by
    have := length_le_padded data.length
    simp only [Piece.made, List.length_replicate]
    omega

def longPieces (kind : UInt8) (name : Bytes) : List Piece :=
  if name.length ≤ nameSize then [] else [.made longLinkName kind (name ++ [0]) []]

def memberPieces (path : Bytes) : Content → List Piece
  | .file bytes => longPieces 0x4c path ++ [.made path 0x30 bytes []]
  | .directory => longPieces 0x4c path ++ [.made path 0x35 [] []]
  | .symlink target => longPieces 0x4c path ++ (longPieces 0x4b target ++ [.made path 0x32 [] target])

theorem payloadBytes_append (first second : List Piece) :
    payloadBytes (first ++ second) = payloadBytes first ++ payloadBytes second :=
  List.flatMap_append

theorem payloadBytes_longPieces (kind : UInt8) (name : Bytes) :
    payloadBytes (longPieces kind name) = longName kind name := by
  unfold longPieces longName
  split
  next => rfl
  next => simp [payloadBytes, Piece.bytes_made]

theorem payloadBytes_memberPieces (path : Bytes) (content : Content) :
    payloadBytes (memberPieces path content) = writeMember path content := by
  have one (piece : Piece) : payloadBytes [piece] = piece.bytes := by simp [payloadBytes]
  have nothing : fillBlocks [] = [] := rfl
  cases content <;>
    simp [memberPieces, writeMember, payloadBytes_append, payloadBytes_longPieces, one,
      Piece.bytes_made, nothing]

/-- What is written for members are their pieces, with zeros behind them. -/
theorem write_eq (members : List (Bytes × Content)) :
    write members =
      payloadBytes (members.flatMap fun (path, content) => memberPieces path content) ++ endMark := by
  rw [write, payloadBytes, List.flatMap_assoc]
  simp only [← payloadBytes_memberPieces]
  rfl

theorem length_longName (kind : UInt8) {name : Bytes} (long : ¬name.length ≤ nameSize) :
    (name ++ [0]).length ≤ (longName kind name).length := by
  have fits := length_le_padded (name ++ [0]).length
  simp only [longName, if_neg long, List.length_append, length_fillBlocks] at fits ⊢
  omega

theorem payload_longName {name : Bytes} (small : (longName 0x4c name).length < 2 ^ 64)
    (later : Payload (.told name false) rest) : Payload .nothing (longPieces 0x4c name ++ rest) := by
  unfold longPieces
  by_cases fits : name.length ≤ nameSize
  · simpa [fits, Ahead.told, Ahead.nothing] using later
  · have bound := length_longName 0x4c fits
    rw [if_neg fits]
    refine .telling (.made rfl (by omega)) ?_ rfl later
    simp [Piece.made, Ahead.add?, isGnu_makeHeader, kind_makeHeader, Ahead.nothing, Ahead.told, fits]

theorem payload_longTarget {name target : Bytes} (small : (longName 0x4b target).length < 2 ^ 64)
    (later : ∀ longLink, Payload (.told name longLink) rest) :
    Payload (.told name false) (longPieces 0x4b target ++ rest) := by
  unfold longPieces
  by_cases fits : target.length ≤ nameSize
  · simpa [fits] using later false
  · have bound := length_longName 0x4b fits
    rw [if_neg fits]
    refine .telling (.made rfl (by omega)) ?_ rfl (later true)
    simp [Piece.made, Ahead.add?, isGnu_makeHeader, kind_makeHeader, Ahead.told]

theorem payload_standing {name data target : Bytes} {kind : UInt8} {longLink : Bool}
    (small : data.length < 2 ^ 64) (standing : kind = 0x30 ∨ kind = 0x35 ∨ kind = 0x32)
    (later : Payload .nothing rest) :
    Payload (.told name longLink) (.made name kind data target :: rest) := by
  have alone : (Ahead.told name longLink).add? (makeHeader name kind data.length target) data = none := by
    rcases standing with rfl | rfl | rfl <;>
      simp [Ahead.add?, isGnu_makeHeader, kind_makeHeader]
  have plain : kind ≠ 0x53 := by
    rcases standing with rfl | rfl | rfl <;> decide
  refine .standing (.made rfl small) alone ?_ later
  rw [Piece.IsMapped, if_neg]
  · rfl
  · rwa [Piece.made, kind_makeHeader]

theorem payload_members {members : List (Bytes × Content)} (small : (write members).length < 2 ^ 64) :
    Payload .nothing (members.flatMap fun (path, content) => memberPieces path content) := by
  induction members with
  | nil => exact .done
  | cons member rest ih =>
    obtain ⟨path, content⟩ := member
    have first : write ((path, content) :: rest) = writeMember path content ++ write rest := by
      simp only [write, List.flatMap_cons, List.append_assoc]
    rw [first, List.length_append] at small
    have later := ih (by omega)
    rw [List.flatMap_cons]
    cases content with
    | file bytes =>
      have fits := length_le_padded bytes.length
      simp only [writeMember, List.length_append, length_fillBlocks] at small
      simp only [memberPieces, List.append_assoc]
      apply payload_longName (by omega)
      exact payload_standing (by omega) (by decide) later
    | directory =>
      simp only [writeMember, List.length_append] at small
      simp only [memberPieces, List.append_assoc]
      apply payload_longName (by omega)
      exact payload_standing (by decide) (by decide) later
    | symlink target =>
      simp only [writeMember, List.length_append] at small
      simp only [memberPieces, List.append_assoc]
      apply payload_longName (by omega)
      apply payload_longTarget (by omega)
      exact fun longLink => payload_standing (by decide) (by decide) later

/-! What a piece tells does not depend on how much of its data is there. -/

theorem Ahead.add?_none {data : Bytes} (stands : ahead.add? header data = none) (other : Bytes) :
    ahead.add? header other = none := by
  unfold add? at stands ⊢
  grind

theorem Ahead.add?_ok {data : Bytes} {next : Ahead}
    (tells : ahead.add? header data = some (.ok next)) (other : Bytes) :
    ∃ told, ahead.add? header other = some (.ok told) := by
  unfold add? at tells ⊢
  grind

theorem isSound_zeros (zeros : header.all (· = 0) = true) : header.isSound = false := by
  have none_ : untilZero (field header 148 8) = [] := by
    unfold untilZero
    cases inside : field header 148 8 with
    | nil => rfl
    | cons b rest =>
      have isIn : b ∈ header := by
        have within : (field header 148 8).Sublist header :=
          (List.take_sublist ..).trans (List.drop_sublist ..)
        exact within.subset (inside ▸ List.mem_cons_self)
      have zero : b = 0 := by simpa using List.all_eq_true.mp zeros b isIn
      rw [zero]
      rfl
  have unread : octal? (field header 148 8) = none := by
    rw [octal?, none_]
    rfl
  rw [Header.isSound, unread]
  rfl

/-! The map of a sparse file is followed the same way whatever comes after its blocks, and not to its
end if one of them is cut. -/

namespace SparseMap

variable {size count : Nat} {map result : SparseMap} {more : Bool} {blocks : Bytes}

theorem extend_block {block : Bytes} (full : block.length = blockSize) (rest : Bytes)
    (failure : Option String) :
    map.extend size true ⟨block ++ rest, failure⟩ = do
      let map ← (chunks 21 block).foldlM (follow size) map
      let (map, count) ← map.extend size (block.getD 504 0 = 1) ⟨rest, failure⟩
      return (map, count + 1) := by
  have first : (block ++ rest).take blockSize = block := List.take_left' full
  have left : (block ++ rest).drop blockSize = rest := List.drop_left' full
  have long : ¬(block ++ rest).length < blockSize := by
    rw [List.length_append, full]
    omega
  rw [extend]
  simp only [Bool.not_true, Bool.false_eq_true, long, first, ByteStream.drop, left, if_false]

theorem extend_short (size : Nat) (map : SparseMap) (cut : blocks.length < blockSize)
    (failure : Option String) :
    ∃ fault, map.extend size true ⟨blocks, failure⟩ = .error fault := by
  refine ⟨(⟨blocks, failure⟩ : ByteStream).shortage "failed to read extension", ?_⟩
  rw [extend]
  simp [cut]

theorem extend_cases {failure : Option String}
    (followed : map.extend size more ⟨blocks, failure⟩ = .ok (result, count)) :
    more = false ∧ result = map ∧ count = 0 ∨
    more = true ∧ ∃ block rest next others, blocks = block ++ rest ∧ block.length = blockSize ∧
      (chunks 21 block).foldlM (follow size) map = .ok next ∧
      next.extend size (block.getD 504 0 = 1) ⟨rest, failure⟩ = .ok (result, others) ∧
      count = others + 1 := by
  cases more with
  | false =>
    rw [extend] at followed
    obtain ⟨rfl, rfl⟩ := Prod.mk.inj (Except.ok.inj followed)
    exact .inl ⟨rfl, rfl, rfl⟩
  | true =>
    refine .inr ⟨rfl, ?_⟩
    by_cases short : blocks.length < blockSize
    · obtain ⟨fault, cut⟩ := extend_short size map short failure
      rw [cut] at followed
      cases followed
    · have full : (blocks.take blockSize).length = blockSize :=
        List.length_take_of_le (Nat.not_lt.mp short)
      have whole := List.take_append_drop blockSize blocks
      rw [← whole, extend_block full] at followed
      cases first : (chunks 21 (blocks.take blockSize)).foldlM (follow size) map with
      | error fault => simp [first, bind, Except.bind] at followed
      | ok next =>
        cases later : next.extend size ((blocks.take blockSize).getD 504 0 = 1)
            ⟨blocks.drop blockSize, failure⟩ with
        | error fault =>
          simp only [first, later, bind, Except.bind] at followed
          cases followed
        | ok reached =>
          obtain ⟨last, others⟩ := reached
          simp only [first, later, bind, Except.bind] at followed
          obtain ⟨rfl, rfl⟩ := Prod.mk.inj (Except.ok.inj followed)
          exact ⟨_, _, next, others, whole.symm, full, first, later, rfl⟩

/-- A map that is followed over some blocks to its end, with anything behind them. -/
inductive Extends (size : Nat) : SparseMap → Bool → Bytes → SparseMap → Nat → Prop
  | done (map : SparseMap) (rest : Bytes) : Extends size map false rest map 0
  | block {map next result : SparseMap} {block rest : Bytes} {count : Nat}
    (full : block.length = blockSize)
    (first : (chunks 21 block).foldlM (follow size) map = .ok next)
    (later : Extends size next (block.getD 504 0 = 1) rest result count) :
    Extends size map true (block ++ rest) result (count + 1)

theorem extend_eq_ok {failure : Option String} :
    map.extend size more ⟨blocks, failure⟩ = .ok (result, count) ↔
      Extends size map more blocks result count := by
  constructor
  · intro followed
    induction count generalizing map more blocks with
    | zero =>
      rcases extend_cases followed with ⟨rfl, rfl, _⟩ | ⟨_, _, _, _, _, _, _, _, _, more⟩
      · exact .done ..
      · cases more
    | succ count ih =>
      rcases extend_cases followed with
        ⟨_, _, none_⟩ | ⟨rfl, block, rest, next, others, rfl, full, first, later, more⟩
      · cases none_
      · obtain rfl := Nat.succ.inj more
        exact .block full first (ih later)
  · intro extends_
    induction extends_ with
    | done map rest =>
      rw [extend]
      rfl
    | block full first later ih =>
      rw [extend_block full, first]
      simp only [bind, Except.bind, ih]
      rfl

theorem Extends.append (extends_ : Extends size map more blocks result count) (after : Bytes) :
    Extends size map more (blocks ++ after) result count := by
  induction extends_ with
  | done map rest => exact .done ..
  | block full first later ih =>
    rw [List.append_assoc]
    exact .block full first ih

theorem Extends.take (extends_ : Extends size map more blocks result count)
    (counted : blocks.length = count * blockSize) {cut : Nat} (short : cut < blocks.length)
    (failure : Option String) :
    ∃ fault, map.extend size more ⟨blocks.take cut, failure⟩ = .error fault := by
  induction extends_ generalizing cut with
  | done => omega
  | block full first later ih =>
    rw [List.length_append, full, Nat.succ_mul] at counted
    rw [List.length_append, full] at short
    by_cases inside : cut < blockSize
    · apply extend_short
      rw [List.length_take]
      omega
    · obtain ⟨fault, stops⟩ := ih (by omega) (Nat.sub_lt_left_of_lt_add (Nat.not_lt.mp inside) short)
      rw [List.take_append, full, List.take_of_length_le (by omega), extend_block full, first]
      simp only [bind, Except.bind, stops]
      exact ⟨fault, rfl⟩

theorem blocks_cases {header : Header} (told : SparseMap.blocks header size ⟨blocks, none⟩ = .ok count) :
    ∃ start result, (start : SparseMap).extend size (header.getD 482 0 = 1) ⟨blocks, none⟩ =
        .ok (result, count) ∧
      (∀ stream, start.extend size (header.getD 482 0 = 1) stream = .ok (result, count) →
        SparseMap.blocks header size stream = .ok count) ∧
      ∀ stream fault, start.extend size (header.getD 482 0 = 1) stream = .error fault →
        SparseMap.blocks header size stream = .error fault := by
  have gnu : header.isGnu = true := by
    cases recognized : header.isGnu with
    | true => rfl
    | false =>
      simp only [SparseMap.blocks, recognized, bind, Except.bind] at told
      cases told
  cases first : (chunks 4 (header.drop 386)).foldlM (follow size) ⟨0, size⟩ with
  | error fault =>
    simp only [SparseMap.blocks, gnu, first, bind, Except.bind] at told
    cases told
  | ok start =>
    cases followed : start.extend size (header.getD 482 0 = 1) ⟨blocks, none⟩ with
    | error fault =>
      simp only [SparseMap.blocks, gnu, first, followed, bind, Except.bind] at told
      cases told
    | ok reached =>
      obtain ⟨result, others⟩ := reached
      simp only [SparseMap.blocks, gnu, first, followed, bind, Except.bind] at told
      have same : others = count := by
        repeat' split at told
        all_goals cases told
        all_goals rfl
      subst same
      refine ⟨start, result, followed, fun stream again => ?_, fun stream fault stops => ?_⟩
      · simp only [SparseMap.blocks, gnu, first, again, bind, Except.bind]
        exact told
      · simp only [SparseMap.blocks, gnu, first, stops, bind, Except.bind]
        rfl

theorem blocks_append {header : Header}
    (told : SparseMap.blocks header size ⟨blocks, none⟩ = .ok count) (after : Bytes)
    (failure : Option String) : SparseMap.blocks header size ⟨blocks ++ after, failure⟩ = .ok count := by
  obtain ⟨start, result, followed, goesOn, _⟩ := blocks_cases told
  exact goesOn _ (extend_eq_ok.mpr ((extend_eq_ok.mp followed).append after))

theorem blocks_take {header : Header}
    (told : SparseMap.blocks header size ⟨blocks, none⟩ = .ok count)
    (counted : blocks.length = count * blockSize) {cut : Nat} (short : cut < blocks.length)
    (failure : Option String) :
    ∃ fault, SparseMap.blocks header size ⟨blocks.take cut, failure⟩ = .error fault := by
  obtain ⟨start, result, followed, _, stops⟩ := blocks_cases told
  obtain ⟨fault, stopped⟩ := (extend_eq_ok.mp followed).take counted short failure
  exact ⟨fault, stops _ fault stopped⟩

end SparseMap

/-! Reading a piece. -/

def pass (position : Nat) (ahead : Ahead) (rest : ByteStream) (taken : Nat) (shown : List Member) :
    Listing :=
  if rest.bytes.length < taken then ⟨shown, some (rest.shortage "unexpected EOF during skip")⟩
  else
    let listing := readFrom (position + blockSize + taken) ahead (rest.drop taken)
    ⟨shown ++ listing.members, listing.fault⟩

def readBody (position size : Nat) (ahead : Ahead) (header : Header) (rest : ByteStream) : Listing :=
  let data := rest.bytes.take size
  let failure := if data.length < size then rest.failure else none
  match ahead.add? header data with
  | some (.error fault) => ⟨[], some fault⟩
  | some (.ok ahead) =>
    match failure with
    | some fault => ⟨[], some fault⟩
    | none => pass position ahead rest (padded size) []
  | none =>
    let member : Member := ⟨ahead.path header, header.kind, size, data, failure⟩
    if header.kind = 0x53 then
      match SparseMap.blocks header size rest with
      | .error fault => ⟨[], some fault⟩
      | .ok count => pass position .nothing rest (count * blockSize + padded size) [member]
    else pass position .nothing rest (padded size) [member]

/-- A header is read if there can be the data that it tells of. -/
theorem readFrom_header {position size : Nat} (block : header.length = blockSize)
    (sound : header.isSound = true) (sized : ahead.size? header = some size) (rest : Bytes)
    (failure : Option String) :
    readFrom position ahead ⟨header ++ rest, failure⟩ =
      if 2 ^ 64 ≤ position + (blockSize + padded size) then ⟨[], some "size overflow"⟩
      else readBody position size ahead header ⟨rest, failure⟩ := by
  have first : (header ++ rest).take blockSize = header := List.take_left' block
  have left : (header ++ rest).drop blockSize = rest := List.drop_left' block
  have long : ¬(header ++ rest).length < blockSize := by
    rw [List.length_append, block]
    omega
  have filled : header.all (· = 0) = false := by
    cases zeros : header.all (· = 0) with
    | false => rfl
    | true =>
      rw [isSound_zeros zeros] at sound
      cases sound
  rw [readFrom]
  simp only [first, long, ByteStream.drop, left, filled, sound, sized, Nat.add_assoc, dite_false,
    if_false, Bool.not_true, Bool.false_eq_true, readBody, pass, Nat.zero_mul, Nat.zero_add]
  rfl

theorem readFrom_short (position : Nat) (ahead : Ahead) {bytes : Bytes} (short : bytes.length < blockSize)
    (failure : Option String) :
    (readFrom position ahead ⟨bytes, failure⟩).members = [] ∧
      (bytes ≠ [] → (readFrom position ahead ⟨bytes, failure⟩).fault.isSome = true) := by
  rw [readFrom]
  simp only [short, dite_true]
  by_cases atEnd : bytes = [] ∧ failure = none
  · rw [if_pos atEnd]
    refine ⟨?_, fun some_ => absurd atEnd.1 some_⟩
    split <;> rfl
  · rw [if_neg atEnd]
    exact ⟨rfl, fun _ => rfl⟩

theorem pass_short {taken : Nat} {bytes : Bytes} (short : bytes.length < taken) (position : Nat)
    (ahead : Ahead) (failure : Option String) (shown : List Member) :
    ∃ fault, pass position ahead ⟨bytes, failure⟩ taken shown = ⟨shown, some fault⟩ :=
  ⟨_, if_pos short⟩

theorem pass_whole {position taken cut : Nat} {body more : Bytes} (length : body.length = taken)
    (whole : taken ≤ cut) (failure : Option String) (ahead : Ahead) (shown : List Member) :
    pass position ahead ⟨(body ++ more).take cut, failure⟩ taken shown =
      let listing := readFrom (position + (blockSize + taken)) ahead ⟨more.take (cut - taken), failure⟩
      ⟨shown ++ listing.members, listing.fault⟩ := by
  have split : (body ++ more).take cut = body ++ more.take (cut - taken) := by
    rw [List.take_append, length, List.take_of_length_le (by omega)]
  have enough : ¬(body ++ more.take (cut - taken)).length < taken := by
    rw [List.length_append, length]
    omega
  have left : (body ++ more.take (cut - taken)).drop taken = more.take (cut - taken) :=
    List.drop_left' length
  rw [pass, split]
  simp only [enough, if_false, ByteStream.drop, left, Nat.add_assoc]

end ClusterArchive.Tar
