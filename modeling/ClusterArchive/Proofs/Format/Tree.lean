import ClusterArchive.Proofs.Format.Walk

/-! Packing a directory tree. Whatever the order in which its directories are read, and whatever the
compression, the archive shows the tree, and the files of the tree are delivered of it. -/

namespace ClusterArchive.TarGzip

open Tar Volume

variable {volume : Volume} {root : Location} {node : Node}

/-- A compressor whose output is read back at each level. -/
structure Compressor where
  compress : Nat → Bytes → Bytes
  lossless : ∀ level bytes, Gzip.decompress (.ofBytes (compress level bytes)) = .ofBytes bytes

def Compressor.storing : Compressor := ⟨fun _ => Gzip.compress, fun _ => Gzip.decompress_compress⟩

def packWith (compressor : Compressor) (level : Nat) (order : volume.ReadingOrder)
    (directory : String) : Packing :=
  let unreadable (error : FileError) : Packing :=
    ⟨[], some (.archive ("Failed to read directory " ++ Path.join directory "" ++ ": " ++ error.message))⟩
  match volume.find true (Path.join directory "") with
  | .ok (root, .directory) =>
    ⟨compressor.compress (effectiveLevel level) (tarData (appendTree order root "")), none⟩
  | .ok _ => unreadable .notDirectory
  | .error error => unreadable error

/-- A directory that can be packed: the tree below it has clean names, and its tar data has positions
of 64 bits. -/
structure IsPackable (volume : Volume) (directory : String) (root : Location) : Prop where
  wellFormed : volume.WellFormed
  found : volume.find true (Path.join directory "") = .ok (root, .directory)
  clean : CleanBelow volume root
  fits : (tarData (membersBelow volume root)).length < 2 ^ 64

/-- Entries and files of an archive show the tree below a location. -/
structure Mirrors (volume : Volume) (root : Location) (entries : List Tar.Member)
    (files : List (String × Bytes)) : Prop where
  stored : ∀ entry, entry ∈ entries ↔
    (∃ steps contents modified, volume.node? (root ++ steps) = some (.file contents modified) ∧
      entry = ⟨Bytes.ofText ("/".intercalate steps), 0x30, contents.size, contents.toBytes, none⟩) ∨
    ∃ steps, steps ≠ [] ∧ volume.node? (root ++ steps) = some .directory ∧
      entry = ⟨Bytes.ofText ("/".intercalate steps), 0x35, 0, [], none⟩
  storedOnce : (entries.map Tar.Member.path).Nodup
  delivered : ∀ path body, (path, body) ∈ files ↔ ∃ steps contents modified,
    volume.node? (root ++ steps) = some (.file contents modified) ∧
    path = "/".intercalate steps ∧ body = contents.toBytes
  deliveredOnce : (files.map Prod.fst).Nodup
  /-- Nothing is stored for a link, or for a path that leads through one. -/
  links : ∀ link target, volume.node? (root ++ link) = some (.symlink target) →
    ∀ rest, ∀ entry ∈ entries, entry.path ≠ Bytes.ofText ("/".intercalate (link ++ rest))

variable {directory : String} {members : List (String × Content)}

theorem IsPackable.walked (packable : IsPackable volume directory root) (order : volume.ReadingOrder) :
    (appendTree order root "").Perm (membersBelow volume root) := by
  rw [membersBelow_eq_appendTree packable.wellFormed packable.clean]
  exact appendTree_perm ..

theorem length_tarData_perm {others : List (String × Content)} (same : others.Perm members) :
    (tarData others).length = (tarData members).length := by
  unfold tarData Tar.write
  exact (((same.map _).flatMap_right _).append_right _).length_eq

theorem CleanBelow.paths (clean : CleanBelow volume root) (ascending : Assoc.Ascending volume.nodes) :
    ∀ member ∈ membersBelow volume root, '\x00' ∉ member.1.toList ∧ '\\' ∉ member.1.toList := by
  rintro ⟨path, content⟩ isMember
  obtain ⟨steps, node, some_, found, _, rfl⟩ := (mem_membersBelow ascending).mp isMember
  have free {c : Char} (other : c ∉ "/".toList) (each : ∀ step ∈ steps, c ∉ step.toList) :
      c ∉ ("/".intercalate steps).toList := by
    intro isIn
    rcases Text.mem_intercalate isIn with rfl | ⟨step, isStep, inside⟩
    · exact other (by decide)
    · exact each step isStep inside
  exact ⟨free (by decide) fun step isStep => (clean steps node found step isStep).2.1,
    free (by decide) fun step isStep => (clean steps node found step isStep).2.2⟩

theorem path_member (path : Bytes) (content : Content) : (content.member path).path = path := by
  cases content <;> rfl

theorem member_of_content {content : Content} (isContent : content? node = some content) (path : Bytes) :
    (∃ contents modified, node = .file contents modified ∧
      content.member path = ⟨path, 0x30, contents.size, contents.toBytes, none⟩) ∨
    node = .directory ∧ content.member path = ⟨path, 0x35, 0, [], none⟩ := by
  cases node with
  | file contents modified =>
    obtain rfl := Option.some.inj isContent
    have size : contents.toBytes.length = contents.size := by simp [Contents.toBytes, Contents.size]
    exact .inl ⟨contents, modified, rfl, by rw [Content.member, size]⟩
  | directory =>
    obtain rfl := Option.some.inj isContent
    exact .inr ⟨rfl, rfl⟩
  | symlink target => cases isContent

theorem IsPackable.apart (packable : IsPackable volume directory root) {link steps rest : List String}
    {target : String} (isLink : volume.node? (root ++ link) = some (.symlink target))
    (some_ : steps ≠ []) (found : volume.node? (root ++ steps) = some node)
    (same : "/".intercalate steps = "/".intercalate (link ++ rest)) : steps = link := by
  have further : link ≠ [] := by
    rintro rfl
    rw [List.append_nil, (find_eq_ok.mp packable.found).2] at isLink
    cases isLink
  have parts := packable.clean.splitSlash some_ found
  rw [same] at parts
  by_cases last : rest = []
  · rw [← parts, last, List.append_nil, packable.clean.splitSlash further isLink]
  · rw [String.intercalate_append_of_ne_nil further last, Text.splitSlash_append,
      packable.clean.splitSlash further isLink] at parts
    obtain ⟨step, more, shape⟩ : ∃ step more, Text.splitSlash ("/".intercalate rest) = step :: more := by
      apply List.exists_cons_of_ne_nil
      simpa [Text.splitSlash] using Text.split_ne_nil (· == '/') _
    rw [← parts, shape, ← List.append_assoc] at found
    have directory := packable.wellFormed.above_directory found
    rw [isLink] at directory
    cases directory

/-- However a tree is walked through, its archive shows it. -/
theorem IsPackable.mirrors (packable : IsPackable volume directory root)
    (walked : members.Perm (membersBelow volume root)) :
    Mirrors volume root (members.map fun (path, content) => content.member (Bytes.ofText path))
      (filesOf members) := by
  have ascending := packable.wellFormed.ascending
  have once : (members.map Prod.fst).Nodup :=
    (walked.map Prod.fst).nodup_iff.mpr
      (nodup_of_ordered (membersBelow_ordered ascending packable.clean))
  have isMember {path : String} {content : Content} : (path, content) ∈ members ↔
      ∃ steps node, steps ≠ [] ∧ volume.node? (root ++ steps) = some node ∧
        content? node = some content ∧ path = "/".intercalate steps :=
    walked.mem_iff.trans (mem_membersBelow ascending)
  have below {steps : List String} {contents : Contents} {modified : Instant}
      (found : volume.node? (root ++ steps) = some (.file contents modified)) : steps ≠ [] := by
    rintro rfl
    rw [List.append_nil, (find_eq_ok.mp packable.found).2] at found
    cases found
  constructor
  case stored =>
    intro entry
    constructor
    · intro stored
      obtain ⟨⟨path, content⟩, isIn, rfl⟩ := List.mem_map.mp stored
      obtain ⟨steps, node, some_, found, isContent, rfl⟩ := isMember.mp isIn
      rcases member_of_content isContent (Bytes.ofText ("/".intercalate steps)) with
        ⟨contents, modified, rfl, entry⟩ | ⟨rfl, entry⟩
      · exact .inl ⟨steps, contents, modified, found, entry⟩
      · exact .inr ⟨steps, some_, found, entry⟩
    · rintro (⟨steps, contents, modified, found, rfl⟩ | ⟨steps, some_, found, rfl⟩)
      · have isIn := isMember.mpr ⟨steps, _, below found, found, rfl, rfl⟩
        refine List.mem_map.mpr ⟨_, isIn, ?_⟩
        simp [Content.member, Contents.toBytes, Contents.size]
      · exact List.mem_map.mpr ⟨_, isMember.mpr ⟨steps, _, some_, found, rfl, rfl⟩, rfl⟩
  case storedOnce =>
    have paths : (members.map fun (path, content) => content.member (Bytes.ofText path)).map
        Tar.Member.path = (members.map Prod.fst).map Bytes.ofText := by
      rw [List.map_map, List.map_map]
      apply List.map_congr_left
      rintro ⟨path, content⟩ _
      exact path_member ..
    rw [paths]
    exact once.map (Function.LeftInverse.injective Text.lossy_ofText)
  case delivered =>
    intro path body
    rw [mem_filesOf, isMember]
    constructor
    · rintro ⟨steps, node, some_, found, isContent, rfl⟩
      cases node with
      | file contents modified =>
        obtain rfl := Content.file.inj (Option.some.inj isContent)
        exact ⟨steps, contents, modified, found, rfl, rfl⟩
      | directory | symlink => cases isContent
    · rintro ⟨steps, contents, modified, found, rfl, rfl⟩
      exact ⟨steps, _, below found, found, rfl, rfl⟩
  case deliveredOnce => exact once.sublist (filesOf_sublist members)
  case links =>
    intro link target isLink rest entry stored same
    obtain ⟨⟨path, content⟩, isIn, rfl⟩ := List.mem_map.mp stored
    obtain ⟨steps, node, some_, found, isContent, rfl⟩ := isMember.mp isIn
    rw [path_member] at same
    obtain rfl := packable.apart isLink some_ found
      (Function.LeftInverse.injective Text.lossy_ofText same)
    rw [isLink] at found
    obtain rfl := Option.some.inj found
    cases isContent

theorem IsPackable.packWith (packable : IsPackable volume directory root) (compressor : Compressor)
    (level : Nat) (order : volume.ReadingOrder) :
    TarGzip.packWith compressor level order directory =
      ⟨compressor.compress (effectiveLevel level) (tarData (appendTree order root "")), none⟩ := by
  simp only [TarGzip.packWith, packable.found]

/-- Packing in the order in which the volume holds its nodes, and without compression. -/
theorem IsPackable.pack (packable : IsPackable volume directory root) (level : Nat) :
    TarGzip.pack volume directory =
      TarGzip.packWith .storing level (.ascending volume) directory := by
  rw [packable.packWith, ← membersBelow_eq_appendTree packable.wellFormed packable.clean]
  simp only [TarGzip.pack, packable.found]
  rfl

theorem IsPackable.read (packable : IsPackable volume directory root)
    (walked : members.Perm (membersBelow volume root)) :
    readMembers (.ofBytes (tarData members)) =
      ⟨members.map fun (path, content) => content.member (Bytes.ofText path), none⟩ ∧
    tarFiles (.ofBytes (tarData members)) = ⟨filesOf members, none⟩ := by
  have clean : ∀ member ∈ members, '\x00' ∉ member.1.toList ∧ '\\' ∉ member.1.toList :=
    fun member isIn => packable.clean.paths packable.wellFormed.ascending member (walked.subset isIn)
  have fits : (tarData members).length < 2 ^ 64 := by
    rw [length_tarData_perm walked]
    exact packable.fits
  exact ⟨readMembers_tarData (fun member isIn => (clean member isIn).1) fits,
    tarFiles_tarData clean fits⟩

theorem IsPackable.files (packable : IsPackable volume directory root) (compressor : Compressor)
    (level : Nat) (order : volume.ReadingOrder) :
    TarGzip.files (.ofBytes (TarGzip.packWith compressor level order directory).bytes) =
      ⟨filesOf (appendTree order root ""), none⟩ := by
  rw [packable.packWith, TarGzip.files, compressor.lossless]
  exact (packable.read (packable.walked order)).2

/-- For every tree, every order in which its directories are read, and every compressor and level, the
archive of it has one entry for each file and each directory below the top and none for a link, and
all files are delivered, each once, at its path from there and with its bytes. A directory that cannot
be read is not packed. -/
theorem pack_tree (volume : Volume) (directory : String) :
    (∀ root, IsPackable volume directory root →
      (∀ (compressor : Compressor) (level : Nat) (order : volume.ReadingOrder),
        ∃ bytes entries files, packWith compressor level order directory = ⟨bytes, none⟩ ∧
          Tar.readMembers (Gzip.decompress (.ofBytes bytes)) = ⟨entries, none⟩ ∧
          TarGzip.files (.ofBytes bytes) = ⟨files, none⟩ ∧ Mirrors volume root entries files ∧
          ∀ (another : Compressor) (other : Nat) (rearranged : volume.ReadingOrder),
            (TarGzip.files (.ofBytes (packWith another other rearranged directory).bytes)).files.Perm
              files) ∧
      ∀ level, pack volume directory = packWith .storing level (.ascending volume) directory) ∧
    ((∀ root, volume.find true (Path.join directory "") ≠ .ok (root, .directory)) →
      ∃ error : FileError,
        let failure : RunError := .archive
          ("Failed to read directory " ++ Path.join directory "" ++ ": " ++ error.message)
        (∀ (compressor : Compressor) (level : Nat) (order : volume.ReadingOrder),
          (packWith compressor level order directory).failure = some failure) ∧
        (pack volume directory).failure = some failure) := by
  constructor
  · intro root packable
    refine ⟨fun compressor level order => ?_, packable.pack⟩
    have walked := packable.walked order
    refine ⟨_, _, _, packable.packWith compressor level order, ?_, ?_, packable.mirrors walked, ?_⟩
    · rw [compressor.lossless]
      exact (packable.read walked).1
    · rw [← packable.files compressor level order, packable.packWith]
    · intro another other rearranged
      rw [packable.files]
      exact (appendTree_perm ..).filterMap _
  · intro missing
    cases found : volume.find true (Path.join directory "") with
    | error error => exact ⟨error, fun _ _ _ => by rw [packWith, found], by rw [pack, found]⟩
    | ok place =>
      obtain ⟨root, node⟩ := place
      refine ⟨.notDirectory, ?_⟩
      cases node with
      | directory => exact absurd found (missing root)
      | file | symlink => exact ⟨fun _ _ _ => by rw [packWith, found], by rw [pack, found]⟩

/-- It is enough to look at the names of each node that is held. -/
theorem CleanBelow.of_nodes (each : ∀ entry ∈ volume.nodes, ∀ step ∈ entry.1,
    Path.IsStep step ∧ '\x00' ∉ step.toList ∧ '\\' ∉ step.toList) : CleanBelow volume root := by
  intro steps node found step isStep
  rw [node?] at found
  split at found
  next top =>
    rw [(List.append_eq_nil_iff.mp top).2] at isStep
    cases isStep
  next => exact each _ (Assoc.mem_of_get? found) step (List.mem_append_right _ isStep)

/-- A directory with a file in a directory, an empty directory, and a link to the first. -/
def nestedVolume : Volume := ⟨[
  (["s"], .directory),
  (["s", "a"], .directory),
  (["s", "a", "f"], .file (.ofBytes [7, 8]) ⟨0, 0⟩),
  (["s", "e"], .directory),
  (["s", "l"], .symlink "a")], []⟩

def descending (volume : Volume) : volume.ReadingOrder :=
  ⟨fun location => (volume.children location).reverse, fun _ => List.reverse_perm _⟩

theorem find_nested : nestedVolume.find true "/s/" = .ok (["s"], .directory) := by
  have steps : walk.steps "/s/" = ["s", "."] := by decide
  have absolute : Path.isAbsolute "/s/" = true := by decide
  have short : ¬nameLimit < ("s").utf8ByteSize := by decide
  have there : nestedVolume.node? ["s"] = some .directory := rfl
  rw [Volume.find, resolve_of_accepts (by decide) (by decide), steps, absolute]
  simp [walk, there, short, bind, Except.bind]

theorem find_missing : nestedVolume.find true "/t/" = .error .notFound := by
  have steps : walk.steps "/t/" = ["t", "."] := by decide
  have absolute : Path.isAbsolute "/t/" = true := by decide
  have short : ¬nameLimit < ("t").utf8ByteSize := by decide
  have free : nestedVolume.node? ["t"] = none := rfl
  rw [Volume.find, resolve_of_accepts (by decide) (by decide), steps, absolute]
  simp [walk, free, short, bind, Except.bind]

theorem isPackable_nested : IsPackable nestedVolume "/s" ["s"] where
  wellFormed := .of_nodes (by decide) (by decide) rfl
  found := find_nested
  clean := .of_nodes (by unfold Path.IsStep; decide)
  fits := by
    have members : membersBelow nestedVolume ["s"] =
        [("a", .directory), ("a/f", .file [7, 8]), ("e", .directory)] := by decide
    have short : longName 0x4c (Bytes.ofText "a") = [] ∧ longName 0x4c (Bytes.ofText "a/f") = [] ∧
        longName 0x4c (Bytes.ofText "e") = [] := by decide
    have mark : endMark.length = 1024 := List.length_replicate ..
    simp [members, tarData, Tar.write, writeMember, short, mark, blockSize, padded]

theorem pack_tree_nested :
    IsPackable nestedVolume "/s" ["s"] ∧
    (∃ bytes entries files,
      packWith .storing 12 (descending nestedVolume) "/s" = ⟨bytes, none⟩ ∧
      Tar.readMembers (Gzip.decompress (.ofBytes bytes)) = ⟨entries, none⟩ ∧
      TarGzip.files (.ofBytes bytes) = ⟨files, none⟩ ∧ Mirrors nestedVolume ["s"] entries files ∧
      ("a/f", [7, 8]) ∈ files) ∧
    ∃ error : FileError, (pack nestedVolume "/t").failure = some (.archive
      ("Failed to read directory " ++ Path.join "/t" "" ++ ": " ++ error.message)) := by
  refine ⟨isPackable_nested, ?_, ?_⟩
  · obtain ⟨packs, _⟩ := (pack_tree nestedVolume "/s").1 ["s"] isPackable_nested
    obtain ⟨bytes, entries, files, packed, read, delivered, mirrors, _⟩ :=
      packs .storing 12 (descending nestedVolume)
    exact ⟨bytes, entries, files, packed, read, delivered, mirrors,
      (mirrors.delivered "a/f" [7, 8]).mpr ⟨["a", "f"], .ofBytes [7, 8], ⟨0, 0⟩, rfl, by decide, rfl⟩⟩
  · have missing : ∀ root, nestedVolume.find true (Path.join "/t" "") ≠ .ok (root, .directory) := by
      intro root found
      have same : nestedVolume.find true (Path.join "/t" "") = .error .notFound := find_missing
      rw [same] at found
      cases found
    obtain ⟨error, _, failed⟩ := (pack_tree nestedVolume "/t").2 missing
    exact ⟨error, failed⟩

end ClusterArchive.TarGzip
