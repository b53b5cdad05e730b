import ClusterArchive.Entry
import ClusterArchive.Proofs.Text.Split

/-! The grammar of entry paths. A path is read as an entry exactly if it is the path of that entry,
with or without a leading `./`; so every entry that has a path is read back from it, and no two
entries share one. -/

namespace ClusterArchive.Entry

open Text

structure IsDirectoryName (part : String) : Prop where
  nonempty : part ≠ ""
  here : part ≠ "."
  up : part ≠ ".."
  slash : '/' ∉ part.toList

instance (part : String) : Decidable (IsDirectoryName part) :=
  decidable_of_iff (part ≠ "" ∧ part ≠ "." ∧ part ≠ ".." ∧ '/' ∉ part.toList)
    ⟨fun ⟨nonempty, here, up, slash⟩ => ⟨nonempty, here, up, slash⟩,
      fun is => ⟨is.nonempty, is.here, is.up, is.slash⟩⟩

/-- An entry that has a path. The core group has no directory in it, and the name may be empty. -/
structure IsWellFormed (entry : Entry) : Prop where
  group : entry.type.group ≠ "" → IsDirectoryName entry.type.group
  version : IsDirectoryName entry.type.version
  resource : IsDirectoryName entry.type.resource
  ns : ∀ ns, entry.ns = some ns → IsDirectoryName ns
  here : entry.name ≠ "."
  up : entry.name ≠ ".."
  slash : '/' ∉ entry.name.toList

def segments (entry : Entry) : List String := entry.directories ++ [entry.name ++ ending]

theorem directories_ne_nil (entry : Entry) : entry.directories ≠ [] := by
  simp [directories]

theorem path_eq (entry : Entry) : entry.path = "/".intercalate entry.segments := by
  rw [path, segments, String.intercalate_append_of_ne_nil entry.directories_ne_nil (by simp),
    String.intercalate_singleton, String.append_assoc]

theorem path_eq_stem (entry : Entry) :
    entry.path = "/".intercalate (entry.directories ++ [entry.name]) ++ ending := by
  rw [path, String.intercalate_append_of_ne_nil entry.directories_ne_nil (by simp),
    String.intercalate_singleton]

theorem isUnsafe_eq_false {part : String} (slash : '/' ∉ part.toList) :
    isUnsafe part = false ↔ IsDirectoryName part := by
  simp only [isUnsafe, Bool.or_eq_false_iff, decide_eq_false_iff_not]
  exact ⟨fun ⟨⟨nonempty, here⟩, up⟩ => ⟨nonempty, here, up, slash⟩,
    fun name => ⟨⟨name.nonempty, name.here⟩, name.up⟩⟩

theorem find?_isUnsafe {parts : List String} (whole : ∀ part ∈ parts, '/' ∉ part.toList) :
    parts.find? isUnsafe = none ↔ ∀ part ∈ parts, IsDirectoryName part := by
  rw [List.find?_eq_none]
  refine forall₂_congr fun part member => ?_
  rw [Bool.not_eq_true, isUnsafe_eq_false (whole part member)]

/-- What holds of the scopes and of the parts of an entry holds of its directories. -/
theorem forall_directories {holds : String → Prop} {entry : Entry} (cluster : holds "cluster")
    (namespaces : holds "namespaces") (group : entry.type.group ≠ "" → holds entry.type.group)
    (version : holds entry.type.version) (resource : holds entry.type.resource)
    (ns : ∀ ns, entry.ns = some ns → holds ns) : ∀ part ∈ entry.directories, holds part := by
  intro part member
  simp only [directories, List.mem_append] at member
  rcases member with (scope | inGroup) | type
  · cases inside : entry.ns with
    | none =>
      simp only [inside, List.mem_singleton] at scope
      exact scope ▸ cluster
    | some name =>
      simp only [inside, List.mem_cons, List.not_mem_nil, or_false] at scope
      rcases scope with rfl | rfl
      · exact namespaces
      · exact ns _ inside
  · split at inGroup
    next => simp at inGroup
    next named =>
      rw [List.mem_singleton] at inGroup
      exact inGroup ▸ group named
  · simp only [List.mem_cons, List.not_mem_nil, or_false] at type
    rcases type with rfl | rfl
    · exact version
    · exact resource

theorem IsWellFormed.directories {entry : Entry} (wellFormed : entry.IsWellFormed) :
    ∀ part ∈ entry.directories, IsDirectoryName part :=
  forall_directories (by decide) (by decide) wellFormed.group wellFormed.version wellFormed.resource
    wellFormed.ns

/-- With the ending, every text without a slash is the name of something. -/
theorem isDirectoryName_file {name : String} (slash : '/' ∉ name.toList) :
    IsDirectoryName (name ++ ending) := by
  have long : 2 < (name ++ ending).toList.length := by
    rw [String.toList_append, List.length_append]
    exact Nat.lt_add_left _ (by decide)
  refine ⟨?_, ?_, ?_, by simpa [ending] using slash⟩ <;>
    intro same <;> rw [same] at long <;> exact absurd long (by decide)

theorem IsWellFormed.names {entry : Entry} (wellFormed : entry.IsWellFormed) :
    ∀ part ∈ entry.segments, IsDirectoryName part := by
  intro part member
  rcases List.mem_append.mp member with directory | file
  · exact wellFormed.directories part directory
  · rw [List.mem_singleton.mp file]
    exact isDirectoryName_file wellFormed.slash

theorem IsWellFormed.stripPrefix? {entry : Entry} (wellFormed : entry.IsWellFormed) :
    Text.stripPrefix? "./" entry.path = none := by
  rw [Option.eq_none_iff_forall_ne_some]
  intro rest found
  have shape : entry.path = "." ++ "/" ++ rest := stripPrefix?_eq_some.mp found
  have whole : ∀ part ∈ entry.segments, '/' ∉ part.toList := fun part member =>
    (wellFormed.names part member).slash
  have parts := splitSlash_append "." rest
  rw [← shape, path_eq, splitSlash_intercalate (by simp [segments]) whole] at parts
  obtain ⟨first, others, names⟩ := List.exists_cons_of_ne_nil entry.directories_ne_nil
  rw [segments, names, show splitSlash "." = ["."] by decide] at parts
  have name := wellFormed.directories first (names ▸ List.mem_cons_self)
  exact name.here (List.cons.inj parts).1

/-- The segments behind the scope are read as what the path was made from. -/
theorem ofSegments_directories {entry : Entry} (here : entry.name ≠ ".") (up : entry.name ≠ "..") :
    ofSegments entry.ns ((if entry.type.group = "" then [] else [entry.type.group]) ++
      [entry.type.version, entry.type.resource, entry.name]) = .ok entry := by
  obtain ⟨⟨group, version, resource⟩, ns, name⟩ := entry
  by_cases core : group = "" <;> simp_all [ofSegments, ofSegments.checked]

theorem parse_path {entry : Entry} (wellFormed : entry.IsWellFormed) :
    parse entry.path = .ok entry := by
  have whole : ∀ part ∈ entry.directories ++ [entry.name], '/' ∉ part.toList := by
    intro part member
    rcases List.mem_append.mp member with directory | name
    · exact (wellFormed.directories part directory).slash
    · exact (List.mem_singleton.mp name) ▸ wellFormed.slash
  have parts := splitSlash_intercalate (by simp) whole
  have safe : entry.directories.find? isUnsafe = none :=
    (find?_isUnsafe fun part member => whole part (List.mem_append_left _ member)).mpr
      wellFormed.directories
  have read := ofSegments_directories wellFormed.here wellFormed.up
  have stem := stripSuffix?_eq_some.mpr entry.path_eq_stem
  unfold parse
  simp only [wellFormed.stripPrefix?, Option.getD_none, stem, parts, List.dropLast_concat, safe]
  cases inside : entry.ns with
  | none => simpa [directories, inside] using read
  | some ns => simpa [directories, inside] using read

theorem parse_here {entry : Entry} (wellFormed : entry.IsWellFormed) :
    parse ("./" ++ entry.path) = parse entry.path := by
  unfold parse
  rw [stripPrefix?_eq_some.mpr rfl, wellFormed.stripPrefix?, Option.getD_some, Option.getD_none]

theorem path_injective {entry other : Entry} (wellFormed : entry.IsWellFormed)
    (wellFormedOther : other.IsWellFormed) (same : entry.path = other.path) : entry = other := by
  have parsed := parse_path wellFormed
  rw [same, parse_path wellFormedOther] at parsed
  exact (Except.ok.inj parsed).symm

/-- What is read from the segments behind a scope has them in its path. -/
theorem ofSegments_eq_ok {ns : Option String} {rest : List String} {entry : Entry}
    (names : ∀ part ∈ rest.dropLast, IsDirectoryName part) (read : ofSegments ns rest = .ok entry) :
    entry.ns = ns ∧ entry.name ≠ "." ∧ entry.name ≠ ".." ∧
    rest = (if entry.type.group = "" then [] else [entry.type.group]) ++
      [entry.type.version, entry.type.resource, entry.name] := by
  have checked {found : Entry} (read : ofSegments.checked found = .ok entry) :
      found = entry ∧ entry.name ≠ "." ∧ entry.name ≠ ".." := by
    unfold ofSegments.checked at read
    split at read
    next => cases read
    next plain =>
      obtain rfl := Except.ok.inj read
      exact ⟨rfl, not_or.mp plain⟩
  unfold ofSegments at read
  split at read
  next version resource name =>
    obtain ⟨rfl, here, up⟩ := checked read
    exact ⟨rfl, here, up, by simp⟩
  next group version resource name =>
    obtain ⟨rfl, here, up⟩ := checked read
    have named : group ≠ "" := (names group (by simp)).nonempty
    exact ⟨rfl, here, up, by simp [named]⟩
  next => cases read

/-- An entry is well formed when its directories are names and its name is one step. -/
theorem IsWellFormed.of_directories {entry : Entry}
    (names : ∀ part ∈ entry.directories, IsDirectoryName part) (here : entry.name ≠ ".")
    (up : entry.name ≠ "..") (slash : '/' ∉ entry.name.toList) : entry.IsWellFormed where
  group named := names _ (by simp [Entry.directories, named])
  version := names _ (by simp [Entry.directories])
  resource := names _ (by simp [Entry.directories])
  ns name inside := names _ (by simp [Entry.directories, inside])
  here := here
  up := up
  slash := slash

instance (entry : Entry) : Decidable entry.IsWellFormed :=
  decidable_of_iff
    ((∀ part ∈ entry.directories, IsDirectoryName part) ∧ entry.name ≠ "." ∧ entry.name ≠ ".." ∧
      '/' ∉ entry.name.toList)
    ⟨fun ⟨names, here, up, slash⟩ => .of_directories names here up slash,
      fun is => ⟨is.directories, is.here, is.up, is.slash⟩⟩

/-- The segments of a stem that is read are the steps of what is read. -/
theorem segments_of_parse {path : String} {entry : Entry} (read : parse path = .ok entry) :
    ∃ stem, (Text.stripPrefix? "./" path).getD path = stem ++ ending ∧
      (∀ part ∈ (splitSlash stem).dropLast, IsDirectoryName part) ∧
      splitSlash stem = entry.directories ++ [entry.name] ∧ entry.name ≠ "." ∧ entry.name ≠ ".." := by
  unfold parse at read
  split at read
  next => cases read
  next stem found =>
    have whole : ∀ part ∈ (splitSlash stem).dropLast, '/' ∉ part.toList := fun part member =>
      slash_notMem_of_mem_splitSlash (List.dropLast_subset _ member)
    simp only [] at read
    split at read
    next => cases read
    next safe =>
      have names := (find?_isUnsafe whole).mp safe
      refine ⟨stem, stripSuffix?_eq_some.mp found, names, ?_⟩
      have later {first : String} {rest : List String} :
          ∀ part ∈ rest.dropLast, part ∈ (first :: rest).dropLast := by
        cases rest <;> simp +contextual
      split at read
      next rest parts =>
        rw [parts] at names ⊢
        obtain ⟨inside, here, up, type⟩ :=
          ofSegments_eq_ok (fun part member => names part (later part member)) read
        exact ⟨by simp [directories, inside, type], here, up⟩
      next => cases read
      next ns rest _ parts =>
        rw [parts] at names ⊢
        obtain ⟨inside, here, up, type⟩ :=
          ofSegments_eq_ok (fun part member => names part (later _ (later part member))) read
        exact ⟨by simp [directories, inside, type], here, up⟩
      next => cases read

theorem of_parse {path : String} {entry : Entry} (read : parse path = .ok entry) :
    entry.IsWellFormed ∧ (path = entry.path ∨ path = "./" ++ entry.path) := by
  obtain ⟨stem, shape, names, steps, here, up⟩ := segments_of_parse read
  have last : entry.name ∈ splitSlash stem := by simp [steps]
  rw [steps, List.dropLast_concat] at names
  refine ⟨.of_directories names here up (slash_notMem_of_mem_splitSlash last), ?_⟩
  have same : (Text.stripPrefix? "./" path).getD path = entry.path := by
    rw [shape, path_eq_stem, ← steps, intercalate_splitSlash]
  cases start : Text.stripPrefix? "./" path with
  | none => exact .inl (by simpa [start] using same)
  | some rest =>
    rw [start, Option.getD_some] at same
    exact .inr (same ▸ stripPrefix?_eq_some.mp start)

/-- A path in the grammar of entries, and the entry it is for. -/
structure IsPathOf (path : String) (entry : Entry) : Prop where
  wellFormed : entry.IsWellFormed
  shape : path = entry.path ∨ path = "./" ++ entry.path

theorem parse_eq_ok {path : String} {entry : Entry} :
    parse path = .ok entry ↔ IsPathOf path entry := by
  refine ⟨fun read => ⟨(of_parse read).1, (of_parse read).2⟩, ?_⟩
  rintro ⟨wellFormed, rfl | rfl⟩
  · exact parse_path wellFormed
  · rw [parse_here wellFormed, parse_path wellFormed]

theorem ofPath_eq_ok {path : String} {entry : Entry} :
    ofPath path = .ok entry ↔ IsPathOf path entry := by
  rw [← parse_eq_ok, ofPath]
  cases parse path <;> simp [Except.mapError]

/-- A path is read as an entry exactly if it is in the grammar for that entry, and it is refused
otherwise. An entry that has a path is read back from it, no two share one, and what is read is
rendered as it was given but for a leading `./`. -/
theorem ofPath_exact :
    (∀ path entry, ofPath path = .ok entry ↔ IsPathOf path entry) ∧
    (∀ path, (¬∃ entry, IsPathOf path entry) →
      ∃ reason, ofPath path = .error (.malformedEntry path reason)) ∧
    (∀ entry : Entry, entry.IsWellFormed → ofPath entry.path = .ok entry) ∧
    (∀ entry other : Entry, entry.IsWellFormed → other.IsWellFormed → entry.path = other.path →
      entry = other) ∧
    (∀ path entry, ofPath path = .ok entry →
      entry.path = (Text.stripPrefix? "./" path).getD path) := by
  refine ⟨fun path entry => ofPath_eq_ok, fun path outside => ?_, fun entry wellFormed => ?_,
    fun entry other => path_injective, fun path entry read => ?_⟩
  · cases read : parse path with
    | ok entry => exact absurd ⟨entry, parse_eq_ok.mp read⟩ outside
    | error fault => exact ⟨fault.reason, by simp [ofPath, read, Except.mapError]⟩
  · exact ofPath_eq_ok.mpr ⟨wellFormed, .inl rfl⟩
  · obtain ⟨wellFormed, rfl | rfl⟩ := ofPath_eq_ok.mp read
    · rw [wellFormed.stripPrefix?, Option.getD_none]
    · rw [stripPrefix?_eq_some.mpr rfl, Option.getD_some]

/-- A name may look like an ending, and a group is told from a namespace by the number of steps. -/
theorem ofPath_exact_ending :
    let entry : Entry := ⟨⟨"apps", "v1", "deployments"⟩, some "cluster", ".json"⟩
    entry.IsWellFormed ∧
    ofPath "./namespaces/cluster/apps/v1/deployments/.json.json" = .ok entry ∧
    ∃ reason, ofPath "cluster/v1/namespaces/...json" =
      .error (.malformedEntry "cluster/v1/namespaces/...json" reason) := by
  have wellFormed : (⟨⟨"apps", "v1", "deployments"⟩, some "cluster", ".json"⟩ : Entry).IsWellFormed := by
    decide
  refine ⟨wellFormed, (ofPath_exact.1 _ _).mpr ⟨wellFormed, .inr rfl⟩, ofPath_exact.2.1 _ ?_⟩
  rintro ⟨entry, isPath⟩
  have refused : parse "cluster/v1/namespaces/...json" = .error .badName := by rfl
  rw [parse_eq_ok.mpr isPath] at refused
  cases refused

end ClusterArchive.Entry
