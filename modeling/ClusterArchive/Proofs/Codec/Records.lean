import ClusterArchive.Codec.Records
import ClusterArchive.Proofs.Codec.Shape
import ClusterArchive.Proofs.Time.Rfc3339

/-! Records are read back as they were written, with their members in any order and others among
them. Numbers are of the types of their fields, times of a year of four digits, and sets in ascending
order. -/

namespace ClusterArchive

/-- A set in ascending order is built from its items in that order. -/
theorem insertSorted_of_above {text : String} {set : List String} (above : ∀ item ∈ set, item < text) :
    insertSorted text set = set ++ [text] := by
  induction set with
  | nil => rfl
  | cons head rest ih =>
    obtain ⟨here, later⟩ := List.forall_mem_cons.mp above
    have differs : text ≠ head := by
      rintro rfl
      exact String.lt_irrefl _ here
    have notBefore : ¬text < head := String.lt_asymm here
    rw [insertSorted, if_neg differs, if_neg notBefore, ih later, List.cons_append]

theorem Resource.make_ascending (type : ResourceType) (kind : String) (namespaced : Bool)
    {verbs : List String} (ascending : verbs.Pairwise (· < ·)) :
    Resource.make type kind namespaced verbs = ⟨type, kind, namespaced, verbs⟩ := by
  have inOrder : ∀ set rest : List String, (set ++ rest).Pairwise (· < ·) →
      rest.foldl (fun set verb => insertSorted verb set) set = set ++ rest := by
    intro set rest
    induction rest generalizing set with
    | nil => simp
    | cons verb rest ih =>
      intro ascending
      have above : ∀ item ∈ set, item < verb := fun item member =>
        (List.pairwise_append.mp ascending).2.2 item member verb List.mem_cons_self
      have next := ih (set ++ [verb])
      rw [List.append_assoc, List.singleton_append] at next
      rw [List.foldl_cons, insertSorted_of_above above, next ascending]
  rw [Resource.make, inOrder [] verbs ascending, List.nil_append]

namespace Codec

open Shape Json.Reader

/-! ## Fields -/

variable {room : Nat} {nullable : Bool}

theorem strings?_strings (items : List String) : strings? (strings items) = some items := by
  induction items with
  | nil => rfl
  | cons item rest ih =>
    simp only [strings?, strings] at ih ⊢
    simp [Json.string?, ih]

theorem instant?_instant {t : Instant} (dated : t.IsDated) : instant? (instant t) = some t := by
  change (Rfc3339.read (Rfc3339.text t)).toOption = some t
  rw [Rfc3339.read_text dated]
  rfl

/-- A value that may be null is read back if it is never written as null itself. -/
theorem orNull_optional {β : Type} {decode? : Json → Option β} {encode : β → Json} {value : Option β}
    (decodes : ∀ present ∈ value, encode present ≠ .null ∧ decode? (encode present) = some present) :
    orNull decode? (optional encode value) = some value := by
  cases value with
  | none => rfl
  | some present =>
    obtain ⟨notNull, decodes⟩ := decodes present rfl
    rw [optional, orNull, decodes]
    · rfl
    · exact notNull

theorem orNull_string (value : Option String) : orNull Json.string? (optional .string value) = some value :=
  orNull_optional fun _ _ => ⟨nofun, rfl⟩

theorem orNull_natural (value : Option Nat) : orNull natural? (optional .natural value) = some value :=
  orNull_optional fun _ _ => ⟨nofun, rfl⟩

theorem fits_strings (items : List String) : Fits (room + 1) nullable (.list string) (strings items) := by
  apply Fits.list
  intro item member
  obtain ⟨text, _, rfl⟩ := List.mem_map.mp member
  exact .text ..

theorem fits_instant {t : Instant} (dated : t.IsDated) : Fits room nullable .time (instant t) :=
  .time _ _ (Rfc3339.read_text dated)

theorem fits_optional {β : Type} {shape : Shape} {encode : β → Json} {value : Option β}
    (fits : ∀ present ∈ value, Fits room true shape (encode present)) :
    Fits room true shape (optional encode value) := by
  cases value with
  | none => exact .null ..
  | some present => exact fits present rfl

theorem fits_u32 {n : Nat} (within : n < Nat.pow 2 32) : Fits room nullable u32 (.natural n) :=
  .natural _ _ _ within (by decide)

theorem fits_word {wording : String} {n : Nat} (within : n < Nat.pow 2 64) :
    Fits room nullable (.natural (Nat.pow 2 64) wording) (.natural n) :=
  .natural _ _ _ within (Nat.le_refl _)

/-! ## Records -/

/-- A value is read back from its text, and from every other text of it: with the members of its records
in any order, with members that no field has, and with white space. -/
structure Keeps {α : Type} (codec : Codec α) (value : α) : Prop where
  written : codec.read (codec.write value) = .ok value
  rearranged : ∀ text, Rearranges codec.shape (codec.encode value) text →
    codec.read (String.ofList text) = .ok value

/-- A value is kept if its JSON form is of the shape and stands for it. -/
theorem Keeps.of_fits {α : Type} {codec : Codec α} {value : α}
    (fits : Fits Draft.depthLimit false codec.shape (codec.encode value))
    (decodes : codec.decode? (codec.encode value) = some value) : codec.Keeps value := by
  have rearranged : ∀ text, Rearranges codec.shape (codec.encode value) text →
      codec.read (String.ofList text) = .ok value := by
    intro text rearranges
    have found := (holds_rearranged rearranges fits).readWhole
    rw [Codec.read, found]
    simp only [Except.mapError, bind, Except.bind, decodes]
    rfl
  exact ⟨rearranged _ (.printed _ _ .compact 0), rearranged⟩

theorem fits_resourceType (type : ResourceType) :
    Fits (room + 1) nullable resourceType.shape (resourceType.encode type) :=
  .record _ (by decide) (.cons (.text ..) (.cons (.text ..) (.cons (.text ..) (.nil _))))

theorem keeps_resourceType (type : ResourceType) : resourceType.Keeps type :=
  .of_fits (fits_resourceType type) rfl

theorem keeps_resource {r : Resource} (ascending : r.verbs.Pairwise (· < ·)) : resource.Keeps r := by
  refine .of_fits ?_ ?_
  · exact .record _ (by decide) (.cons (fits_resourceType _) (.cons (.text ..) (.cons (.boolean ..)
      (.cons (fits_strings _) (.nil _)))))
  · have type : resourceType.decode? (resourceType.encode r.type) = some r.type := rfl
    simp only [resource, type, strings?_strings]
    exact congrArg some (Resource.make_ascending r.type r.kind r.namespaced ascending)

theorem keeps_config {c : Config} (level : c.compressionLevel < Nat.pow 2 32) : config.Keeps c := by
  refine .of_fits ?_ ?_
  · exact .record _ (by decide) (.cons (.text ..) (.cons (fits_optional fun _ _ => .text ..)
      (.cons (fits_u32 level) (.nil _))))
  · simp only [config, orNull_string]
    rfl

theorem keeps_destination (d : Destination) : destination.Keeps d := by
  cases d with
  | «local» path =>
    exact .of_fits (.choice _ (by decide) List.mem_cons_self (.text ..)) rfl
  | host path =>
    exact .of_fits (.choice _ (by decide) (List.mem_cons_of_mem _ List.mem_cons_self) (.text ..)) rfl

theorem keeps_backupOptions (o : BackupOptions) : backupOptions.Keeps o := by
  refine .of_fits ?_ ?_
  · exact .record _ (by decide) (.cons (fits_strings _) (.cons (fits_strings _) (.cons (.boolean ..)
      (.cons (fits_strings _) (.nil _)))))
  · simp only [backupOptions, strings?_strings]
    rfl

theorem keeps_retentionPolicy {p : RetentionPolicy} (days : ∀ n ∈ p.maxAgeDays, n < Nat.pow 2 32)
    (count : ∀ n ∈ p.maxCount, n < Nat.pow 2 64) : retentionPolicy.Keeps p := by
  refine .of_fits ?_ ?_
  · exact .record _ (by decide) (.cons (fits_optional fun n present => fits_u32 (days n present))
      (.cons (fits_optional fun n present => fits_word (count n present)) (.nil _)))
  · simp only [retentionPolicy, orNull_natural]
    rfl

theorem keeps_cleanupReport {r : CleanupReport} (retained : r.retained < Nat.pow 2 64) :
    cleanupReport.Keeps r := by
  refine .of_fits ?_ ?_
  · exact .record _ (by decide) (.cons (fits_strings _) (.cons (fits_strings _)
      (.cons (fits_word retained) (.nil _))))
  · simp only [cleanupReport, strings?_strings]
    rfl

theorem keeps_archiveInfo {a : ArchiveInfo} (size : a.size < Nat.pow 2 64) (modified : a.modified.IsDated) :
    archiveInfo.Keeps a := by
  refine .of_fits ?_ ?_
  · exact .record _ (by decide) (.cons (.text ..) (.cons (.text ..) (.cons (fits_word size)
      (.cons (fits_instant modified) (.nil _)))))
  · simp only [archiveInfo, instant?_instant modified]
    rfl

theorem keeps_backupResult {r : BackupResult} (count : r.objectCount < Nat.pow 2 64)
    (size : r.archiveSize < Nat.pow 2 64) (started : r.startedAt.IsDated)
    (completed : r.completedAt.IsDated) : backupResult.Keeps r := by
  refine .of_fits ?_ ?_
  · exact .record _ (by decide) (.cons (fits_word count) (.cons (.text ..) (.cons (.text ..)
      (.cons (fits_word size) (.cons (.text ..) (.cons (.text ..) (.cons (fits_instant started)
        (.cons (fits_instant completed) (.nil _)))))))))
  · simp only [backupResult, instant?_instant started, instant?_instant completed]
    rfl

theorem keeps_restoreResult {r : RestoreResult} (applied : r.applied < Nat.pow 2 64)
    (created : r.created < Nat.pow 2 64) (updated : r.updated < Nat.pow 2 64)
    (started : r.startedAt.IsDated) (completed : r.completedAt.IsDated) : restoreResult.Keeps r := by
  refine .of_fits ?_ ?_
  · exact .record _ (by decide) (.cons (.text ..) (.cons (fits_word applied) (.cons (fits_word created)
      (.cons (fits_word updated) (.cons (fits_instant started) (.cons (fits_instant completed)
        (.nil _)))))))
  · simp only [restoreResult, instant?_instant started, instant?_instant completed]
    rfl

theorem isValue_outOfRange : Json.IsValue "[1e999]".toList := by
  have number : Json.IsValue "1e999".toList :=
    @Json.IsValue.number [] ['1'] [] ['e', '9', '9', '9'] (.inl rfl)
      (.digits ⟨by decide, by simp [Decimal.isDigit]⟩ (by decide)) .none
      (@Json.IsExponent.digits 'e' [] _ (.inl rfl) (.inl rfl)
        ⟨by decide, by simp [Decimal.isDigit]⟩)
  exact @Json.IsValue.array ["1e999".toList] [] (by simpa using number) areSpaces_nil

/-- A resource with its members and those of its type out of order, and with one that it does not have. -/
def podsText : String :=
  "\x7b\"verbs\":[\"get\",\"list\"],\"x\":[1e999],\"namespaced\":true," ++
    "\"gvr\": \x7b\"version\":\"v1\",\"resource\":\"pods\",\"group\":\"\"\x7d,\"kind\":\"\"\x7d"

theorem rearranges_pods : Rearranges resource.shape
    (resource.encode ⟨⟨"", "v1", "pods"⟩, "", true, ["get", "list"]⟩) podsText.toList := by
  let type : Json := .object [("version", .string "v1"), ("resource", .string "pods"), ("group", .string "")]
  let typed := (Json.renderString "gvr", [' '] ++ type.render .compact 0 ++ [])
  let others := [("kind", .string ""), ("namespaced", .bool true), ("verbs", strings ["get", "list"])].map
    (entryText .compact 0)
  let unknown := (Json.renderString "x", "[1e999]".toList)
  let entries := [others[2], unknown, others[1], typed, others[0]]
  have rearranged : Rearranges resourceType.shape (resourceType.encode ⟨"", "v1", "pods"⟩)
      (type.render .compact 0) :=
    rearranges_shuffled rfl (List.perm_append_singleton _ [_, _]) .compact 0
  have gap : AreSpaces [' '] := by simp [AreSpaces, isSpace]
  have shown : podsText.toList =
      '\x7b' :: ([','].intercalate (entries.map memberText) ++ ([] ++ ['\x7d'])) := by
    decide +kernel
  rw [shown]
  refine .record (?_ : RearrangesEach _ _ (typed :: others)) (?_ : ∀ other ∈ [unknown], _) (by decide)
    areSpaces_nil
  · exact .cons (isKeyOf_string "gvr") (.spaced rearranged gap areSpaces_nil)
      (rearrangesEach_printed rfl .compact 0)
  · intro other member
    obtain rfl := List.mem_singleton.mp member
    exact .member (isKeyOf_string "x") (by decide) isValue_outOfRange

/-- All records are kept. A time has a text with 0, 3, 6 or 9 fraction digits, as few as leave no
nanoseconds out, and is read from it and from every text with other digits that leaves none out. -/
theorem records_kept :
    (∀ a : ArchiveInfo, a.size < Nat.pow 2 64 → a.modified.IsDated → archiveInfo.Keeps a) ∧
    (∀ r : BackupResult, r.objectCount < Nat.pow 2 64 → r.archiveSize < Nat.pow 2 64 →
      r.startedAt.IsDated → r.completedAt.IsDated → backupResult.Keeps r) ∧
    (∀ r : RestoreResult, r.applied < Nat.pow 2 64 → r.created < Nat.pow 2 64 → r.updated < Nat.pow 2 64 →
      r.startedAt.IsDated → r.completedAt.IsDated → restoreResult.Keeps r) ∧
    (∀ r : CleanupReport, r.retained < Nat.pow 2 64 → cleanupReport.Keeps r) ∧
    (∀ p : RetentionPolicy, (∀ days ∈ p.maxAgeDays, days < Nat.pow 2 32) →
      (∀ count ∈ p.maxCount, count < Nat.pow 2 64) → retentionPolicy.Keeps p) ∧
    (∀ c : Config, c.compressionLevel < Nat.pow 2 32 → config.Keeps c) ∧
    (∀ d : Destination, destination.Keeps d) ∧
    (∀ o : BackupOptions, backupOptions.Keeps o) ∧
    (∀ type : ResourceType, resourceType.Keeps type) ∧
    (∀ r : Resource, r.verbs.Pairwise (· < ·) → resource.Keeps r) ∧
    ∀ t : Instant, t.IsDated →
      (∃ width, Rfc3339.IsWidth width t ∧ Rfc3339.text t = Rfc3339.textWith width t) ∧
      ∀ width ≤ 9, Nat.pow 10 (9 - width) ∣ t.nanos → Rfc3339.read (Rfc3339.textWith width t) = .ok t :=
  ⟨fun _ size modified => keeps_archiveInfo size modified,
    fun _ count size started completed => keeps_backupResult count size started completed,
    fun _ applied created updated started completed =>
      keeps_restoreResult applied created updated started completed,
    fun _ retained => keeps_cleanupReport retained,
    fun _ days count => keeps_retentionPolicy days count,
    fun _ level => keeps_config level, keeps_destination, keeps_backupOptions, keeps_resourceType,
    fun _ ascending => keeps_resource ascending,
    fun _ dated =>
      ⟨Rfc3339.text_eq_textWith dated, fun _ most whole => Rfc3339.read_textWith dated most whole⟩⟩

/-- Records with the greatest numbers, with no options and at the first, a leap and the last second. -/
theorem records_kept_extremes :
    let first : Instant := ⟨-62167219200, 0⟩
    let leap : Instant := ⟨1709251199, 500000000⟩
    let last : Instant := ⟨253402300799, 999999999⟩
    (first.IsDated ∧ leap.IsDated ∧ last.IsDated) ∧
    archiveInfo.Keeps ⟨"\"\n", "", 18446744073709551615, first⟩ ∧
    backupResult.Keeps ⟨0, "", "", 18446744073709551615, "", "gzip", leap, last⟩ ∧
    restoreResult.Keeps ⟨"", 0, 1, 18446744073709551615, first, last⟩ ∧
    cleanupReport.Keeps ⟨[], ["a", "a"], 18446744073709551615⟩ ∧
    retentionPolicy.Keeps ⟨none, some 18446744073709551615⟩ ∧
    config.Keeps ⟨"/", none, 4294967295⟩ ∧
    resource.Keeps ⟨.namespaces, "", false, []⟩ ∧
    resource.read podsText = .ok ⟨⟨"", "v1", "pods"⟩, "", true, ["get", "list"]⟩ ∧
    Rfc3339.read "2024-02-29T23:59:59.500Z" = .ok leap ∧
    Rfc3339.read "9999-12-31T23:59:59.999999999Z" = .ok last := by
  intro first leap last
  have isFirst : first.IsDated := by decide
  have isLeap : leap.IsDated := by decide
  have isLast : last.IsDated := by decide
  obtain ⟨archives, backups, restores, reports, policies, configs, _, _, _, resources, times⟩ := records_kept
  have pods := (resources ⟨⟨"", "v1", "pods"⟩, "", true, ["get", "list"]⟩ (by decide)).rearranged _
    rearranges_pods
  rw [String.ofList_toList] at pods
  have millis : Rfc3339.textWith 3 leap = "2024-02-29T23:59:59.500Z" := by decide +kernel
  have nanos : Rfc3339.textWith 9 last = "9999-12-31T23:59:59.999999999Z" := by decide +kernel
  refine ⟨⟨isFirst, isLeap, isLast⟩, archives _ (by decide) isFirst,
    backups _ (by decide) (by decide) isLeap isLast,
    restores _ (by decide) (by decide) (by decide) isFirst isLast, reports _ (by decide),
    policies _ (by simp) (by simp), configs _ (by decide), resources _ .nil, pods, ?_, ?_⟩
  · rw [← millis]
    exact (times leap isLeap).2 3 (by decide) (by decide)
  · rw [← nanos]
    exact (times last isLast).2 9 (by decide) (by decide)

end Codec

end ClusterArchive
