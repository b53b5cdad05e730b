import ClusterArchive.Proofs.Restore.Archived

/-! The archived form of an object is canonical. It is the text of what is left without the runtime
paths, and this text is read back as that, unless it is nested too deeply. -/

namespace ClusterArchive

namespace Json

inductive Step
  | key (name : String)
  | item (index : Nat)
deriving DecidableEq

def at? (value : Json) : List Step → Option Json
  | [] => some value
  | .key name :: rest => (value.member? name).bind fun member => member.at? rest
  | .item index :: rest =>
    match value with
    | array items => items[index]?.bind fun item => item.at? rest
    | _ => none

inductive Outline
  | null
  | bool (value : Bool)
  | number (value : Number)
  | string (value : String)
  | array (length : Nat)
  | object

def outline : Json → Outline
  | null => .null
  | bool value => .bool value
  | number value => .number value
  | string value => .string value
  | array items => .array items.length
  | object _ => .object

end Json

namespace Document

open Json (Step)

/-- The metadata without the runtime fields, if it is an object. -/
def strippedMetadata : Json → Json
  | .object metadata => .object (runtimeFields.foldl (fun m key => Assoc.erase key m) metadata)
  | value => value

theorem get?_stripped (object : Document) (key : String) : Assoc.get? key object.stripped =
    if key = "status" then none
    else if key = "metadata" then (Assoc.get? key object).map strippedMetadata
    else Assoc.get? key object := by
  rw [stripped, Assoc.get?_erase]
  by_cases status : key = "status"
  · simp [status]
  · rw [if_neg (Ne.symm status), if_neg status]
    cases found : Assoc.get? "metadata" object with
    | none =>
      by_cases metadata : key = "metadata" <;> simp [metadata?, found, metadata]
    | some value =>
      cases value with
      | object inner =>
        by_cases metadata : key = "metadata"
        · simp [metadata?, found, metadata, Json.object?, withMetadata, strippedMetadata]
        · simp [metadata?, found, metadata, Ne.symm metadata, Json.object?, withMetadata]
      | null | bool | number | string | array =>
        by_cases metadata : key = "metadata" <;>
          simp [metadata?, found, metadata, Json.object?, strippedMetadata]

/-- The paths of the status and of the runtime fields, and those below them. -/
def IsRuntime (path : List Step) : Prop :=
  [.key "status"] <+: path ∨
  ∃ field ∈ runtimeFields, [.key "metadata", .key field] <+: path

/-- One object is what is left of another without the runtime paths. -/
structure Strips (object left : Document) : Prop where
  removed : ∀ path, IsRuntime path → (Json.object left).at? path = none
  kept : ∀ path, ¬IsRuntime path → path ≠ [] → path ≠ [.key "metadata"] →
    (Json.object left).at? path = (Json.object object).at? path
  /-- The object and its metadata stay what they are but for the runtime paths below them. -/
  outlines : ∀ path, ¬IsRuntime path → ((Json.object left).at? path).map Json.outline =
    ((Json.object object).at? path).map Json.outline

theorem at?_key (object : Document) (key : String) (rest : List Step) :
    (Json.object object).at? (.key key :: rest) =
      (Assoc.get? key object).bind fun member => member.at? rest := rfl

@[simp] theorem outline_strippedMetadata (value : Json) :
    (strippedMetadata value).outline = value.outline := by
  cases value <;> rfl

theorem at?_strippedMetadata_key (value : Json) (key : String) (rest : List Step) :
    (strippedMetadata value).at? (.key key :: rest) =
      if key ∈ runtimeFields then none else value.at? (.key key :: rest) := by
  cases value with
  | object metadata =>
    rw [strippedMetadata, at?_key, at?_key, get?_eraseFields]
    split <;> rfl
  | null | bool | number | string | array => simp [strippedMetadata, Json.at?, Json.member?]

theorem at?_strippedMetadata_item (value : Json) (index : Nat) (rest : List Step) :
    (strippedMetadata value).at? (.item index :: rest) = value.at? (.item index :: rest) := by
  cases value <;> rfl

theorem at?_stripped_metadata {path : List Step} (below : path ≠ [])
    (other : ¬IsRuntime (.key "metadata" :: path)) (object : Document) :
    (Json.object object.stripped).at? (.key "metadata" :: path) =
      (Json.object object).at? (.key "metadata" :: path) := by
  rw [at?_key, at?_key, get?_stripped, if_neg (by decide), if_pos rfl, Option.bind_map]
  congr 1
  funext value
  cases path with
  | nil => exact absurd rfl below
  | cons step rest =>
    cases step with
    | item index => exact at?_strippedMetadata_item value index rest
    | key field =>
      have kept : field ∉ runtimeFields := by
        intro member
        exact other (.inr ⟨field, member, rest, rfl⟩)
      exact (at?_strippedMetadata_key value field rest).trans (if_neg kept)

theorem strips_stripped (object : Document) : Strips object object.stripped := by
  have kept : ∀ path, ¬IsRuntime path → path ≠ [] → path ≠ [.key "metadata"] →
      (Json.object object.stripped).at? path = (Json.object object).at? path := by
    intro path other some_ further
    match path with
    | .item _ :: _ => rfl
    | .key key :: rest =>
      by_cases metadata : key = "metadata"
      · subst metadata
        exact at?_stripped_metadata (by simpa using further) other object
      · have status : key ≠ "status" := by
          rintro rfl
          exact other (.inl ⟨rest, rfl⟩)
        rw [at?_key, at?_key, get?_stripped, if_neg status, if_neg metadata]
  refine ⟨?_, kept, ?_⟩
  · rintro path (⟨rest, rfl⟩ | ⟨field, member, rest, rfl⟩)
    · simp [at?_key, get?_stripped]
    · simp only [List.cons_append, List.nil_append]
      rw [at?_key, get?_stripped, if_neg (by decide), if_pos rfl]
      cases Assoc.get? "metadata" object with
      | none => rfl
      | some value => exact (at?_strippedMetadata_key value field rest).trans (if_pos member)
  · intro path other
    by_cases top : path = []
    · rw [top]
      rfl
    · by_cases metadata : path = [.key "metadata"]
      · rw [metadata, at?_key, at?_key, get?_stripped, if_neg (by decide), if_pos rfl]
        cases Assoc.get? "metadata" object with
        | none => rfl
        | some value => simp [Json.at?]
      · rw [kept path other top metadata]

/-! Exact objects. -/

variable {object other : Document}

theorem eraseFields_absent {fields : List String}
    (absent : ∀ field ∈ fields, Assoc.get? field object = none) :
    fields.foldl (fun m field => Assoc.erase field m) object = object := by
  induction fields with
  | nil => rfl
  | cons field rest ih =>
    obtain ⟨here, later⟩ := List.forall_mem_cons.mp absent
    rw [List.foldl_cons, Assoc.erase_absent here, ih later]

theorem isExact_erase (exact : (Json.object object).IsExact) (key : String) :
    (Json.object (Assoc.erase key object)).IsExact := by
  rw [Json.IsExact, Json.areExactMembers_iff] at exact ⊢
  exact ⟨exact.1.erase key, fun entry member => exact.2 entry (Assoc.mem_of_mem_erase member)⟩

theorem isExact_eraseFields (exact : (Json.object object).IsExact) (fields : List String) :
    (Json.object (fields.foldl (fun m field => Assoc.erase field m) object)).IsExact := by
  induction fields generalizing object with
  | nil => exact exact
  | cons field rest ih => exact ih (isExact_erase exact field)

theorem isExact_withMetadata (exact : (Json.object object).IsExact) {metadata : Document}
    (exactMetadata : (Json.object metadata).IsExact) :
    (Json.object (object.withMetadata metadata)).IsExact := by
  rw [Json.IsExact, Json.areExactMembers_iff] at exact ⊢
  refine ⟨exact.1.insert _ _, fun entry member => ?_⟩
  rcases Assoc.mem_insert member with rfl | old
  · exact exactMetadata
  · exact exact.2 entry old

theorem isExact_metadata? (exact : (Json.object object).IsExact) {metadata : Document}
    (found : object.metadata? = some metadata) : (Json.object metadata).IsExact := by
  obtain ⟨value, there, is⟩ := Option.bind_eq_some_iff.mp found
  rw [Json.IsExact, Json.areExactMembers_iff] at exact
  have exactValue := exact.2 _ (Assoc.mem_of_get? there)
  cases value with
  | object members => rwa [← Option.some.inj is]
  | null | bool | number | string | array => cases is

theorem isExact_stripped (exact : (Json.object object).IsExact) :
    (Json.object object.stripped).IsExact := by
  rw [stripped]
  apply isExact_erase
  cases found : object.metadata? with
  | none => exact exact
  | some metadata =>
    exact isExact_withMetadata exact (isExact_eraseFields (isExact_metadata? exact found) _)

theorem stripped_stripped (exact : (Json.object object).IsExact) :
    object.stripped.stripped = object.stripped := by
  have noStatus : Assoc.get? "status" object.stripped = none := by rw [get?_stripped, if_pos rfl]
  rw [stripped]
  cases found : object.stripped.metadata? with
  | none => exact Assoc.erase_absent noStatus
  | some metadata =>
    obtain ⟨value, there, is⟩ := Option.bind_eq_some_iff.mp found
    have held : Assoc.get? "metadata" object.stripped = some (.object metadata) := by
      cases value with
      | object members => rwa [← Option.some.inj is]
      | null | bool | number | string | array => cases is
    have clean : runtimeFields.foldl (fun m key => Assoc.erase key m) metadata = metadata := by
      apply eraseFields_absent
      intro field member
      have gone := (strips_stripped object).removed [.key "metadata", .key field]
        (.inr ⟨field, member, [], rfl⟩)
      rw [at?_key, held] at gone
      cases inner : Assoc.get? field metadata with
      | none => rfl
      | some value => simp [Json.at?, Json.member?, inner] at gone
    have exactStripped := isExact_stripped exact
    rw [Json.IsExact] at exactStripped
    simp only [withMetadata, clean, exactStripped.1.insert_same held]
    exact Assoc.erase_absent noStatus

/-- An archived body of any depth is read back, or refused for its depth. -/
theorem readBody_archived (exact : (Json.object object.stripped).IsExact) (path : String) :
    RestoreItem.readBody path object.archivedBytes =
      if (Json.object object.stripped).depth ≤ Draft.depthLimit then .ok object.stripped
      else .error (.malformedEntry path ("invalid JSON body: " ++ Fault.tooDeep.message)) := by
  split
  next shallow => exact RestoreItem.readBody_archivedBytes path ⟨exact, shallow⟩
  next deep =>
    have refused := Json.readText_deep .indented exact (Nat.lt_of_not_le deep) isSpace_lineBreak
    rw [← archivedText_eq] at refused
    rw [RestoreItem.readBody, archivedBytes, Json.readBytes_ofText, refused]

/-- Bodies are the same only for objects of which the same is archived. -/
theorem archivedBytes_inj (exact : (Json.object object).IsExact) (exactOther : (Json.object other).IsExact) :
    object.archivedBytes = other.archivedBytes ↔ object.stripped = other.stripped := by
  constructor
  · intro same
    have texts := congrArg Text.units same
    rw [archivedBytes, archivedBytes, Text.units_ofText, Text.units_ofText] at texts
    have chars := List.map_injective_iff.mpr (Option.some_injective _) texts
    rw [archivedText_eq, archivedText_eq, String.toList_ofList, String.toList_ofList] at chars
    exact Json.object.inj (Json.render_inj .indented (isExact_stripped exact)
      (isExact_stripped exactOther) isSpace_lineBreak isSpace_lineBreak chars)
  · intro same
    rw [archivedBytes, archivedText, same, archivedBytes, archivedText]

/-- The archived form of an object is that of what is left without the runtime paths, and of nothing
else; it is read back as that, or refused where it is nested too deeply. The place in the body, which is
told behind the reason, is left out. -/
theorem archived_canonical (exact : (Json.object object).IsExact) :
    Strips object object.stripped ∧ (Json.object object.stripped).IsExact ∧
    object.stripped.stripped = object.stripped ∧
    (∀ path, RestoreItem.readBody path object.archivedBytes =
      if (Json.object object.stripped).depth ≤ 127 then .ok object.stripped
      else .error (.malformedEntry path "invalid JSON body: recursion limit exceeded")) ∧
    ∀ other : Document, (Json.object other).IsExact →
      (object.archivedBytes = other.archivedBytes ↔ object.stripped = other.stripped) :=
  ⟨strips_stripped object, isExact_stripped exact, stripped_stripped exact,
    readBody_archived (isExact_stripped exact), fun _ exactOther => archivedBytes_inj exact exactOther⟩

/-- An object with members that are not archived, and others of the same names further down. -/
def captured : Document := [
  ("data", .object [("status", .string "kept"), ("uid", .number (.integer 18446744073709551615))]),
  ("metadata", .object [
    ("generation", .number (.integer 3)),
    ("labels", .object [("generation", .string "kept")]),
    ("name", .string "settings"),
    ("uid", .string "0f7c")]),
  ("status", .object [("phase", .string "Active")])]

/-- The same object with another status and none of the runtime fields. -/
def recaptured : Document := [
  ("data", .object [("status", .string "kept"), ("uid", .number (.integer 18446744073709551615))]),
  ("metadata", .object [
    ("labels", .object [("generation", .string "kept")]),
    ("name", .string "settings")]),
  ("status", .null)]

theorem archived_canonical_recaptured :
    (Json.object captured).IsExact ∧ captured.archivedBytes = recaptured.archivedBytes ∧
    RestoreItem.readBody "" captured.archivedBytes = .ok (Assoc.erase "status" recaptured) := by
  have exact : (Json.object captured).IsExact := by decide +kernel
  obtain ⟨_, _, _, read, same⟩ := archived_canonical exact
  have left : captured.stripped = Assoc.erase "status" recaptured := by rfl
  refine ⟨exact, (same recaptured (by decide +kernel)).mpr (by rfl), ?_⟩
  rw [read, left, if_pos (by decide)]

end Document

end ClusterArchive
