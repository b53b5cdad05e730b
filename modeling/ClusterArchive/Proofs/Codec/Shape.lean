import ClusterArchive.Codec.Shape
import ClusterArchive.Proofs.Json.Grammar
import Mathlib.Data.List.Nodup
import Mathlib.Data.List.Perm.Basic
import Mathlib.Data.List.ReduceOption

/-! Values of a shape are found in their texts. Records are found with their members in any order and
with members among them that they do not have. -/

namespace ClusterArchive.Shape

open Json.Reader

/-! ## Records

The members of a record are read in the order of the text and put in the order of the fields. -/

variable {room : Nat} {fields : List Field} {done members : List (String × Json)}
  {drafts all others : List (Except Fault String × Draft)}

/-- What a member adds to those of a record, if it is one of them. -/
inductive Adds (room : Nat) (fields : List Field) :
    Except Fault String × Draft → Option (String × Json) → Prop
  | own {field : Field} {draft : Draft} {value : Json}
      (found : fields.find? (·.name = field.name) = some field)
      (reads : read room field.isNullable field.shape draft = .ok value) :
      Adds room fields (.ok field.name, draft) (some (field.name, value))
  | other {key : String} {draft : Draft} (unknown : fields.find? (·.name = key) = none)
      (skipped : draft.skip = .ok ()) : Adds room fields (.ok key, draft) none

/-- Members in any order are read to the last, if none comes twice. -/
theorem readMembers_adds {added : List (Option (String × Json))}
    (each : List.Forall₂ (Adds room fields) all added) (done : List (String × Json))
    (once : (added.reduceOption.map Prod.fst ++ done.map Prod.fst).Nodup) :
    readMembers room fields done all = .ok (added.reduceOption.reverse ++ done) := by
  induction each generalizing done with
  | nil => rw [readMembers]; rfl
  | cons adds _ ih =>
    cases adds with
    | @own field draft value found reads =>
      rw [List.reduceOption_cons_of_some, List.map_cons, List.cons_append] at once
      have fresh : (done.lookup field.name).isSome = false := by
        rw [Option.isSome_eq_false_iff, Option.isNone_iff_eq_none, List.lookup_eq_none_iff]
        intro entry member
        have new := (List.nodup_cons.mp once).1
        have differs : field.name ≠ entry.1 := by
          rintro same
          rw [same] at new
          exact new (List.mem_append_right _ (List.mem_map.mpr ⟨entry, member, rfl⟩))
        simpa using differs
      have next := ih ((field.name, value) :: done) (List.nodup_middle.mpr once)
      rw [readMembers]
      simp only [faulty, Except.mapError, bind, Except.bind, found, fresh, reads, next]
      simp
    | @other key draft unknown skipped =>
      rw [List.reduceOption_cons_of_none] at once
      rw [readMembers]
      simp only [faulty, Except.mapError, bind, Except.bind, unknown, skipped, ih done once]
      simp

theorem find?_field {field : Field} (distinct : (fields.map Field.name).Nodup) (member : field ∈ fields) :
    fields.find? (·.name = field.name) = some field := by
  cases found : fields.find? (·.name = field.name) with
  | none => simpa using List.find?_eq_none.mp found field member
  | some other =>
    have same : other.name = field.name := by simpa using List.find?_some found
    rw [List.inj_on_of_nodup_map distinct (List.mem_of_find?_eq_some found) member same]

theorem find?_unknown {key : String} (unknown : key ∉ fields.map Field.name) :
    fields.find? (·.name = key) = none := by
  rw [List.find?_eq_none]
  intro field member same
  exact unknown (List.mem_map.mpr ⟨field, member, by simpa using same⟩)

theorem lookup_of_mem {key : String} {value : Json} (once : (done.map Prod.fst).Nodup)
    (member : (key, value) ∈ done) : done.lookup key = some value := by
  obtain ⟨before, after, rfl⟩ := List.append_of_mem member
  rw [List.map_append, List.map_cons, List.nodup_middle, List.nodup_cons] at once
  rw [List.lookup_eq_some_iff]
  refine ⟨before, after, rfl, fun entry isBefore => ?_⟩
  have differs : key ≠ entry.1 := by
    rintro rfl
    exact once.1 (List.mem_append_left _ (List.mem_map.mpr ⟨entry, isBefore, rfl⟩))
  simpa using differs

theorem assemble_of_lookup (names : members.map Prod.fst = fields.map Field.name)
    (held : ∀ entry ∈ members, done.lookup entry.1 = some entry.2) :
    assemble done fields = .ok members := by
  induction fields generalizing members with
  | nil =>
    obtain rfl := List.map_eq_nil_iff.mp names
    rfl
  | cons field rest ih =>
    cases members with
    | nil => cases names
    | cons entry later =>
      obtain ⟨key, value⟩ := entry
      rw [List.map_cons, List.map_cons] at names
      obtain ⟨rfl, further⟩ := List.cons.inj names
      obtain ⟨here, heldRest⟩ := List.forall_mem_cons.mp held
      rw [assemble, here, ih further heldRest]
      rfl

/-- Drafts of the members of a record, in the order of its fields. -/
inductive Drafted (room : Nat) :
    List Field → List (String × Json) → List (Except Fault String × Draft) → Prop
  | nil : Drafted room [] [] []
  | cons {field : Field} {fields : List Field} {value : Json} {members : List (String × Json)} {draft : Draft}
      {drafts : List (Except Fault String × Draft)}
      (here : read room field.isNullable field.shape draft = .ok value)
      (later : Drafted room fields members drafts) :
      Drafted room (field :: fields) ((field.name, value) :: members) ((.ok field.name, draft) :: drafts)

theorem Drafted.names (drafted : Drafted room fields members drafts) :
    members.map Prod.fst = fields.map Field.name := by
  induction drafted with
  | nil => rfl
  | cons _ _ ih => rw [List.map_cons, List.map_cons, ih]

theorem Drafted.adds {all : List Field} (drafted : Drafted room fields members drafts)
    (distinct : (all.map Field.name).Nodup) (part : ∀ field ∈ fields, field ∈ all) :
    List.Forall₂ (Adds room all) drafts (members.map some) := by
  induction drafted with
  | nil => exact .nil
  | cons here _ ih =>
    obtain ⟨isField, later⟩ := List.forall_mem_cons.mp part
    exact .cons (.own (find?_field distinct isField) here) (ih later)

/-- A record is read from its members in any order, with others among them. -/
theorem read_record (distinct : (fields.map Field.name).Nodup)
    (drafted : Drafted room fields members drafts)
    (unknown : ∀ other ∈ others, ∃ key, other.1 = .ok key ∧ key ∉ fields.map Field.name ∧
      other.2.skip = .ok ())
    (shuffled : all.Perm (drafts ++ others)) (nullable : Bool) (name : String) :
    read (room + 1) nullable (.record name fields) (.object all none) = .ok (.object members) := by
  have own := drafted.adds distinct fun _ member => member
  have rest : List.Forall₂ (Adds room fields) others (others.map fun _ => none) := by
    rw [List.forall₂_map_right_iff, List.forall₂_same]
    rintro ⟨_, draft⟩ member
    obtain ⟨key, rfl, new, skipped⟩ := unknown _ member
    exact .other (find?_unknown new) skipped
  -- What the members add is, but for the order, what the fields would add in theirs.
  obtain ⟨added, adds, same⟩ := List.perm_comp_forall₂ shuffled (List.rel_append own rest)
  have found : added.reduceOption.Perm members := by
    have whole : ((members.map some) ++ others.map fun _ => none).reduceOption = members := by
      simp [List.reduceOption]
    rw [← whole]
    exact same.filterMap id
  have once : (members.map Prod.fst).Nodup := drafted.names ▸ distinct
  have onceFound : (added.reduceOption.map Prod.fst).Nodup := ((found.map _).nodup_iff).mpr once
  have done := readMembers_adds adds [] (by simpa using onceFound)
  have reversed := (List.reverse_perm added.reduceOption)
  have held : ∀ entry ∈ members, (added.reduceOption.reverse ++ []).lookup entry.1 = some entry.2 := by
    intro entry member
    rw [List.append_nil]
    exact lookup_of_mem (((reversed.map _).nodup_iff).mpr onceFound)
      (reversed.mem_iff.mpr (found.mem_iff.mpr member))
  rw [read, done]
  simp only [bind, Except.bind, assemble_of_lookup drafted.names held]
  rfl

/-! ## Values of a shape -/

mutual

/-- A value as it is kept of a shape, with at most `room` nested containers: the members of a record are
its fields, in their order, and numbers have at most 64 bits, as greater ones are read as doubles. -/
inductive Fits : Nat → Bool → Shape → Json → Prop
  | null (room : Nat) (shape : Shape) : Fits room true shape .null
  | text (room : Nat) (nullable : Bool) (wording value : String) :
      Fits room nullable (.text wording) (.string value)
  | boolean (room : Nat) (nullable value : Bool) : Fits room nullable .boolean (.bool value)
  | natural (room : Nat) (nullable : Bool) {limit : Nat} (wording : String) {n : Nat} (within : n < limit)
      (word : limit ≤ Nat.pow 2 64) :
      Fits room nullable (.natural limit wording) (.natural n)
  | time (room : Nat) (nullable : Bool) {value : String} {t : Instant} (isTime : Rfc3339.read value = .ok t) :
      Fits room nullable .time (.string value)
  | list {room : Nat} (nullable : Bool) {shape : Shape} {items : List Json}
      (each : ∀ item ∈ items, Fits room false shape item) :
      Fits (room + 1) nullable (.list shape) (.array items)
  | record {room : Nat} (nullable : Bool) {name : String} {fields : List Field}
      {members : List (String × Json)} (distinct : (fields.map Field.name).Nodup)
      (each : FieldsFit room fields members) :
      Fits (room + 1) nullable (.record name fields) (.object members)
  | choice {room : Nat} (nullable : Bool) {variants : List Field} {field : Field} {value : Json}
      (distinct : (variants.map Field.name).Nodup) (member : field ∈ variants)
      (fits : Fits room field.isNullable field.shape value) :
      Fits (room + 1) nullable (.choice variants) (.object [(field.name, value)])

inductive FieldsFit : Nat → List Field → List (String × Json) → Prop
  | nil (room : Nat) : FieldsFit room [] []
  | cons {room : Nat} {field : Field} {fields : List Field} {value : Json} {members : List (String × Json)}
      (here : Fits room field.isNullable field.shape value) (later : FieldsFit room fields members) :
      FieldsFit room (field :: fields) ((field.name, value) :: members)

end

/-- A text in which a value of a shape is found, wherever a value is expected. -/
def Holds (room : Nat) (nullable : Bool) (shape : Shape) (value : Json) (text : List Char) : Prop :=
  ∃ draft, Reads text draft ∧ read room nullable shape draft = .ok value

section

variable {nullable : Bool} {shape : Shape} {value : Json} {text before behind : List Char}

theorem Holds.spaced (holds : Holds room nullable shape value text) (spaces : AreSpaces before)
    (spacesBehind : AreSpaces behind) : Holds room nullable shape value (before ++ text ++ behind) := by
  obtain ⟨draft, reads, is⟩ := holds
  exact ⟨draft, reads.spaced spaces spacesBehind, is⟩

theorem Holds.readWhole (holds : Holds Draft.depthLimit false shape value text) :
    shape.readWhole (Json.readText (String.ofList text)) = .ok value := by
  obtain ⟨draft, reads, is⟩ := holds
  rw [Json.readText, String.toList_ofList, reads.readUnits, Shape.readWhole, is]
  rfl

theorem holds_string {value : String} (style : Json.Style) (depth : Nat)
    (takes : scalar shape (.string value) = .ok (.string value)) :
    Holds room nullable shape (.string value) (Json.render style depth (.string value)) := by
  refine ⟨.string value, ?_, ?_⟩
  · rw [Json.render]
    exact reads_string value
  · rw [read, takes] <;> simp

theorem holds_items {items : List Json} {text : Json → List Char}
    (each : ∀ item ∈ items, Holds room false shape item (text item)) :
    ∃ drafts, List.Forall₂ Reads (items.map text) drafts ∧ readItems room shape drafts = .ok items := by
  induction items with
  | nil => exact ⟨[], .nil, by rw [readItems]⟩
  | cons item rest ih =>
    obtain ⟨⟨draft, reads, is⟩, later⟩ := List.forall_mem_cons.mp each
    obtain ⟨drafts, readsRest, are⟩ := ih later
    refine ⟨draft :: drafts, .cons reads readsRest, ?_⟩
    rw [readItems, is, are]
    rfl

end

mutual

/-- A value that fits a shape is found in its text. -/
theorem holds_render {room : Nat} {nullable : Bool} {shape : Shape} {value : Json}
    (fits : Fits room nullable shape value) (style : Json.Style) (depth : Nat) :
    Holds room nullable shape value (Json.render style depth value) := by
  match fits with
  | .null room shape =>
    refine ⟨.null, reads_null, ?_⟩
    rw [read, if_pos rfl]
  | .text .. => exact holds_string style depth rfl
  | .time _ _ isTime => exact holds_string style depth (by simp [scalar, isTime])
  | .boolean _ _ value =>
    refine ⟨.bool value, reads_bool style depth value, ?_⟩
    rw [read] <;> simp [scalar]
  | @Fits.natural _ _ limit wording n within word =>
    have exact_ : Number.IsExact (.integer n) := by
      have bound : n < 18446744073709551616 := Nat.lt_of_lt_of_le within word
      constructor <;> omega
    refine ⟨.number (.integer n), ?_, ?_⟩
    · rw [Json.natural, Json.render]
      exact reads_integer exact_
    · rw [read] <;> simp [scalar, within, Json.natural]
  | @Fits.list room _ shape items each =>
    obtain ⟨drafts, reads, are⟩ := holds_items fun item member =>
      let ⟨draft, reads, is⟩ := holds_render (each item member) style (depth + 1)
      ⟨draft, reads_itemText reads, is⟩
    obtain ⟨behind, spaces, shown⟩ := render_array style depth items
    refine ⟨.array drafts none, shown ▸ reads_array reads spaces, ?_⟩
    rw [read, are]
    rfl
  | @Fits.record room _ name fields members distinct each =>
    obtain ⟨drafts, drafted, reads⟩ := drafted_render each style (depth + 1)
    obtain ⟨behind, spaces, shown⟩ := render_object style depth members
    have whole : drafts.Perm (drafts ++ []) := by rw [List.append_nil]
    exact ⟨.object drafts none, shown ▸ reads_object reads spaces,
      read_record distinct drafted (by simp) whole nullable name⟩
  | @Fits.choice room _ variants field value distinct member fits =>
    obtain ⟨draft, reads, is⟩ := holds_render fits style (depth + 1)
    obtain ⟨behind, spaces, shown⟩ := render_object style depth [(field.name, value)]
    refine ⟨.object [(.ok field.name, draft)] none,
      shown ▸ reads_object (.cons (readsMember_entryText (field.name, value) reads) .nil) spaces, ?_⟩
    rw [read, readChoice]
    simp only [faulty, Except.mapError, bind, Except.bind, find?_field distinct member, is]
    rfl

theorem drafted_render {room : Nat} {fields : List Field} {members : List (String × Json)}
    (each : FieldsFit room fields members) (style : Json.Style) (depth : Nat) :
    ∃ drafts, Drafted room fields members drafts ∧
      List.Forall₂ ReadsMember (members.map (entryText style depth)) drafts := by
  match each with
  | .nil _ => exact ⟨[], .nil, .nil⟩
  | @FieldsFit.cons room field fields value members here later =>
    obtain ⟨draft, reads, is⟩ := holds_render here style depth
    obtain ⟨drafts, drafted, readsRest⟩ := drafted_render later style depth
    exact ⟨_, .cons is drafted, .cons (readsMember_entryText (field.name, value) reads) readsRest⟩

end

/-! ## Members in any order -/

inductive IsKeyOf (key : String) : List Char → Prop
  | spaced {before behind : List Char} (spaces : AreSpaces before) (spacesBehind : AreSpaces behind) :
      IsKeyOf key (before ++ Json.renderString key ++ behind)

theorem isKeyOf_string (key : String) : IsKeyOf key (Json.renderString key) := by
  have isKey : IsKeyOf key ([] ++ Json.renderString key ++ []) := .spaced areSpaces_nil areSpaces_nil
  simpa using isKey

theorem IsKeyOf.reads {key : String} {text : List Char} (isKey : IsKeyOf key text) :
    ReadsKey text (.ok key) := by
  obtain ⟨spaces, spacesBehind⟩ := isKey
  exact (readsKey_string key).spaced spaces spacesBehind

inductive IsUnknown (fields : List Field) : List Char × List Char → Prop
  | member {key : String} {keyText text : List Char} (isKey : IsKeyOf key keyText)
      (isNew : key ∉ fields.map Field.name) (isValue : Json.IsValue text) : IsUnknown fields (keyText, text)

mutual

/-- A text of a value of a shape. The members of its records may stand in any order, with others among
them that are no fields of the record, and white space may stand between all tokens. -/
inductive Rearranges : Shape → Json → List Char → Prop
  | printed (shape : Shape) (value : Json) (style : Json.Style) (depth : Nat) :
      Rearranges shape value (Json.render style depth value)
  | spaced {shape : Shape} {value : Json} {before text behind : List Char}
      (rearranges : Rearranges shape value text) (spaces : AreSpaces before)
      (spacesBehind : AreSpaces behind) : Rearranges shape value (before ++ text ++ behind)
  | record {name : String} {fields : List Field} {members : List (String × Json)}
      {own others entries : List (List Char × List Char)} {behind : List Char}
      (each : RearrangesEach fields members own) (unknown : ∀ other ∈ others, IsUnknown fields other)
      (shuffled : entries.Perm (own ++ others)) (spaces : AreSpaces behind) :
      Rearranges (.record name fields) (.object members)
        ('\x7b' :: ([','].intercalate (entries.map memberText) ++ (behind ++ ['\x7d'])))

inductive RearrangesEach : List Field → List (String × Json) → List (List Char × List Char) → Prop
  | nil : RearrangesEach [] [] []
  | cons {field : Field} {fields : List Field} {value : Json} {members : List (String × Json)}
      {keyText text : List Char} {own : List (List Char × List Char)} (isKey : IsKeyOf field.name keyText)
      (here : Rearranges field.shape value text) (later : RearrangesEach fields members own) :
      RearrangesEach (field :: fields) ((field.name, value) :: members) ((keyText, text) :: own)

end

/-- Printed members of a record are texts of them, in the order of the fields. -/
theorem rearrangesEach_printed {fields : List Field} {members : List (String × Json)}
    (names : members.map Prod.fst = fields.map Field.name) (style : Json.Style) (depth : Nat) :
    RearrangesEach fields members (members.map (entryText style depth)) := by
  induction fields generalizing members with
  | nil =>
    obtain rfl := List.map_eq_nil_iff.mp names
    exact .nil
  | cons field rest ih =>
    cases members with
    | nil => cases names
    | cons entry later =>
      obtain ⟨key, value⟩ := entry
      rw [List.map_cons, List.map_cons] at names
      obtain ⟨rfl, further⟩ := List.cons.inj names
      have isKey : IsKeyOf field.name (style.gap depth ++ Json.renderString field.name ++ []) :=
        .spaced (isSpace_gap style depth) areSpaces_nil
      have here : Rearranges field.shape value (style.colon.tail ++ value.render style depth ++ []) :=
        .spaced (.printed ..) (areSpaces_colon style) areSpaces_nil
      rw [List.append_nil] at isKey here
      exact .cons isKey here (ih further)

theorem rearranges_shuffled {name : String} {fields : List Field} {members entries : List (String × Json)}
    (names : members.map Prod.fst = fields.map Field.name) (shuffled : entries.Perm members)
    (style : Json.Style) (depth : Nat) :
    Rearranges (.record name fields) (.object members) (Json.render style depth (.object entries)) := by
  obtain ⟨behind, spaces, shown⟩ := render_object style depth entries
  have same : (entries.map (entryText style (depth + 1))).Perm
      (members.map (entryText style (depth + 1)) ++ []) := by
    rw [List.append_nil]
    exact shuffled.map _
  rw [shown]
  exact .record (rearrangesEach_printed names style (depth + 1)) (List.forall_mem_nil _) same spaces

theorem readsMember_unknown {others : List (List Char × List Char)}
    (unknown : ∀ other ∈ others, IsUnknown fields other) : ∃ drafts : List (Except Fault String × Draft),
    (∀ draft ∈ drafts, ∃ key, draft.1 = .ok key ∧ key ∉ fields.map Field.name ∧ draft.2.skip = .ok ()) ∧
      List.Forall₂ ReadsMember others drafts := by
  apply forall₂_of_each
  intro other member
  obtain ⟨isKey, isNew, isValue⟩ := unknown other member
  obtain ⟨draft, skipped, reads⟩ := reads_isValue isValue
  exact ⟨(.ok _, draft), ⟨_, rfl, isNew, skipped⟩, isKey.reads, reads⟩

mutual

/-- A value that fits a shape is found in every text of it. -/
theorem holds_rearranged {room : Nat} {nullable : Bool} {shape : Shape} {value : Json} {text : List Char}
    (rearranges : Rearranges shape value text) (fits : Fits room nullable shape value) :
    Holds room nullable shape value text := by
  match rearranges with
  | .printed _ _ style depth => exact holds_render fits style depth
  | .spaced inside spaces spacesBehind => exact (holds_rearranged inside fits).spaced spaces spacesBehind
  | @Rearranges.record name fields members own others entries behind each unknown shuffled spaces =>
    cases fits with
    | record _ distinct fits =>
      obtain ⟨drafts, drafted, reads⟩ := drafted_rearranged each fits
      obtain ⟨otherDrafts, skipped, readsOthers⟩ := readsMember_unknown unknown
      -- The drafts are shuffled as the texts are.
      obtain ⟨all, readsAll, same⟩ := List.perm_comp_forall₂ shuffled (List.rel_append reads readsOthers)
      exact ⟨.object all none, reads_object readsAll spaces,
        read_record distinct drafted skipped same nullable name⟩

theorem drafted_rearranged {room : Nat} {fields : List Field} {members : List (String × Json)}
    {own : List (List Char × List Char)} (each : RearrangesEach fields members own)
    (fits : FieldsFit room fields members) :
    ∃ drafts, Drafted room fields members drafts ∧ List.Forall₂ ReadsMember own drafts := by
  match each with
  | .nil => exact ⟨[], .nil, .nil⟩
  | .cons isKey here later =>
    cases fits with
    | cons fits fitsRest =>
      obtain ⟨draft, reads, is⟩ := holds_rearranged here fits
      obtain ⟨drafts, drafted, readsRest⟩ := drafted_rearranged later fitsRest
      exact ⟨_, .cons is drafted, .cons ⟨isKey.reads, reads⟩ readsRest⟩

end

end ClusterArchive.Shape
