import ClusterArchive.Proofs.Text.Split
import ClusterArchive.Restore

/-! What is read from the files of an archive. Each file that holds an object gives one item; the
first that gives none ends the reading. -/

namespace ClusterArchive.RestoreItem

def HoldsObject (file : String × Bytes) : Prop := ∃ stem, file.1 = stem ++ Entry.ending

theorem holdsObject_iff {file : String × Bytes} :
    HoldsObject file ↔ (Text.stripSuffix? Entry.ending file.1).isSome := by
  simp only [HoldsObject, Option.isSome_iff_exists, Text.stripSuffix?_eq_some]

instance (file : String × Bytes) : Decidable (HoldsObject file) :=
  decidable_of_iff _ holdsObject_iff.symm

/-- A file is read up to its name: its path is that of an entry, its body is an object. -/
structure Decodes (file : String × Bytes) (entry : Entry) (object : Document) : Prop where
  path : Entry.parse file.1 = .ok entry
  body : (Json.readBytes file.2).toJson = .ok (.object object)

def Named (entry : Entry) (object : Document) : Prop := object.name? ≠ none ∨ entry.name ≠ ""

def IsReadable (file : String × Bytes) : Prop :=
  ∃ entry object, Decodes file entry object ∧ Named entry object

def Gives (file : String × Bytes) (item : RestoreItem) : Prop :=
  ∃ entry object, Decodes file entry object ∧ prepare file.1 entry object = .ok item

/-- What is wrong with a file: its path, else its body, else the lack of a name. -/
inductive Defect (file : String × Bytes) : RunError → Prop
  | path (fault : EntryFault) (refused : Entry.parse file.1 = .error fault) :
    Defect file (.malformedEntry file.1 fault.reason)
  | body {entry : Entry} (fault : Fault) (parsed : Entry.parse file.1 = .ok entry)
    (refused : (Json.readBytes file.2).toJson = .error fault) :
    Defect file (.malformedEntry file.1 ("invalid JSON body: " ++ fault.message))
  | shape {entry : Entry} (json : Json) (parsed : Entry.parse file.1 = .ok entry)
    (read : (Json.readBytes file.2).toJson = .ok json) (other : ∀ object, json ≠ .object object) :
    Defect file (.malformedEntry file.1 "body is not a JSON object")
  | name {entry : Entry} {object : Document} (decodes : Decodes file entry object)
    (nameless : ¬Named entry object) : Defect file (.missingName file.1)

/-- The first thing that is wrong with some files, or with the stream behind them. -/
inductive FirstFault (failure : Option RunError) : List (String × Bytes) → RunError → Prop
  | here {file : String × Bytes} (rest : List (String × Bytes)) {error : RunError}
    (holds : HoldsObject file) (defect : Defect file error) : FirstFault failure (file :: rest) error
  | later {file : String × Bytes} {rest : List (String × Bytes)} {error : RunError}
    (fine : HoldsObject file → IsReadable file) (fault : FirstFault failure rest error) :
    FirstFault failure (file :: rest) error
  | ended {error : RunError} (broken : failure = some error) : FirstFault failure [] error

theorem prepare_of_named {entry : Entry} {object : Document} (named : Named entry object)
    (path : String) : ∃ item, prepare path entry object = .ok item := by
  unfold prepare
  have nonempty : object.name?.getD entry.name ≠ "" := by
    cases found : object.name? with
    | some name => simpa using (Option.filter_eq_some_iff.mp found).2
    | none => simpa [Named, found] using named
  exact ⟨_, if_neg nonempty⟩

theorem prepare_of_nameless {entry : Entry} {object : Document} (nameless : ¬Named entry object)
    (path : String) : prepare path entry object = .error (.missingName path) := by
  obtain ⟨unnamed, empty⟩ := not_or.mp nameless
  rw [prepare, not_not.mp unnamed, Option.getD_none, if_pos (not_not.mp empty)]

theorem isReadable_iff {file : String × Bytes} : IsReadable file ↔ ∃ item, Gives file item := by
  constructor
  · rintro ⟨entry, object, decodes, named⟩
    obtain ⟨item, prepared⟩ := prepare_of_named named file.1
    exact ⟨item, entry, object, decodes, prepared⟩
  · rintro ⟨item, entry, object, decodes, prepared⟩
    refine ⟨entry, object, decodes, by_contra fun nameless => ?_⟩
    rw [prepare_of_nameless nameless] at prepared
    cases prepared

theorem ofFile_of_plain {path : String} {body : Bytes} (plain : ¬HoldsObject (path, body)) :
    ofFile path body = .ok none := by
  have ends : (Text.stripSuffix? Entry.ending path).isNone := by
    simpa using mt holdsObject_iff.mpr plain
  rw [ofFile, if_pos ends]
  rfl

theorem ofFile_of_holds {path : String} {body : Bytes} (holds : HoldsObject (path, body)) :
    ofFile path body = (do
      let entry ← Entry.ofPath path
      let object ← readBody path body
      return some (← prepare path entry object)) := by
  have ends : ¬(Text.stripSuffix? Entry.ending path).isNone := by
    simpa using Option.isSome_iff_ne_none.mp (holdsObject_iff.mp holds)
  rw [ofFile, if_neg ends]

theorem ofFile_of_gives {path : String} {body : Bytes} (holds : HoldsObject (path, body))
    {item : RestoreItem} (gives : Gives (path, body) item) : ofFile path body = .ok (some item) := by
  obtain ⟨entry, object, ⟨parsed, read⟩, prepared⟩ := gives
  simp only at parsed read prepared
  simp [ofFile_of_holds holds, Entry.ofPath, readBody, parsed, read, prepared, Except.mapError, bind,
    Except.bind, pure, Except.pure]

theorem ofFile_of_defect {path : String} {body : Bytes} (holds : HoldsObject (path, body))
    {error : RunError} (defect : Defect (path, body) error) : ofFile path body = .error error := by
  rw [ofFile_of_holds holds, Entry.ofPath, readBody]
  cases defect with
  | path fault refused =>
    rw [show Entry.parse path = _ from refused]
    rfl
  | body fault parsed refused =>
    rw [show Entry.parse path = _ from parsed, show (Json.readBytes body).toJson = _ from refused]
    rfl
  | shape json parsed read other =>
    rw [show Entry.parse path = _ from parsed, show (Json.readBytes body).toJson = _ from read]
    cases json with
    | object object => exact absurd rfl (other object)
    | _ => rfl
  | name decodes nameless =>
    rw [show Entry.parse path = _ from decodes.path,
      show (Json.readBytes body).toJson = _ from decodes.body]
    simp [bind, Except.bind, Except.mapError, prepare_of_nameless nameless]

theorem exists_defect {file : String × Bytes} (unreadable : ¬IsReadable file) :
    ∃ error, Defect file error := by
  cases parsed : Entry.parse file.1 with
  | error fault => exact ⟨_, .path fault parsed⟩
  | ok entry =>
    cases read : (Json.readBytes file.2).toJson with
    | error fault => exact ⟨_, .body fault parsed read⟩
    | ok json =>
      cases json with
      | object object =>
        have decodes : Decodes file entry object := ⟨parsed, read⟩
        exact ⟨_, .name decodes fun named => unreadable ⟨entry, object, decodes, named⟩⟩
      | null | bool | number | string | array => exact ⟨_, .shape _ parsed read (by simp)⟩

variable {failure : Option RunError} {files : List (String × Bytes)}

/-- If every file is fine, the items are those of the files that hold objects. -/
theorem ofFiles_of_readable (fine : ∀ file ∈ files, HoldsObject file → IsReadable file) :
    ∃ items, List.Forall₂ Gives (files.filter (HoldsObject ·)) items ∧
      ofFiles none files = .ok items := by
  induction files with
  | nil => exact ⟨[], .nil, rfl⟩
  | cons file rest ih =>
    obtain ⟨path, body⟩ := file
    obtain ⟨here, later⟩ := List.forall_mem_cons.mp fine
    obtain ⟨items, given, read⟩ := ih later
    by_cases holds : HoldsObject (path, body)
    · obtain ⟨item, gives⟩ := isReadable_iff.mp (here holds)
      refine ⟨item :: items, ?_, ?_⟩
      · rw [List.filter_cons_of_pos (by simpa using holds)]
        exact .cons gives given
      · rw [ofFiles, ofFile_of_gives holds gives, read]
        rfl
    · refine ⟨items, ?_, ?_⟩
      · rwa [List.filter_cons_of_neg (by simpa using holds)]
      · rw [ofFiles, ofFile_of_plain holds, read]
        rfl

theorem ofFiles_of_firstFault {error : RunError} (fault : FirstFault failure files error) :
    ofFiles failure files = .error error := by
  induction fault with
  | ended broken =>
    subst broken
    rfl
  | here rest holds defect =>
    rw [ofFiles, ofFile_of_defect holds defect]
    rfl
  | @later file rest error fine fault ih =>
    obtain ⟨path, body⟩ := file
    by_cases holds : HoldsObject (path, body)
    · obtain ⟨item, gives⟩ := isReadable_iff.mp (fine holds)
      rw [ofFiles, ofFile_of_gives holds gives, ih]
      rfl
    · rw [ofFiles, ofFile_of_plain holds, ih]
      rfl

theorem fine_or_firstFault (failure : Option RunError) (files : List (String × Bytes)) :
    (failure = none ∧ ∀ file ∈ files, HoldsObject file → IsReadable file) ∨
      ∃ error, FirstFault failure files error := by
  induction files with
  | nil =>
    cases failure with
    | none => exact .inl ⟨rfl, by simp⟩
    | some error => exact .inr ⟨error, .ended rfl⟩
  | cons file rest ih =>
    by_cases fine : HoldsObject file → IsReadable file
    · rcases ih with ⟨whole, later⟩ | ⟨error, fault⟩
      · exact .inl ⟨whole, List.forall_mem_cons.mpr ⟨fine, later⟩⟩
      · exact .inr ⟨error, .later fine fault⟩
    · obtain ⟨holds, unreadable⟩ := Classical.not_imp.mp fine
      obtain ⟨error, defect⟩ := exists_defect unreadable
      exact .inr ⟨error, .here rest holds defect⟩

variable {delivery : Delivery}

theorem ofDelivery_of_readable (whole : delivery.failure = none)
    (fine : ∀ file ∈ delivery.files, HoldsObject file → IsReadable file) :
    ∃ items, List.Forall₂ Gives (delivery.files.filter (HoldsObject ·)) items ∧
      ofDelivery delivery = .ok items := by
  rw [ofDelivery, whole]
  exact ofFiles_of_readable fine

theorem ofDelivery_ok_iff : (∃ items, ofDelivery delivery = .ok items) ↔
    delivery.failure = none ∧ ∀ file ∈ delivery.files, HoldsObject file → IsReadable file := by
  constructor
  · rintro ⟨items, read⟩
    rcases fine_or_firstFault delivery.failure delivery.files with fine | ⟨error, fault⟩
    · exact fine
    · cases read.symm.trans (ofFiles_of_firstFault fault)
  · rintro ⟨whole, fine⟩
    obtain ⟨items, _, read⟩ := ofDelivery_of_readable whole fine
    exact ⟨items, read⟩

theorem given_of_ofDelivery {items : List RestoreItem} (read : ofDelivery delivery = .ok items) :
    List.Forall₂ Gives (delivery.files.filter (HoldsObject ·)) items := by
  obtain ⟨whole, fine⟩ := ofDelivery_ok_iff.mp ⟨items, read⟩
  obtain ⟨same, given, again⟩ := ofDelivery_of_readable whole fine
  rwa [Except.ok.inj (read.symm.trans again)]

theorem ofDelivery_error_iff {error : RunError} : ofDelivery delivery = .error error ↔
    FirstFault delivery.failure delivery.files error := by
  refine ⟨fun failed => ?_, ofFiles_of_firstFault⟩
  rcases fine_or_firstFault delivery.failure delivery.files with fine | ⟨first, fault⟩
  · obtain ⟨items, read⟩ := ofDelivery_ok_iff.mpr fine
    cases failed.symm.trans read
  · obtain rfl := Except.error.inj ((ofFiles_of_firstFault fault).symm.trans failed)
    exact fault

end ClusterArchive.RestoreItem
