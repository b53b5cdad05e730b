import ClusterArchive.Proofs.Json.Token
import Mathlib.Data.List.Forall2

/-! Texts that are read as one value wherever a value is expected, and how lists and objects are put
together from such texts, with or without white space. -/

namespace ClusterArchive.Json.Reader

/-- A text is read as a draft, wherever a value is expected. -/
def Reads (text : List Char) (draft : Draft) : Prop :=
  ∀ stack root place, Settles (run ⟨stack, root, .value place⟩ text) (State.give ⟨stack, root, .after⟩ draft)

/-- A text is read as a key and its colon is awaited, wherever a key is expected. -/
def ReadsKey (text : List Char) (key : Except Fault String) : Prop :=
  ∀ mode, mode = .firstKey ∨ mode = .nextKey → ∀ done outer root,
    run ⟨.object done none :: outer, root, mode⟩ text = ⟨.object done (some key) :: outer, root, .colon⟩

def AreSpaces (text : List Char) : Prop := ∀ c ∈ text, isSpace c = true

theorem areSpaces_nil : AreSpaces [] := by simp [AreSpaces]

variable {text before behind : List Char} {draft : Draft} {key : Except Fault String}

theorem Settles.run_spaces {s settled : State} (settles : Settles s settled) (spaces : AreSpaces text) :
    Settles (run s text) settled := by
  cases text with
  | nil => exact settles
  | cons c rest =>
    rw [settles.run_space spaces]
    exact .refl settles.after

theorem Reads.spaced (reads : Reads text draft) (spaces : AreSpaces before)
    (spacesBehind : AreSpaces behind) : Reads (before ++ text ++ behind) draft := by
  intro stack root place
  rw [run_append, run_append, run_spaces (.value place) spaces]
  exact (reads stack root place).run_spaces spacesBehind

theorem run_colon_spaces {stack : List Frame} {root : Option Draft} (spaces : AreSpaces text) :
    run ⟨stack, root, .colon⟩ text = ⟨stack, root, .colon⟩ := by
  induction text with
  | nil => rfl
  | cons c rest ih =>
    obtain ⟨here, later⟩ := List.forall_mem_cons.mp spaces
    have stays : step ⟨stack, root, .colon⟩ (some c) = ⟨stack, root, .colon⟩ := by simp [step, here]
    rw [run_cons, stays, ih later]

theorem ReadsKey.spaced (reads : ReadsKey text key) (spaces : AreSpaces before)
    (spacesBehind : AreSpaces behind) : ReadsKey (before ++ text ++ behind) key := by
  intro mode isKey done outer root
  have isOpen : mode.IsOpen := by
    rcases isKey with rfl | rfl
    · exact .firstKey
    · exact .nextKey
  rw [run_append, run_append, run_spaces isOpen spaces, reads mode isKey, run_colon_spaces spacesBehind]

theorem readsKey_string (key : String) : ReadsKey (renderString key) (.ok key) :=
  fun _ isKey _ _ _ => run_key isKey key

theorem reads_null : Reads ['n', 'u', 'l', 'l'] .null := fun _ _ _ => .refl (mode_give ..)

theorem reads_bool (style : Style) (depth : Nat) (value : Bool) :
    Reads (render style depth (.bool value)) (.bool value) := by
  intro stack root place
  cases value <;> exact .refl (mode_give ..)

theorem reads_integer {value : Int} (exact : Number.IsExact (.integer value)) :
    Reads (renderNumber (.integer value)) (.number (.integer value)) :=
  fun _ _ place => settles_integer place exact

theorem reads_string (text : String) : Reads (renderString text) (.string text) := by
  intro stack root place
  rw [run_string]
  exact .refl (mode_give ..)

/-- A whole text is read as what it is read as anywhere. -/
theorem Reads.readUnits (reads : Reads text draft) : readUnits (text.map some) = ⟨draft, none⟩ := by
  have ended : settle (run start text) = ⟨[], some draft, .after⟩ := (reads [] none .start).ended
  change finish (run start text) = _
  simp only [finish, ended, endFault]

/-! ## Lists and objects -/

/-- The items after those that were read, and the end of the list. -/
theorem run_items {texts : List (List Char)} {drafts : List Draft} (each : List.Forall₂ Reads texts drafts)
    {s : State} {done : List Draft} {outer : List Frame} {root : Option Draft}
    (settles : Settles s ⟨.array done :: outer, root, .after⟩) (spaces : AreSpaces behind) :
    run s (texts.flatMap (',' :: ·) ++ (behind ++ [']'])) =
      State.give ⟨outer, root, .after⟩ (.array (done.reverse ++ drafts) none) := by
  induction each generalizing s done with
  | nil =>
    have ends : EndsNumber ']' := by decide
    rw [List.flatMap_nil, List.nil_append, settles.run_gap spaces ends, List.append_nil]
    rfl
  | @cons text draft texts drafts reads each ih =>
    have ends : EndsNumber ',' := by decide
    have comma : step s (some ',') = ⟨.array done :: outer, root, .value .nextItem⟩ :=
      settles.step ',' ends
    have here : Settles _ ⟨.array (draft :: done) :: outer, root, .after⟩ :=
      reads (.array done :: outer) root .nextItem
    rw [List.flatMap_cons, List.cons_append, List.cons_append, run_cons, comma, List.append_assoc,
      run_append, ih here, List.reverse_cons, List.append_assoc]
    rfl

theorem intercalate_cons (first : List Char) (rest : List (List Char)) :
    [','].intercalate (first :: rest) = first ++ rest.flatMap (',' :: ·) := by
  induction rest generalizing first with
  | nil => simp
  | cons next rest ih => simp [List.intercalate_cons_cons, ih]

theorem reads_array {texts : List (List Char)} {drafts : List Draft}
    (each : List.Forall₂ Reads texts drafts) (spaces : AreSpaces behind) :
    Reads ('[' :: ([','].intercalate texts ++ (behind ++ [']']))) (.array drafts none) := by
  intro stack root place
  have opened : step ⟨stack, root, .value place⟩ (some '[') =
      ⟨.array [] :: stack, root, .value .firstItem⟩ := rfl
  rw [run_cons, opened]
  cases each with
  | nil =>
    rw [List.intercalate_nil, List.nil_append, run_append, run_spaces (.value _) spaces]
    exact .refl (mode_give ..)
  | cons reads each =>
    have first := reads (.array [] :: stack) root .firstItem
    rw [intercalate_cons, List.append_assoc, run_append, run_items each first spaces]
    exact .refl (mode_give ..)

def memberText (entry : List Char × List Char) : List Char := entry.1 ++ ':' :: entry.2

def ReadsMember (entry : List Char × List Char) (member : Except Fault String × Draft) : Prop :=
  ReadsKey entry.1 member.1 ∧ Reads entry.2 member.2

theorem ReadsMember.settles {entry : List Char × List Char} {member : Except Fault String × Draft}
    (reads : ReadsMember entry member) {mode : Mode} (isKey : mode = .firstKey ∨ mode = .nextKey)
    (done : List (Except Fault String × Draft)) (outer : List Frame) (root : Option Draft) :
    Settles (run ⟨.object done none :: outer, root, mode⟩ (memberText entry))
      ⟨.object (member :: done) none :: outer, root, .after⟩ := by
  have colon : step ⟨.object done (some member.1) :: outer, root, .colon⟩ (some ':') =
      ⟨.object done (some member.1) :: outer, root, .value .member⟩ := rfl
  rw [memberText, run_append, reads.1 mode isKey, run_cons, colon]
  exact reads.2 (.object done (some member.1) :: outer) root .member

/-- The members after those that were read, and the end of the object. -/
theorem run_members {entries : List (List Char × List Char)} {members : List (Except Fault String × Draft)}
    (each : List.Forall₂ ReadsMember entries members) {s : State}
    {done : List (Except Fault String × Draft)} {outer : List Frame} {root : Option Draft}
    (settles : Settles s ⟨.object done none :: outer, root, .after⟩) (spaces : AreSpaces behind) :
    run s ((entries.map memberText).flatMap (',' :: ·) ++ (behind ++ ['\x7d'])) =
      State.give ⟨outer, root, .after⟩ (.object (done.reverse ++ members) none) := by
  induction each generalizing s done with
  | nil =>
    have ends : EndsNumber '\x7d' := by decide
    rw [List.map_nil, List.flatMap_nil, List.nil_append, settles.run_gap spaces ends, List.append_nil]
    rfl
  | @cons entry member entries members reads each ih =>
    have ends : EndsNumber ',' := by decide
    have comma : step s (some ',') = ⟨.object done none :: outer, root, .nextKey⟩ :=
      settles.step ',' ends
    have here := reads.settles (.inr rfl) done outer root
    rw [List.map_cons, List.flatMap_cons, List.cons_append, List.cons_append, run_cons, comma,
      List.append_assoc, run_append, ih here, List.reverse_cons, List.append_assoc]
    rfl

/-- An object is read as the object of what its members are read as. -/
theorem reads_object {entries : List (List Char × List Char)} {members : List (Except Fault String × Draft)}
    (each : List.Forall₂ ReadsMember entries members) (spaces : AreSpaces behind) :
    Reads ('\x7b' :: ([','].intercalate (entries.map memberText) ++ (behind ++ ['\x7d'])))
      (.object members none) := by
  intro stack root place
  have opened : step ⟨stack, root, .value place⟩ (some '\x7b') =
      ⟨.object [] none :: stack, root, .firstKey⟩ := rfl
  rw [run_cons, opened]
  cases each with
  | nil =>
    rw [List.map_nil, List.intercalate_nil, List.nil_append, run_append, run_spaces .firstKey spaces]
    exact .refl (mode_give ..)
  | cons reads each =>
    have first := reads.settles (.inl rfl) [] stack root
    rw [List.map_cons, intercalate_cons, List.append_assoc, run_append, run_members each first spaces]
    exact .refl (mode_give ..)

/-! ## Printed lists and objects -/

def itemText (style : Style) (depth : Nat) (item : Json) : List Char :=
  style.gap depth ++ render style depth item

def entryText (style : Style) (depth : Nat) (entry : String × Json) : List Char × List Char :=
  (style.gap depth ++ renderString entry.1, style.colon.tail ++ render style depth entry.2)

theorem memberText_entryText (style : Style) (depth : Nat) (entry : String × Json) :
    memberText (entryText style depth entry) =
      style.gap depth ++ renderString entry.1 ++ style.colon ++ render style depth entry.2 := by
  have colon : ':' :: style.colon.tail = style.colon := by cases style <;> rfl
  rw [memberText, entryText, ← List.cons_append, colon]
  simp only [List.append_assoc]

theorem render_array (style : Style) (depth : Nat) (items : List Json) : ∃ behind, AreSpaces behind ∧
    render style depth (.array items) =
      '[' :: ([','].intercalate (items.map (itemText style (depth + 1))) ++ (behind ++ [']'])) := by
  cases items with
  | nil => exact ⟨[], areSpaces_nil, rfl⟩
  | cons first rest =>
    have others : renderItems style (depth + 1) rest =
        (rest.map (itemText style (depth + 1))).flatMap (',' :: ·) := by
      induction rest with
      | nil => simp [renderItems]
      | cons item rest ih =>
        rw [renderItems, ih]
        simp [itemText]
    refine ⟨style.gap depth, isSpace_gap style depth, ?_⟩
    rw [render, others, List.map_cons, intercalate_cons]
    simp [itemText]

theorem render_object (style : Style) (depth : Nat) (members : List (String × Json)) :
    ∃ behind, AreSpaces behind ∧ render style depth (.object members) =
      '\x7b' :: ([','].intercalate ((members.map (entryText style (depth + 1))).map memberText) ++
        (behind ++ ['\x7d'])) := by
  cases members with
  | nil => exact ⟨[], areSpaces_nil, rfl⟩
  | cons first rest =>
    have others : renderMembers style (depth + 1) rest =
        ((rest.map (entryText style (depth + 1))).map memberText).flatMap (',' :: ·) := by
      induction rest with
      | nil => simp [renderMembers]
      | cons entry rest ih =>
        rw [renderMembers, ih]
        simp [memberText_entryText]
    refine ⟨style.gap depth, isSpace_gap style depth, ?_⟩
    rw [render, others, List.map_cons, List.map_cons, intercalate_cons, memberText_entryText]
    simp

theorem areSpaces_colon (style : Style) : AreSpaces style.colon.tail := by
  cases style with
  | compact => simp [AreSpaces, Style.colon]
  | indented => simp [AreSpaces, Style.colon, isSpace]

theorem reads_itemText {style : Style} {depth : Nat} {item : Json} {draft : Draft}
    (reads : Reads (render style depth item) draft) : Reads (itemText style depth item) draft := by
  simpa [itemText] using reads.spaced (isSpace_gap style depth) areSpaces_nil

theorem readsMember_entryText (entry : String × Json) {style : Style} {depth : Nat} {draft : Draft}
    (reads : Reads (render style depth entry.2) draft) :
    ReadsMember (entryText style depth entry) (.ok entry.1, draft) := by
  constructor
  · simpa [entryText] using (readsKey_string entry.1).spaced (isSpace_gap style depth) areSpaces_nil
  · simpa [entryText] using reads.spaced (areSpaces_colon style) areSpaces_nil

end ClusterArchive.Json.Reader
