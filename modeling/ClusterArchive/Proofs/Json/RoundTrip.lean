import ClusterArchive.Proofs.Assoc
import ClusterArchive.Proofs.Json.Reads
import ClusterArchive.Proofs.Text.Utf8

/-! Printed documents are read back as they were, compact or indented. Doubles are left out: they are
read with two roundings, so a printed double may come back as its neighbour. -/

namespace ClusterArchive.Json

mutual

/-- All numbers are integers of 64 bits. Members stand in the order of their keys, as JSON documents
keep them. -/
def IsExact : Json → Prop
  | number value => value.IsExact
  | array items => AreExactItems items
  | object members => Assoc.Ascending members ∧ AreExactMembers members
  | _ => True

def AreExactItems : List Json → Prop
  | [] => True
  | item :: rest => IsExact item ∧ AreExactItems rest

def AreExactMembers : List (String × Json) → Prop
  | [] => True
  | (_, value) :: rest => IsExact value ∧ AreExactMembers rest

end

mutual

def decideExact : (value : Json) → Decidable value.IsExact
  | null | bool _ | string _ => decidable_of_iff True (by simp only [IsExact])
  | number value => decidable_of_iff value.IsExact (by rw [IsExact])
  | array items =>
    have := decideExactItems items
    decidable_of_iff (AreExactItems items) (by rw [IsExact])
  | object members =>
    have := decideExactMembers members
    decidable_of_iff (Assoc.Ascending members ∧ AreExactMembers members) (by rw [IsExact])

def decideExactItems : (items : List Json) → Decidable (AreExactItems items)
  | [] => decidable_of_iff True (by rw [AreExactItems])
  | item :: rest =>
    have := decideExact item
    have := decideExactItems rest
    decidable_of_iff (item.IsExact ∧ AreExactItems rest) (by rw [AreExactItems])

def decideExactMembers : (members : List (String × Json)) → Decidable (AreExactMembers members)
  | [] => decidable_of_iff True (by rw [AreExactMembers])
  | (_, value) :: rest =>
    have := decideExact value
    have := decideExactMembers rest
    decidable_of_iff (value.IsExact ∧ AreExactMembers rest) (by rw [AreExactMembers])

end

instance (value : Json) : Decidable value.IsExact := decideExact value

theorem areExactMembers_iff {members : List (String × Json)} :
    AreExactMembers members ↔ ∀ entry ∈ members, entry.2.IsExact := by
  induction members with
  | nil => simp [AreExactMembers]
  | cons head rest ih => rw [AreExactMembers, ih, List.forall_mem_cons]

theorem AreExactMembers.of_mem {members : List (String × Json)} (exact : AreExactMembers members)
    {key : String} {value : Json} (member : (key, value) ∈ members) : value.IsExact := by
  induction members with
  | nil => cases member
  | cons head rest ih =>
    rw [AreExactMembers] at exact
    rcases List.mem_cons.mp member with rfl | later
    · exact exact.1
    · exact ih exact.2 later

namespace Reader

mutual

/-- A value is read as it was printed, wherever a value is expected. -/
theorem reads_render (style : Style) (value : Json) (exact : value.IsExact) (depth : Nat) :
    Reads (render style depth value) (Draft.ofJson value) := by
  match value with
  | .null => exact reads_null
  | .bool value => exact reads_bool style depth value
  | .number (.integer _) =>
    rw [IsExact] at exact
    rw [render, Draft.ofJson]
    exact reads_integer exact
  | .number (.double _) =>
    rw [IsExact] at exact
    exact exact.elim
  | .string text =>
    rw [render, Draft.ofJson]
    exact reads_string text
  | .array items =>
    rw [IsExact] at exact
    obtain ⟨behind, spaces, shown⟩ := render_array style depth items
    rw [shown, Draft.ofJson]
    exact reads_array (reads_items style items exact (depth + 1)) spaces
  | .object members =>
    rw [IsExact] at exact
    obtain ⟨behind, spaces, shown⟩ := render_object style depth members
    rw [shown, Draft.ofJson]
    exact reads_object (reads_members style members exact.2 (depth + 1)) spaces

theorem reads_items (style : Style) (items : List Json) (exact : AreExactItems items) (depth : Nat) :
    List.Forall₂ Reads (items.map (itemText style depth)) (Draft.ofItems items) := by
  match items with
  | [] => exact .nil
  | item :: rest =>
    rw [AreExactItems] at exact
    rw [List.map_cons, Draft.ofItems]
    have here := reads_itemText (reads_render style item exact.1 depth)
    exact .cons here (reads_items style rest exact.2 depth)

theorem reads_members (style : Style) (members : List (String × Json)) (exact : AreExactMembers members)
    (depth : Nat) :
    List.Forall₂ ReadsMember (members.map (entryText style depth)) (Draft.ofMembers members) := by
  match members with
  | [] => exact .nil
  | (key, value) :: rest =>
    rw [AreExactMembers] at exact
    have here := readsMember_entryText (key, value) (reads_render style value exact.1 depth)
    rw [List.map_cons, Draft.ofMembers]
    exact .cons here (reads_members style rest exact.2 depth)

end

/-- A whole text is read as it was printed, with any white space after it. -/
theorem readUnits_render (style : Style) {value : Json} (exact : value.IsExact) (depth : Nat)
    {trail : List Char} (spaces : ∀ c ∈ trail, isSpace c = true) :
    readUnits ((render style depth value ++ trail).map some) = ⟨Draft.ofJson value, none⟩ :=
  ((reads_render style value exact depth).spaced areSpaces_nil spaces).readUnits

end Reader

end ClusterArchive.Json

namespace ClusterArchive.Draft

mutual

/-- The draft of a value stands for it, if there is room for its containers. -/
theorem toJson_ofJson (value : Json) (exact : value.IsExact) {room : Nat} (fits : value.depth ≤ room) :
    (ofJson value).toJson room = .ok value := by
  match value with
  | .null | .bool _ | .number _ | .string _ => rw [ofJson, toJson]
  | .array items =>
    rw [Json.IsExact] at exact
    rw [Json.depth] at fits
    obtain ⟨room, rfl⟩ : ∃ r, room = r + 1 := ⟨room - 1, by omega⟩
    have all := toItems_ofItems items exact (Nat.le_of_succ_le_succ fits)
    rw [ofJson, toJson, all]
    rfl
  | .object members =>
    rw [Json.IsExact] at exact
    rw [Json.depth] at fits
    obtain ⟨room, rfl⟩ : ∃ r, room = r + 1 := ⟨room - 1, by omega⟩
    have all := toMembers_ofMembers members exact.2 [] exact.1 (Nat.le_of_succ_le_succ fits)
    rw [ofJson, toJson, all]
    rfl

theorem toItems_ofItems (items : List Json) (exact : Json.AreExactItems items) {room : Nat}
    (fits : Json.depthItems items ≤ room) : toItems room (ofItems items) = .ok items := by
  match items with
  | [] => rw [ofItems, toItems]
  | item :: rest =>
    rw [Json.AreExactItems] at exact
    rw [Json.depthItems] at fits
    have here := toJson_ofJson item exact.1 (Nat.le_trans (Nat.le_max_left ..) fits)
    have later := toItems_ofItems rest exact.2 (Nat.le_trans (Nat.le_max_right ..) fits)
    rw [ofItems, toItems, here, later]
    rfl

theorem toMembers_ofMembers (members : List (String × Json)) (exact : Json.AreExactMembers members)
    (done : Document) (ascending : Assoc.Ascending (done ++ members)) {room : Nat}
    (fits : Json.depthMembers members ≤ room) :
    toMembers room done (ofMembers members) = .ok (done ++ members) := by
  match members with
  | [] => rw [ofMembers, toMembers, List.append_nil]
  | (key, value) :: rest =>
    rw [Json.AreExactMembers] at exact
    rw [Json.depthMembers] at fits
    have above : ∀ entry ∈ done, compare entry.1 key = .lt := fun entry member =>
      (List.pairwise_append.mp ascending).2.2 entry member (key, value) List.mem_cons_self
    have inserted := Assoc.insert_of_above value above
    have ascending : Assoc.Ascending (done ++ [(key, value)] ++ rest) := by
      rw [List.append_assoc]
      exact ascending
    have here := toJson_ofJson value exact.1 (Nat.le_trans (Nat.le_max_left ..) fits)
    have later := toMembers_ofMembers rest exact.2 (done ++ [(key, value)]) ascending
      (Nat.le_trans (Nat.le_max_right ..) fits)
    rw [ofMembers, toMembers, here]
    change toMembers room (Assoc.insert key value done) (ofMembers rest) = _
    rw [inserted, later, List.append_assoc, List.singleton_append]

end

mutual

/-- Where there is no room for the containers of a value, nothing else is wrong with its draft. -/
theorem toJson_deep (value : Json) (exact : value.IsExact) {room : Nat} (deep : room < value.depth) :
    (ofJson value).toJson room = .error .tooDeep := by
  match value with
  | .null | .bool _ | .number _ | .string _ =>
    rw [Json.depth.eq_def] at deep
    exact absurd deep (Nat.not_lt_zero room)
  | .array items =>
    rw [Json.IsExact] at exact
    rw [Json.depth] at deep
    match room with
    | 0 => rw [ofJson, toJson]
    | room + 1 =>
      have failed := toItems_deep items exact (Nat.lt_of_succ_lt_succ deep)
      rw [ofJson, toJson, failed]
      rfl
  | .object members =>
    rw [Json.IsExact] at exact
    rw [Json.depth] at deep
    match room with
    | 0 => rw [ofJson, toJson]
    | room + 1 =>
      have failed := toMembers_deep members exact.2 [] (Nat.lt_of_succ_lt_succ deep)
      rw [ofJson, toJson, failed]
      rfl

theorem toItems_deep (items : List Json) (exact : Json.AreExactItems items) {room : Nat}
    (deep : room < Json.depthItems items) : toItems room (ofItems items) = .error .tooDeep := by
  match items with
  | [] => exact absurd deep (Nat.not_lt_zero room)
  | item :: rest =>
    rw [Json.AreExactItems] at exact
    rw [Json.depthItems] at deep
    rw [ofItems, toItems]
    rcases Nat.lt_or_ge room item.depth with here | fits
    · rw [toJson_deep item exact.1 here]
      rfl
    · rw [toJson_ofJson item exact.1 fits, toItems_deep rest exact.2 (by omega)]
      rfl

theorem toMembers_deep (members : List (String × Json)) (exact : Json.AreExactMembers members)
    (done : Document) {room : Nat} (deep : room < Json.depthMembers members) :
    toMembers room done (ofMembers members) = .error .tooDeep := by
  match members with
  | [] => exact absurd deep (Nat.not_lt_zero room)
  | (key, value) :: rest =>
    rw [Json.AreExactMembers] at exact
    rw [Json.depthMembers] at deep
    rw [ofMembers, toMembers]
    rcases Nat.lt_or_ge room value.depth with here | fits
    · rw [toJson_deep value exact.1 here]
      rfl
    · rw [toJson_ofJson value exact.1 fits]
      exact toMembers_deep rest exact.2 (Assoc.insert key value done) (by omega)

end

/-- A value is what its draft stands for, where there is room enough. -/
theorem ofJson_inj {first second : Json} (exact : first.IsExact) (exactSecond : second.IsExact)
    (same : ofJson first = ofJson second) : first = second := by
  have read := toJson_ofJson first exact (Nat.le_max_left first.depth second.depth)
  rw [same, toJson_ofJson second exactSecond (Nat.le_max_right ..)] at read
  exact (Except.ok.inj read).symm

end ClusterArchive.Draft

namespace ClusterArchive.Json

theorem readText_deep (style : Style) {value : Json} (exact : value.IsExact)
    (deep : Draft.depthLimit < value.depth) {trail : List Char}
    (spaces : ∀ c ∈ trail, Reader.isSpace c = true) :
    (readText (String.ofList (value.render style 0 ++ trail))).toJson = .error .tooDeep := by
  have read := Reader.readUnits_render style exact 0 spaces
  rw [readText, String.toList_ofList, read, Reading.toJson, Draft.toJson_deep value exact deep]
  rfl

/-- Texts of different documents differ, whatever white space follows them. -/
theorem render_inj (style : Style) {first second : Json} (exact : first.IsExact)
    (exactSecond : second.IsExact) {trail other : List Char}
    (spaces : ∀ c ∈ trail, Reader.isSpace c = true) (spacesOther : ∀ c ∈ other, Reader.isSpace c = true)
    (same : first.render style 0 ++ trail = second.render style 0 ++ other) : first = second := by
  have read := Reader.readUnits_render style exact 0 spaces
  rw [same, Reader.readUnits_render style exactSecond 0 spacesOther] at read
  exact (Draft.ofJson_inj exactSecond exact (Reading.mk.inj read).1).symm

/-- A document of integers is what its text says, as long as it is not nested too deeply. -/
theorem readText_render (style : Style) {value : Json} (exact : value.IsExact)
    (shallow : value.depth ≤ Draft.depthLimit) {trail : List Char}
    (spaces : ∀ c ∈ trail, Reader.isSpace c = true) :
    (readText (String.ofList (value.render style 0 ++ trail))).toJson = .ok value := by
  have read := Reader.readUnits_render style exact 0 spaces
  rw [readText, String.toList_ofList, read, Reading.toJson, Draft.toJson_ofJson value exact shallow]
  rfl

theorem readBytes_ofText (text : String) : readBytes (Bytes.ofText text) = readText text := by
  rw [readBytes, readText, Text.units_ofText]

end ClusterArchive.Json
