import ClusterArchive.Proofs.Engine.Packing
import ClusterArchive.Proofs.Volume.Way

/-! The walk through a directory tree that packing makes. Directories are read in any order; each name
goes behind the path of its directory, and links are passed over. -/

namespace ClusterArchive

namespace Volume

variable {volume : Volume} {location root : Location} {name : String} {node : Node}

structure ReadingOrder (volume : Volume) where
  read : Location → List (String × Node)
  perm : ∀ location, (read location).Perm (volume.children location)

def ReadingOrder.ascending (volume : Volume) : volume.ReadingOrder := ⟨volume.children, fun _ => .refl _⟩

def depth (volume : Volume) : Nat := (volume.nodes.map fun (place, _) => place.length).foldr max 0

theorem length_le_depth (isNode : (location, node) ∈ volume.nodes) : location.length ≤ volume.depth := by
  unfold depth
  generalize volume.nodes = nodes at isNode ⊢
  induction nodes with
  | nil => cases isNode
  | cons first rest ih =>
    rw [List.map_cons, List.foldr_cons]
    rcases List.mem_cons.mp isNode with rfl | later
    · exact Nat.le_max_left ..
    · exact Nat.le_trans (ih later) (Nat.le_max_right ..)

theorem ReadingOrder.deeper (order : volume.ReadingOrder) (isChild : (name, node) ∈ order.read location) :
    location.length < volume.depth := by
  have listed := (order.perm location).mem_iff.mp isChild
  obtain ⟨⟨place, found⟩, isNode, is⟩ := List.mem_filterMap.mp listed
  obtain ⟨rfl, rfl⟩ := location_of_child is
  have bound := length_le_depth isNode
  rw [List.length_append, List.length_singleton] at bound
  omega

theorem ReadingOrder.mem (order : volume.ReadingOrder) (ascending : Assoc.Ascending volume.nodes) :
    (name, node) ∈ order.read location ↔ volume.node? (location ++ [name]) = some node := by
  rw [(order.perm location).mem_iff, mem_children ascending]

theorem WellFormed.above_directory (wellFormed : volume.WellFormed)
    {steps : List String}
    (found : volume.node? (location ++ name :: steps) = some node) :
    volume.node? location = some .directory := by
  induction steps using List.reverseRecOn generalizing node with
  | nil => simpa using wellFormed.above _ node found
  | append_singleton steps step ih =>
    have directory := wellFormed.above _ node found
    rw [← List.cons_append, ← List.append_assoc, List.dropLast_concat] at directory
    exact ih directory

theorem compare_below (above steps more : Location) :
    compare (above ++ steps) (above ++ more) = compare steps more := by
  induction above with
  | nil => rfl
  | cons step rest ih => simpa [List.compare_cons_cons] using ih

theorem compare_of_first {first second : String} (before : compare first second = .lt)
    (rest more : List String) : compare (first :: rest) (second :: more) = .lt := by
  rw [List.compare_cons_cons, before]
  rfl

theorem children_ordered (ascending : Assoc.Ascending volume.nodes) (location : Location) :
    (volume.children location).Pairwise fun first second => compare first.1 second.1 = .lt := by
  refine ascending.filterMap _ ?_
  rintro ⟨first, _⟩ ⟨second, _⟩ before ⟨name, _⟩ is ⟨other, _⟩ isOther
  obtain ⟨rfl, _⟩ := location_of_child is
  obtain ⟨rfl, _⟩ := location_of_child isOther
  rw [compare_below, List.compare_cons_cons] at before
  cases names : compare name other <;> simp_all

end Volume

namespace TarGzip

open Tar Volume

variable {volume : Volume} {location root : Location} {above : List String} {name relative : String}
  {node : Node}

/-- The members for what a directory has, where each directory comes before what is below it. -/
def appendTree (order : volume.ReadingOrder) (location : Location) (relative : String) :
    List (String × Content) :=
  (order.read location).attach.flatMap fun ⟨(name, node), _isChild⟩ =>
    let path := Path.join relative name
    match node with
    | .directory => (path, .directory) :: appendTree order (location ++ [name]) path
    | .file contents _ => [(path, .file contents.toBytes)]
    | .symlink _ => []
termination_by volume.depth - location.length
decreasing_by
  have := order.deeper _isChild
  rw [List.length_append, List.length_singleton]
  omega

def appendEntry (order : volume.ReadingOrder) (location : Location) (relative : String) :
    String × Node → List (String × Content)
  | (name, .directory) =>
    (Path.join relative name, .directory) ::
      appendTree order (location ++ [name]) (Path.join relative name)
  | (name, .file contents _) => [(Path.join relative name, .file contents.toBytes)]
  | (_, .symlink _) => []

theorem appendTree_eq (order : volume.ReadingOrder) (location : Location) (relative : String) :
    appendTree order location relative =
      (order.read location).flatMap (appendEntry order location relative) := by
  rw [appendTree, List.flatMap_subtype (g := appendEntry order location relative),
    List.unattach_attach]
  rintro ⟨name, node⟩ _
  cases node <;> rfl

/-- The order of reading only changes the order of the members. -/
theorem appendTree_perm (order other : volume.ReadingOrder) (location : Location) (relative : String) :
    (appendTree order location relative).Perm (appendTree other location relative) := by
  induction location, relative using appendTree.induct order with
  | case1 location relative ih =>
    rw [appendTree_eq, appendTree_eq]
    have same := (order.perm location).trans (other.perm location).symm
    apply same.flatMap
    rintro ⟨name, node⟩ isChild
    cases node with
    | directory => exact (ih name isChild).cons _
    | file contents modified => exact .refl _
    | symlink target => exact .refl _

/-- Names below a location that files can have, without backslashes. -/
def CleanBelow (volume : Volume) (root : Location) : Prop :=
  ∀ steps node, volume.node? (root ++ steps) = some node →
    ∀ step ∈ steps, Path.IsStep step ∧ '\x00' ∉ step.toList ∧ '\\' ∉ step.toList

theorem join_intercalate (stepsAbove : ∀ step ∈ above, Path.IsStep step) (step : Path.IsStep name) :
    Path.join ("/".intercalate above) name = "/".intercalate (above ++ [name]) := by
  by_cases top : above = []
  · subst top
    simp [Path.join]
  · have parts := Text.splitSlash_intercalate top fun step isStep => (stepsAbove step isStep).2.2
    have apart := String.intercalate_append_of_ne_nil (s := "/") top (List.cons_ne_nil name [])
    rw [String.intercalate_singleton] at apart
    rcases Path.join_shape ("/".intercalate above) step.isAbsolute with
      ⟨empty, _⟩ | ⟨start, rfl | slash, _, joined⟩
    · rw [empty] at parts
      have isIn : "" ∈ above := parts ▸ (by decide : "" ∈ Text.splitSlash "")
      exact absurd rfl (stepsAbove "" isIn).1
    · rw [joined, apart]
    · -- no slash stands at the end of names that are put together
      have split := Text.splitSlash_append start ""
      rw [String.append_empty, ← slash, parts] at split
      have isIn : "" ∈ above := split ▸ List.mem_append_right _ (by decide)
      exact absurd rfl (stepsAbove "" isIn).1

theorem CleanBelow.join (clean : CleanBelow volume root) {rest : List String}
    (found : volume.node? (root ++ (above ++ name :: rest)) = some node) :
    Path.join ("/".intercalate above) name = "/".intercalate (above ++ [name]) := by
  have steps : ∀ step ∈ above ++ name :: rest, Path.IsStep step :=
    fun step isStep => (clean _ node found step isStep).1
  exact join_intercalate (fun step isStep => steps step (List.mem_append_left _ isStep))
    (steps name (List.mem_append_right _ List.mem_cons_self))

/-- What is packed below a directory are its nodes that are no links, at the paths of their steps. -/
theorem mem_appendTree (wellFormed : volume.WellFormed) (clean : CleanBelow volume root)
    (order : volume.ReadingOrder) {path : String} {content : Content} :
    (path, content) ∈ appendTree order (root ++ above) ("/".intercalate above) ↔
      ∃ steps node, steps ≠ [] ∧ volume.node? (root ++ (above ++ steps)) = some node ∧
        content? node = some content ∧ path = "/".intercalate (above ++ steps) := by
  generalize place : root ++ above = location
  generalize text : "/".intercalate above = relative
  induction location, relative using appendTree.induct order generalizing above with
  | case1 location relative ih =>
  subst place text
  have child {name : String} {node : Node} : (name, node) ∈ order.read (root ++ above) ↔
      volume.node? (root ++ (above ++ [name])) = some node := by
    rw [order.mem wellFormed.ascending, List.append_assoc]
  rw [appendTree_eq, List.mem_flatMap]
  constructor
  · rintro ⟨⟨name, node⟩, isChild, shown⟩
    have found := child.mp isChild
    cases node with
    | directory =>
      rcases List.mem_cons.mp shown with is | further
      · obtain ⟨rfl, rfl⟩ := Prod.mk.inj is
        exact ⟨[name], .directory, by simp, found, rfl, clean.join found⟩
      · obtain ⟨steps, node, _, there, isContent, rfl⟩ :=
          (ih name isChild (List.append_assoc ..).symm (clean.join found).symm).mp further
        rw [List.append_assoc] at there ⊢
        exact ⟨name :: steps, node, by simp, there, isContent, rfl⟩
    | file contents modified =>
      obtain ⟨rfl, rfl⟩ := Prod.mk.inj (List.mem_singleton.mp shown)
      exact ⟨[name], _, by simp, found, rfl, clean.join found⟩
    | symlink target => cases shown
  · rintro ⟨steps, node, some_, found, isContent, rfl⟩
    obtain ⟨name, rest, rfl⟩ := List.exists_cons_of_ne_nil some_
    cases rest with
    | nil =>
      refine ⟨(name, node), child.mpr found, ?_⟩
      rw [← clean.join found]
      cases node with
      | directory =>
        obtain rfl := Option.some.inj isContent
        exact List.mem_cons_self
      | file contents modified =>
        obtain rfl := Option.some.inj isContent
        exact List.mem_singleton_self _
      | symlink target => cases isContent
    | cons next rest =>
      have whole : above ++ name :: next :: rest = (above ++ [name]) ++ next :: rest := by simp
      have directory : volume.node? (root ++ (above ++ [name])) = some .directory := by
        rw [whole, ← List.append_assoc] at found
        exact wellFormed.above_directory found
      have isChild := child.mpr directory
      refine ⟨(name, .directory), isChild, List.mem_cons_of_mem _ ?_⟩
      apply (ih name isChild (List.append_assoc ..).symm (clean.join directory).symm).mpr
      rw [whole] at found ⊢
      exact ⟨next :: rest, node, by simp, found, isContent, rfl⟩

/-! In ascending order the walk meets the nodes as the volume holds them. -/

theorem CleanBelow.splitSlash (clean : CleanBelow volume root) {steps : List String} (some_ : steps ≠ [])
    (found : volume.node? (root ++ steps) = some node) :
    Text.splitSlash ("/".intercalate steps) = steps :=
  Text.splitSlash_intercalate some_ fun step isStep => (clean steps node found step isStep).1.2.2

def Precedes (first second : String × Content) : Prop :=
  compare (Text.splitSlash first.1) (Text.splitSlash second.1) = .lt

theorem steps_of_mem_appendEntry (wellFormed : volume.WellFormed) (clean : CleanBelow volume root)
    (order : volume.ReadingOrder) {member : String × Content}
    (isChild : (name, node) ∈ order.read (root ++ above))
    (shown : member ∈ appendEntry order (root ++ above) ("/".intercalate above) (name, node)) :
    ∃ rest, Text.splitSlash member.1 = above ++ name :: rest := by
  have found := (order.mem wellFormed.ascending).mp isChild
  rw [List.append_assoc] at found
  have joined := clean.join found
  have here : Text.splitSlash (Path.join ("/".intercalate above) name) = above ++ [name] := by
    rw [joined, clean.splitSlash (by simp) found]
  cases node with
  | directory =>
    rcases List.mem_cons.mp shown with rfl | further
    · exact ⟨[], here⟩
    · rw [joined, List.append_assoc] at further
      obtain ⟨steps, node, some_, there, _, same⟩ := (mem_appendTree wellFormed clean order).mp further
      refine ⟨steps, ?_⟩
      rw [same, clean.splitSlash (by simp) there, List.append_assoc, List.singleton_append]
  | file contents modified =>
    obtain rfl := List.mem_singleton.mp shown
    exact ⟨[], here⟩
  | symlink target => cases shown

theorem appendTree_ordered (wellFormed : volume.WellFormed) (clean : CleanBelow volume root) :
    (appendTree (.ascending volume) (root ++ above) ("/".intercalate above)).Pairwise Precedes := by
  generalize place : root ++ above = location
  generalize text : "/".intercalate above = relative
  induction location, relative using appendTree.induct (.ascending volume) generalizing above with
  | case1 location relative ih =>
  subst place text
  rw [appendTree_eq, List.pairwise_flatMap]
  constructor
  · rintro ⟨name, node⟩ isChild
    cases node with
    | directory =>
      have found := mem_children wellFormed.ascending |>.mp isChild
      rw [List.append_assoc] at found
      have joined := clean.join found
      have text := clean.splitSlash (by simp) found
      refine List.pairwise_cons.mpr ⟨?_, ih name isChild (List.append_assoc ..).symm joined.symm⟩
      rintro ⟨path, content⟩ further
      rw [joined, List.append_assoc] at further
      obtain ⟨steps, node, some_, there, _, rfl⟩ := (mem_appendTree wellFormed clean _).mp further
      obtain ⟨next, rest, rfl⟩ := List.exists_cons_of_ne_nil some_
      rw [Precedes, joined, text, clean.splitSlash (by simp) there]
      have longer := compare_below (above ++ [name]) [] (next :: rest)
      rwa [List.append_nil] at longer
    | file contents modified => exact List.pairwise_singleton ..
    | symlink target => exact .nil
  · apply (children_ordered wellFormed.ascending _).imp_of_mem
    rintro ⟨first, _⟩ ⟨second, _⟩ isFirst isSecond before member shown other shownOther
    obtain ⟨rest, steps⟩ := steps_of_mem_appendEntry wellFormed clean _ isFirst shown
    obtain ⟨more, stepsOther⟩ := steps_of_mem_appendEntry wellFormed clean _ isSecond shownOther
    rw [Precedes, steps, stepsOther, compare_below]
    exact compare_of_first before rest more

theorem CleanBelow.place (clean : CleanBelow volume root) (ascending : Assoc.Ascending volume.nodes)
    {place : Location} {member : String × Content} (isNode : (place, node) ∈ volume.nodes)
    (shown : memberBelow? root (place, node) = some member) :
    place = root ++ Text.splitSlash member.1 := by
  obtain ⟨steps, some_, rfl, _, path⟩ := memberBelow?_eq_some.mp shown
  rw [path, clean.splitSlash some_ ((mem_nodes ascending some_).mp isNode)]

theorem membersBelow_ordered (ascending : Assoc.Ascending volume.nodes)
    (clean : CleanBelow volume root) : (membersBelow volume root).Pairwise Precedes := by
  rw [membersBelow_eq, List.pairwise_filterMap]
  apply ascending.imp_of_mem
  rintro ⟨place, node⟩ ⟨other, nodeOther⟩ isNode isNodeOther before member shown memberOther shownOther
  obtain rfl := clean.place ascending isNode shown
  obtain rfl := clean.place ascending isNodeOther shownOther
  rwa [compare_below] at before

theorem nodup_of_ordered {members : List (String × Content)} (ordered : members.Pairwise Precedes) :
    (members.map Prod.fst).Nodup := by
  rw [List.Nodup, List.pairwise_map]
  apply ordered.imp
  intro first second before same
  exact Assoc.ne_of_lt before (congrArg Text.splitSlash same)

/-- The walk from a location meets what the volume holds below it, in the same order. -/
theorem membersBelow_eq_appendTree (wellFormed : volume.WellFormed) (clean : CleanBelow volume root) :
    membersBelow volume root = appendTree (.ascending volume) root "" := by
  have held := membersBelow_ordered wellFormed.ascending clean
  have top : appendTree (.ascending volume) (root ++ []) ("/".intercalate []) =
      appendTree (.ascending volume) root "" := by
    rw [List.append_nil, String.intercalate_nil]
  have met : (appendTree (.ascending volume) root "").Pairwise Precedes :=
    top ▸ appendTree_ordered wellFormed clean
  have same : (membersBelow volume root).Perm (appendTree (.ascending volume) root "") := by
    refine (List.perm_ext_iff_of_nodup (nodup_of_ordered held).of_map
      (nodup_of_ordered met).of_map).mpr ?_
    rintro ⟨path, content⟩
    rw [← top, mem_appendTree wellFormed clean, mem_membersBelow wellFormed.ascending]
    rfl
  refine same.eq_of_pairwise (fun first second _ _ before after => ?_) held met
  exact absurd after (Assoc.not_lt_of_lt before)

end TarGzip

end ClusterArchive
