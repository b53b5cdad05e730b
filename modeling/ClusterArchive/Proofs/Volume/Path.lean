import ClusterArchive.Proofs.Text.Split
import ClusterArchive.Proofs.Text.Utf8
import ClusterArchive.Volume.Path
import Mathlib.Data.List.Flatten

/-! The steps of path texts. A path put together from steps has these steps again, and the path of a
member goes through the directory it was joined to. -/

namespace ClusterArchive.Path

open Text

/-- A part of a path that leads somewhere. -/
def IsStep (part : String) : Prop := part ≠ "" ∧ part ≠ "." ∧ '/' ∉ part.toList

theorem isStep_of_mem_components (path : String) : ∀ part ∈ components path, IsStep part := by
  intro part member
  obtain ⟨isPart, kept⟩ := List.mem_filter.mp member
  simp only [Bool.and_eq_true, decide_eq_true_eq, ne_eq] at kept
  exact ⟨kept.1, kept.2, slash_notMem_of_mem_splitSlash isPart⟩

/-- Steps that are all taken up, one behind the other, are left in reverse. -/
theorem foldl_push {take : List String → String → List String} {steps : List String}
    (push : ∀ left, ∀ step ∈ steps, take left step = step :: left) (left : List String) :
    steps.foldl take left = steps.reverse ++ left := by
  rw [List.foldl_ext _ _ left push]
  simp

theorem components_append (before after : String) :
    components (before ++ "/" ++ after) = components before ++ components after := by
  rw [components, splitSlash_append, List.filter_append]
  rfl

@[simp] theorem components_empty : components "" = [] := by decide

theorem components_intercalate {parts : List String} (steps : ∀ part ∈ parts, IsStep part) :
    components ("/".intercalate parts) = parts := by
  cases parts with
  | nil => decide
  | cons part rest =>
    rw [components, splitSlash_intercalate (by simp) fun part member => (steps part member).2.2]
    apply List.filter_eq_self.mpr
    intro part member
    simp [(steps part member).1, (steps part member).2.1]

theorem isAbsolute_append {before : String} (nonempty : before ≠ "") (after : String) :
    isAbsolute (before ++ after) = isAbsolute before := by
  obtain ⟨c, rest, shape⟩ := List.exists_cons_of_ne_nil
    (fun is => nonempty (String.toList_eq_nil_iff.mp is) : before.toList ≠ [])
  simp [isAbsolute, String.toList_append, shape]

theorem IsStep.isAbsolute {part : String} (step : IsStep part) : isAbsolute part = false := by
  obtain ⟨c, rest, shape⟩ := List.exists_cons_of_ne_nil
    (fun is => step.1 (String.toList_eq_nil_iff.mp is) : part.toList ≠ [])
  have other : c ≠ '/' := by
    rintro rfl
    exact step.2.2 (by simp [shape])
  simp [Path.isAbsolute, shape, other]

theorem isAbsolute_intercalate {parts : List String} (steps : ∀ part ∈ parts, IsStep part) :
    isAbsolute ("/".intercalate parts) = false := by
  cases parts with
  | nil => decide
  | cons part rest =>
    obtain ⟨here, _⟩ := List.forall_mem_cons.mp steps
    cases rest with
    | nil => rw [String.intercalate_singleton, here.isAbsolute]
    | cons next rest =>
      rw [String.intercalate_cons_cons, String.append_assoc, isAbsolute_append here.1,
        here.isAbsolute]

theorem components_ofComponents (absolute : Bool) {parts : List String}
    (steps : ∀ part ∈ parts, IsStep part) : components (ofComponents absolute parts) = parts := by
  cases absolute with
  | false => simpa [ofComponents] using components_intercalate steps
  | true =>
    have shape : ofComponents true parts = "" ++ "/" ++ "/".intercalate parts := by
      simp [ofComponents]
    rw [shape, components_append, components_intercalate steps, components_empty, List.nil_append]

theorem isAbsolute_ofComponents (absolute : Bool) {parts : List String}
    (steps : ∀ part ∈ parts, IsStep part) : isAbsolute (ofComponents absolute parts) = absolute := by
  cases absolute with
  | false => simpa [ofComponents] using isAbsolute_intercalate steps
  | true =>
    have shape : ofComponents true parts = "/" ++ "/".intercalate parts := by
      simp [ofComponents]
    rw [shape, isAbsolute_append (by decide)]
    decide

theorem namesDirectory_of_last {path last : String} {before : List String}
    (parts : splitSlash path = before ++ [last]) (step : IsStep last) :
    namesDirectory path = false := by
  rw [namesDirectory, parts, List.reverse_append, List.reverse_singleton]
  cases before.reverse with
  | nil => rfl
  | cons part rest => simp [step.1, step.2.1]

/-- A path that ends with steps does not have to name a directory. -/
theorem namesDirectory_intercalate {parts : List String} (some_ : parts ≠ [])
    (steps : ∀ part ∈ parts, IsStep part) (before : List String) {path : String}
    (shape : splitSlash path = before ++ splitSlash ("/".intercalate parts)) :
    namesDirectory path = false := by
  rw [splitSlash_intercalate some_ fun part member => (steps part member).2.2,
    ← List.dropLast_concat_getLast some_, ← List.append_assoc] at shape
  exact namesDirectory_of_last shape (steps _ (List.getLast_mem some_))

theorem namesDirectory_ofComponents (absolute : Bool) {parts : List String} (some_ : parts ≠ [])
    (steps : ∀ part ∈ parts, IsStep part) : namesDirectory (ofComponents absolute parts) = false := by
  cases absolute with
  | false => exact namesDirectory_intercalate some_ steps [] (by simp [ofComponents])
  | true =>
    have shape : ofComponents true parts = "" ++ "/" ++ "/".intercalate parts := by
      simp [ofComponents]
    exact namesDirectory_intercalate some_ steps [""] (by rw [shape, splitSlash_append]; rfl)

/-- A path that does not have to name a directory ends in a step, if it has one. -/
theorem endsInPoint_of_leaf {path : String} (leaf : namesDirectory path = false)
    (some_ : components path ≠ []) : endsInPoint path = false := by
  have last : ∃ before last, splitSlash path = before ++ [last] ∧ last ≠ "" ∧ last ≠ "." := by
    rcases List.eq_nil_or_concat (splitSlash path) with none_ | ⟨before, last, parts⟩
    · exact absurd (by rw [components, none_, List.filter_nil]) some_
    · rw [List.concat_eq_append] at parts
      refine ⟨before, last, parts, ?_⟩
      rw [namesDirectory, parts, List.reverse_append, List.reverse_singleton] at leaf
      cases before with
      | nil => simpa [components, parts] using some_
      | cons part rest =>
        obtain ⟨first, others, shape⟩ := List.exists_cons_of_ne_nil
          (show (part :: rest).reverse ≠ [] by simp)
        simpa [shape] using leaf
  obtain ⟨before, last, parts, nonempty, other⟩ := last
  simp [endsInPoint, parts, nonempty, other]

theorem ofComponents_ne_empty (absolute : Bool) {parts : List String} (some_ : parts ≠ [])
    (steps : ∀ part ∈ parts, IsStep part) : ofComponents absolute parts ≠ "" := by
  intro empty
  have same := components_ofComponents absolute steps
  rw [empty, components_empty] at same
  exact some_ same.symm

/-! Joined paths. -/

/-- A relative path is put behind a directory with one slash between them. -/
theorem join_shape (directory : String) {member : String} (relative : isAbsolute member = false) :
    directory = "" ∧ join directory member = member ∨
    ∃ start, (directory = start ∨ directory = start ++ "/") ∧ directory ≠ "" ∧
      join directory member = start ++ "/" ++ member := by
  by_cases empty : directory = ""
  · exact .inl ⟨empty, by simp [join, empty]⟩
  · apply Or.inr
    by_cases slash : directory.toList.getLast? = some '/'
    · obtain ⟨start, shape⟩ := List.getLast?_eq_some_iff.mp slash
      have same : directory = String.ofList start ++ "/" := by
        apply String.toList_inj.mp
        rw [shape, String.toList_append, String.toList_ofList]
        rfl
      exact ⟨String.ofList start, .inr same, empty, by simp [join, relative, same]⟩
    · exact ⟨directory, .inl rfl, empty, by simp [join, relative, empty, slash]⟩

theorem components_join {directory member : String} (relative : isAbsolute member = false) :
    components (join directory member) = components directory ++ components member := by
  rcases join_shape directory relative with ⟨rfl, same⟩ | ⟨start, rfl | rfl, _, same⟩
  · rw [same, components_empty, List.nil_append]
  · rw [same, components_append]
  · have bare : components (start ++ "/") = components start := by
      have split := components_append start ""
      rwa [String.append_empty, components_empty, List.append_nil] at split
    rw [same, components_append, bare]

theorem isAbsolute_join {directory member : String} (relative : isAbsolute member = false) :
    isAbsolute (join directory member) = isAbsolute directory := by
  rcases join_shape directory relative with
    ⟨rfl, same⟩ | ⟨start, is, nonempty, same⟩
  · rw [same, relative]
    decide
  · rcases is with rfl | rfl
    · rw [same, String.append_assoc, isAbsolute_append nonempty]
    · rw [same, isAbsolute_append nonempty]

theorem namesDirectory_join (directory : String) {parts : List String} (some_ : parts ≠ [])
    (steps : ∀ part ∈ parts, IsStep part) :
    namesDirectory (join directory ("/".intercalate parts)) = false := by
  rcases join_shape directory (isAbsolute_intercalate steps) with
    ⟨_, same⟩ | ⟨start, _, _, same⟩
  · exact namesDirectory_intercalate some_ steps [] (by rw [same, List.nil_append])
  · exact namesDirectory_intercalate some_ steps (splitSlash start) (by rw [same, splitSlash_append])

/-! Fewer steps make a text with fewer characters. -/

theorem sublist_intercalate {parts others : List String} (fewer : parts.Sublist others) :
    ("/".intercalate parts).toList.Sublist ("/".intercalate others).toList := by
  induction fewer with
  | slnil => exact List.Sublist.refl _
  | @cons parts others part fewer ih =>
    by_cases empty : others = []
    · subst empty
      rw [List.sublist_nil.mp fewer]
      exact List.nil_sublist _
    · rw [String.intercalate_cons_of_ne_nil empty, String.toList_append, String.toList_append]
      exact ih.trans (List.sublist_append_right ..)
  | @cons_cons parts others part fewer ih =>
    by_cases empty : parts = []
    · subst empty
      rw [String.intercalate_singleton]
      by_cases none : others = []
      · subst none
        exact List.Sublist.refl _
      · rw [String.intercalate_cons_of_ne_nil none, String.append_assoc, String.toList_append]
        exact List.sublist_append_left ..
    · have more : others ≠ [] := by
        rintro rfl
        exact empty (List.sublist_nil.mp fewer)
      rw [String.intercalate_cons_of_ne_nil empty, String.intercalate_cons_of_ne_nil more,
        String.toList_append, String.toList_append (t := "/".intercalate others)]
      exact (List.Sublist.refl _).append ih

theorem sublist_ofComponents {path : String} {parts : List String}
    (fewer : parts.Sublist (components path)) :
    (ofComponents (isAbsolute path) parts).toList.Sublist path.toList := by
  have kept : (components path).Sublist (splitSlash path) := List.filter_sublist
  cases absolute : isAbsolute path with
  | false =>
    have all := sublist_intercalate (fewer.trans kept)
    rw [intercalate_splitSlash] at all
    simpa [ofComponents] using all
  | true =>
    obtain ⟨chars, shape⟩ : ∃ chars, path.toList = '/' :: chars := by
      cases found : path.toList with
      | nil => simp [isAbsolute, found] at absolute
      | cons c chars =>
        simp only [isAbsolute, found, List.head?_cons, beq_iff_eq, Option.some.injEq] at absolute
        exact ⟨chars, by rw [absolute]⟩
    have same : path = "" ++ "/" ++ String.ofList chars := by
      apply String.toList_inj.mp
      simp [shape]
    rw [same, components_append, components_empty, List.nil_append] at fewer
    have all := sublist_intercalate (fewer.trans List.filter_sublist)
    rw [intercalate_splitSlash, String.toList_ofList] at all
    rw [shape, ofComponents, if_pos rfl, String.toList_append]
    exact all.cons_cons '/'

theorem join_ne_empty {directory : String} (nonempty : directory ≠ "") (member : String) :
    join directory member ≠ "" := by
  unfold join
  split
  next either =>
    rintro rfl
    simp [nonempty, isAbsolute] at either
  next =>
    split <;> simp [nonempty]

/-- The path of a member is no shorter than that of its directory. -/
theorem sublist_join (directory : String) {member : String} (relative : isAbsolute member = false) :
    directory.toList.Sublist (join directory member).toList := by
  rcases join_shape directory relative with ⟨rfl, _⟩ | ⟨start, rfl | rfl, _, same⟩
  · exact List.nil_sublist _
  · rw [same, String.append_assoc, String.toList_append]
    exact List.sublist_append_left ..
  · rw [same, String.toList_append (s := start ++ "/")]
    exact List.sublist_append_left ..

theorem utf8ByteSize_le {text other : String} (fewer : text.toList.Sublist other.toList) :
    text.utf8ByteSize ≤ other.utf8ByteSize := by
  have length (text : String) : text.utf8ByteSize = (Bytes.ofText text).length :=
    (Array.length_toList ..).symm
  rw [length, length, ofText_eq, ofText_eq]
  exact (fewer.flatMap _).length_le

end ClusterArchive.Path
