import ClusterArchive.Text.Split
import Mathlib.Data.List.Basic

/-! Splitting at separators undoes joining. -/

namespace ClusterArchive.Text

variable {separates : Char → Bool}

theorem split_ne_nil (separates : Char → Bool) (text : List Char) : split separates text ≠ [] := by
  cases text with
  | nil => simp [split]
  | cons c rest =>
    simp only [split]
    split <;> simp

theorem split_append (separates : Char → Bool) {c : Char} (separator : separates c = true)
    (before after : List Char) :
    split separates (before ++ c :: after) = split separates before ++ split separates after := by
  induction before with
  | nil => simp [split, separator]
  | cons b before ih =>
    obtain ⟨part, parts, first⟩ := List.exists_cons_of_ne_nil (split_ne_nil separates before)
    simp only [List.cons_append, split, ih, first, List.headD_cons, List.tail_cons]
    split <;> rfl

theorem split_eq_singleton {text : List Char} (whole : ∀ c ∈ text, separates c = false) :
    split separates text = [text] := by
  induction text with
  | nil => rfl
  | cons c rest ih =>
    obtain ⟨here, later⟩ := List.forall_mem_cons.mp whole
    simp [split, here, ih later]

theorem separates_of_mem_split {text part : List Char} (member : part ∈ split separates text) :
    ∀ c ∈ part, separates c = false := by
  induction text generalizing part with
  | nil =>
    rw [split, List.mem_singleton] at member
    simp [member]
  | cons c rest ih =>
    obtain ⟨first, parts, shape⟩ := List.exists_cons_of_ne_nil (split_ne_nil separates rest)
    rw [shape] at ih
    simp only [split, shape, List.headD_cons, List.tail_cons] at member
    split at member
    next =>
      rcases List.mem_cons.mp member with rfl | later
      · simp
      · exact ih later
    next plain =>
      rcases List.mem_cons.mp member with rfl | later
      · refine List.forall_mem_cons.mpr ⟨by simpa using plain, ih List.mem_cons_self⟩
      · exact ih (List.mem_cons_of_mem _ later)

theorem splitSlash_append (before after : String) :
    splitSlash (before ++ "/" ++ after) = splitSlash before ++ splitSlash after := by
  have slash : ('/' == '/') = true := rfl
  simp only [splitSlash, String.toList_append]
  rw [List.append_assoc, ← List.map_append, ← split_append (· == '/') slash]
  rfl

theorem splitSlash_eq_singleton {text : String} (whole : '/' ∉ text.toList) :
    splitSlash text = [text] := by
  have solid : ∀ c ∈ text.toList, (c == '/') = false := by
    intro c member
    rw [beq_eq_false_iff_ne]
    rintro rfl
    exact whole member
  rw [splitSlash, split_eq_singleton solid, List.map_cons, List.map_nil, String.ofList_toList]

theorem slash_notMem_of_mem_splitSlash {text part : String} (member : part ∈ splitSlash text) :
    '/' ∉ part.toList := by
  obtain ⟨chars, isPart, rfl⟩ := List.mem_map.mp member
  intro slash
  rw [String.toList_ofList] at slash
  simpa using separates_of_mem_split isPart '/' slash

theorem splitSlash_intercalate {parts : List String} (some_ : parts ≠ [])
    (whole : ∀ part ∈ parts, '/' ∉ part.toList) : splitSlash ("/".intercalate parts) = parts := by
  induction parts with
  | nil => exact absurd rfl some_
  | cons part rest ih =>
    obtain ⟨here, later⟩ := List.forall_mem_cons.mp whole
    cases rest with
    | nil => rw [String.intercalate_singleton, splitSlash_eq_singleton here]
    | cons next rest =>
      rw [String.intercalate_cons_cons, splitSlash_append, splitSlash_eq_singleton here,
        ih (by simp) later, List.singleton_append]

theorem intercalate_split (separator : Char) (text : List Char) :
    [separator].intercalate (split (· == separator) text) = text := by
  induction text with
  | nil => rfl
  | cons c rest ih =>
    obtain ⟨part, parts, shape⟩ :=
      List.exists_cons_of_ne_nil (split_ne_nil (· == separator) rest)
    simp only [split, shape, List.headD_cons, List.tail_cons] at ih ⊢
    split
    next same =>
      obtain rfl := beq_iff_eq.mp same
      rw [List.intercalate_cons_cons, ih]
      rfl
    next =>
      cases parts with
      | nil => simpa using ih
      | cons next parts =>
        rw [List.intercalate_cons_cons] at ih ⊢
        rw [← ih]
        rfl

theorem intercalate_splitSlash (text : String) : "/".intercalate (splitSlash text) = text := by
  apply String.toList_inj.mp
  have chars : (String.toList ∘ String.ofList : List Char → List Char) = id :=
    funext fun _ => String.toList_ofList
  rw [String.toList_intercalate, splitSlash, List.map_map, chars, List.map_id]
  exact intercalate_split '/' text.toList

theorem mem_intercalate {parts : List String} {c : Char}
    (member : c ∈ ("/".intercalate parts).toList) :
    c = '/' ∨ ∃ part ∈ parts, c ∈ part.toList := by
  induction parts with
  | nil => simp at member
  | cons part rest ih =>
    by_cases empty : rest = []
    · subst empty
      rw [String.intercalate_singleton] at member
      exact .inr ⟨part, List.mem_cons_self, member⟩
    · rw [String.intercalate_cons_of_ne_nil empty, String.toList_append, String.toList_append,
        List.mem_append, List.mem_append] at member
      rcases member with (here | slash) | later
      · exact .inr ⟨part, List.mem_cons_self, here⟩
      · exact .inl (List.mem_singleton.mp slash)
      · exact (ih later).imp_right fun ⟨other, isIn, has⟩ => ⟨other, List.mem_cons_of_mem _ isIn, has⟩

theorem mem_intercalate_of_mem {parts : List String} {part : String} (isIn : part ∈ parts) {c : Char}
    (has : c ∈ part.toList) : c ∈ ("/".intercalate parts).toList := by
  induction parts with
  | nil => cases isIn
  | cons first rest ih =>
    by_cases empty : rest = []
    · subst empty
      rwa [String.intercalate_singleton, ← List.mem_singleton.mp isIn]
    · rw [String.intercalate_cons_of_ne_nil empty, String.toList_append, String.toList_append]
      rcases List.mem_cons.mp isIn with rfl | later
      · exact List.mem_append_left _ (List.mem_append_left _ has)
      · exact List.mem_append_right _ (ih later)

theorem stripPrefix?_eq_some {start text rest : String} :
    stripPrefix? start text = some rest ↔ text = start ++ rest := by
  simp only [stripPrefix?, Option.map_eq_some_iff, List.isPrefixOf?_eq_some_iff_append_eq]
  constructor
  · rintro ⟨chars, whole, rfl⟩
    apply String.toList_inj.mp
    rw [String.toList_append, String.toList_ofList, whole]
  · rintro rfl
    exact ⟨rest.toList, (String.toList_append ..).symm, String.ofList_toList⟩

theorem stripSuffix?_eq_some {ending text stem : String} :
    stripSuffix? ending text = some stem ↔ text = stem ++ ending := by
  simp only [stripSuffix?, Option.map_eq_some_iff, List.isSuffixOf?_eq_some_iff_append_eq]
  constructor
  · rintro ⟨chars, whole, rfl⟩
    apply String.toList_inj.mp
    rw [String.toList_append, String.toList_ofList, whole]
  · rintro rfl
    exact ⟨stem.toList, (String.toList_append ..).symm, String.ofList_toList⟩

theorem before?_eq_none {pattern text : List Char} (some_ : pattern ≠ []) :
    before? pattern text = none ↔ ¬pattern <:+: text := by
  induction text with
  | nil => simp [before?, some_]
  | cons c rest ih =>
    rw [before?, List.infix_cons_iff, ← List.isPrefixOf_iff_prefix]
    cases start : pattern.isPrefixOf (c :: rest) with
    | true => simp
    | false => simpa using ih

end ClusterArchive.Text
