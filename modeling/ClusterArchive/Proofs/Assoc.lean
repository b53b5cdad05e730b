import ClusterArchive.Assoc
import Mathlib.Data.List.Basic

/-! Dictionaries under a lawful order of keys. Insertions into any list behave as updates of a map.
They keep the keys in strictly ascending order, and a dictionary in that order is fixed by its
values. -/

namespace ClusterArchive.Assoc

variable {κ α : Type} [DecidableEq κ]

@[simp] theorem get?_nil (key : κ) : get? key ([] : List (κ × α)) = none := rfl

theorem get?_cons (key k : κ) (v : α) (rest : List (κ × α)) :
    get? key ((k, v) :: rest) = if k = key then some v else get? key rest := rfl

theorem mem_of_get? {key : κ} {value : α} {entries : List (κ × α)}
    (found : get? key entries = some value) : (key, value) ∈ entries := by
  induction entries with
  | nil => simp at found
  | cons entry rest ih =>
    obtain ⟨k, v⟩ := entry
    rw [get?_cons] at found
    split at found
    next same => simp_all
    next => exact List.mem_cons_of_mem _ (ih found)

theorem get?_filter (keep : κ → Bool) (key : κ) (entries : List (κ × α)) :
    get? key (entries.filter fun (k, _) => keep k) = if keep key then get? key entries else none := by
  induction entries with
  | nil => simp
  | cons head rest ih =>
    obtain ⟨k, v⟩ := head
    by_cases same : k = key
    · subst same
      by_cases kept : keep k <;> simp [get?_cons, kept, ih]
    · by_cases kept : keep k <;> simp [get?_cons, kept, same, ih]

theorem mem_of_mem_erase {key : κ} {entries : List (κ × α)} {entry : κ × α}
    (member : entry ∈ erase key entries) : entry ∈ entries := by
  induction entries with
  | nil => simp [erase] at member
  | cons head rest ih =>
    obtain ⟨k, v⟩ := head
    simp only [erase] at member
    split at member
    next => exact List.mem_cons_of_mem _ (ih member)
    next =>
      rcases List.mem_cons.mp member with rfl | tail
      · exact List.mem_cons_self
      · exact List.mem_cons_of_mem _ (ih tail)

theorem erase_absent {key : κ} {entries : List (κ × α)} (absent : get? key entries = none) :
    erase key entries = entries := by
  induction entries with
  | nil => rfl
  | cons entry rest ih =>
    obtain ⟨k, v⟩ := entry
    rw [get?_cons] at absent
    split at absent
    next => cases absent
    next differ => rw [erase, if_neg differ, ih absent]

section Order

variable {κ : Type} [Ord κ] [Std.TransOrd κ]

theorem not_lt_of_lt {a b : κ} (before : compare a b = .lt) : ¬compare b a = .lt := by
  rw [Std.OrientedCmp.gt_of_lt before]
  decide

theorem ne_of_lt {a b : κ} (before : compare a b = .lt) : a ≠ b := by
  rintro rfl
  exact not_lt_of_lt before before

theorem lt_of_not_lt [Std.LawfulEqOrd κ] {a b : κ} (differ : b ≠ a)
    (notBefore : ¬compare a b = .lt) : compare b a = .lt := by
  cases order : compare a b with
  | lt => exact absurd order notBefore
  | eq => exact absurd (Std.LawfulEqCmp.eq_of_compare order).symm differ
  | gt => exact Std.OrientedCmp.lt_of_gt order

end Order

variable [Ord κ]

/-- The later of two values under one key stands where the first one stood. -/
@[simp] theorem insert_insert (key : κ) (first second : α) (entries : List (κ × α)) :
    insert key second (insert key first entries) = insert key second entries := by
  induction entries with
  | nil => simp [insert]
  | cons entry rest ih =>
    obtain ⟨k, v⟩ := entry
    simp only [insert]
    split
    next => simp [insert]
    next differ =>
      split
      next => simp [insert]
      next notBefore =>
        simp only [insert, if_neg differ, notBefore, Bool.false_eq_true, if_false, ih]

/-- What was put under a key that had nothing is gone when it is erased, and nothing else is. -/
theorem erase_insert {key : κ} {entries : List (κ × α)} (absent : get? key entries = none) (value : α) :
    erase key (insert key value entries) = entries := by
  induction entries with
  | nil => simp [insert, erase]
  | cons entry rest ih =>
    obtain ⟨k, v⟩ := entry
    rw [get?_cons] at absent
    split at absent
    next => cases absent
    next differ =>
      have gone : erase key rest = rest := erase_absent absent
      simp only [insert, if_neg differ]
      split
      next => simp [erase, differ, gone]
      next => simp [erase, differ, ih absent]

theorem mem_insert {key : κ} {value : α} {entries : List (κ × α)} {entry : κ × α}
    (member : entry ∈ insert key value entries) : entry = (key, value) ∨ entry ∈ entries := by
  induction entries with
  | nil => simpa [insert] using member
  | cons head rest ih =>
    obtain ⟨k, v⟩ := head
    simp only [insert] at member
    split at member
    next => grind
    next =>
      split at member
      next => grind
      next => grind

def Ascending (entries : List (κ × α)) : Prop :=
  entries.Pairwise fun a b => compare a.1 b.1 = .lt

instance (entries : List (κ × α)) : Decidable (Ascending entries) :=
  inferInstanceAs (Decidable (entries.Pairwise fun a b => compare a.1 b.1 = .lt))

theorem Ascending.erase {entries : List (κ × α)} (ascending : Ascending entries) (key : κ) :
    Ascending (erase key entries) := by
  induction entries with
  | nil => simp [Assoc.erase, Ascending]
  | cons head rest ih =>
    obtain ⟨k, v⟩ := head
    obtain ⟨least, later⟩ := List.pairwise_cons.mp ascending
    simp only [Assoc.erase]
    split
    next => exact ih later
    next =>
      exact List.pairwise_cons.mpr
        ⟨fun entry member => least entry (mem_of_mem_erase member), ih later⟩

variable [Std.TransOrd κ]

theorem insert_comm_of_lt {a b : κ} (before : compare a b = .lt) (x y : α)
    (entries : List (κ × α)) :
    insert a x (insert b y entries) = insert b y (insert a x entries) := by
  have differ := ne_of_lt before
  have notBefore := not_lt_of_lt before
  induction entries with
  | nil => simp [insert, before, notBefore, differ, differ.symm]
  | cons entry rest ih =>
    obtain ⟨k, v⟩ := entry
    by_cases atA : k = a
    · subst atA
      simp [insert, notBefore, differ]
    · by_cases atB : k = b
      · subst atB
        simp [insert, before, notBefore, differ, differ.symm]
      · by_cases bk : compare b k = .lt
        · have ak : compare a k = .lt := Std.TransCmp.lt_trans before bk
          simp [insert, atA, atB, bk, ak, before, notBefore, differ, differ.symm]
        · by_cases ak : compare a k = .lt
          · simp [insert, atA, atB, bk, ak, notBefore, differ]
          · simp [insert, atA, atB, bk, ak, ih]

/-- Insertions under different keys may be exchanged, in a list of any order. -/
theorem insert_comm [Std.LawfulEqOrd κ] {first second : κ} (differ : first ≠ second) (x y : α)
    (entries : List (κ × α)) :
    insert first x (insert second y entries) = insert second y (insert first x entries) := by
  by_cases before : compare first second = .lt
  · exact insert_comm_of_lt before x y entries
  · exact (insert_comm_of_lt (lt_of_not_lt differ.symm before) y x entries).symm

theorem Ascending.insert [Std.LawfulEqOrd κ] {entries : List (κ × α)}
    (ascending : Ascending entries) (key : κ) (value : α) : Ascending (insert key value entries) := by
  induction entries with
  | nil => simp [Assoc.insert, Ascending]
  | cons head rest ih =>
    obtain ⟨k, v⟩ := head
    obtain ⟨least, later⟩ := List.pairwise_cons.mp ascending
    simp only [Assoc.insert]
    split
    next same =>
      subst same
      exact List.pairwise_cons.mpr ⟨least, later⟩
    next differ =>
      split
      next before =>
        have before : compare key k = .lt := by simpa using before
        refine List.pairwise_cons.mpr ⟨fun entry member => ?_, ascending⟩
        rcases List.mem_cons.mp member with rfl | tail
        · exact before
        · exact Std.TransCmp.lt_trans before (least entry tail)
      next notBefore =>
        have after : compare k key = .lt := lt_of_not_lt differ (by simpa using notBefore)
        refine List.pairwise_cons.mpr ⟨fun entry member => ?_, ih later⟩
        rcases mem_insert member with rfl | tail
        · exact after
        · exact least entry tail

theorem Ascending.get?_of_mem {entries : List (κ × α)} (ascending : Ascending entries) {key : κ}
    {value : α} (member : (key, value) ∈ entries) : get? key entries = some value := by
  induction entries with
  | nil => simp at member
  | cons head rest ih =>
    obtain ⟨k, v⟩ := head
    obtain ⟨least, later⟩ := List.pairwise_cons.mp ascending
    rcases List.mem_cons.mp member with same | tail
    · obtain ⟨rfl, rfl⟩ := Prod.mk.inj same
      simp [get?_cons]
    · have differ : k ≠ key := ne_of_lt (least _ tail)
      rw [get?_cons, if_neg differ, ih later tail]

/-- In ascending order a pair is a member exactly if it is what its key leads to. -/
theorem Ascending.mem_iff {entries : List (κ × α)} (ascending : Ascending entries) {key : κ}
    {value : α} : (key, value) ∈ entries ↔ get? key entries = some value :=
  ⟨ascending.get?_of_mem, mem_of_get?⟩

theorem Ascending.insert_same {entries : List (κ × α)} (ascending : Ascending entries) {key : κ}
    {value : α} (found : get? key entries = some value) : Assoc.insert key value entries = entries := by
  induction entries with
  | nil => cases found
  | cons head rest ih =>
    obtain ⟨k, v⟩ := head
    obtain ⟨least, later⟩ := List.pairwise_cons.mp ascending
    rw [get?_cons] at found
    rw [Assoc.insert]
    split at found
    next same =>
      obtain rfl := Option.some.inj found
      rw [if_pos same, same]
    next differ =>
      have notBefore : ¬compare key k = .lt := not_lt_of_lt (least _ (mem_of_get? found))
      rw [if_neg differ, if_neg (by simpa using notBefore), ih later found]

omit [DecidableEq κ] in
theorem Ascending.nodup_keys {entries : List (κ × α)} (ascending : Ascending entries) :
    (entries.map Prod.fst).Nodup := by
  apply List.nodup_iff_pairwise_ne.mpr
  rw [List.pairwise_map]
  exact ascending.imp fun before => ne_of_lt before

theorem insert_of_above {key : κ} {entries : List (κ × α)} (value : α)
    (above : ∀ entry ∈ entries, compare entry.1 key = .lt) :
    insert key value entries = entries ++ [(key, value)] := by
  induction entries with
  | nil => simp [insert]
  | cons head rest ih =>
    obtain ⟨k, v⟩ := head
    have below : compare k key = .lt := above (k, v) List.mem_cons_self
    have rest := ih fun entry member => above entry (List.mem_cons_of_mem _ member)
    simp [insert, ne_of_lt below, not_lt_of_lt below, rest]

end ClusterArchive.Assoc
