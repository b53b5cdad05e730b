/-! Dictionaries as lists of pairs in ascending key order. -/

namespace ClusterArchive.Assoc

variable {κ α : Type} [DecidableEq κ]

def get? (key : κ) : List (κ × α) → Option α
  | [] => none
  | (k, v) :: rest => if k = key then some v else get? key rest

def contains (key : κ) (entries : List (κ × α)) : Bool := (get? key entries).isSome

/-- Puts a value under a key, in place of the one that was there. -/
def insert [Ord κ] (key : κ) (value : α) : List (κ × α) → List (κ × α)
  | [] => [(key, value)]
  | (k, v) :: rest =>
    if k = key then (key, value) :: rest
    else if compare key k == .lt then (key, value) :: (k, v) :: rest
    else (k, v) :: insert key value rest

def erase (key : κ) : List (κ × α) → List (κ × α)
  | [] => []
  | (k, v) :: rest => if k = key then erase key rest else (k, v) :: erase key rest

@[simp] theorem get?_insert [Ord κ] (key other : κ) (value : α) (entries : List (κ × α)) :
    get? other (insert key value entries) = if key = other then some value else get? other entries := by
  induction entries with
  | nil => simp [insert, get?]
  | cons entry rest ih =>
    obtain ⟨k, v⟩ := entry
    simp only [insert]
    split
    · next same => subst same; simp only [get?]; split <;> rfl
    · next differ =>
      split
      · simp only [get?]
      · simp only [get?, ih]
        split
        · next h => subst h; simp [Ne.symm differ]
        · rfl

@[simp] theorem get?_erase (key other : κ) (entries : List (κ × α)) :
    get? other (erase key entries) = if key = other then none else get? other entries := by
  induction entries with
  | nil => simp [erase, get?]
  | cons entry rest ih =>
    obtain ⟨k, v⟩ := entry
    simp only [erase]
    split
    · next same => subst same; simp only [ih, get?]; split <;> rfl
    · next differ =>
      simp only [get?, ih]
      split
      · next h => subst h; simp [Ne.symm differ]
      · rfl

end ClusterArchive.Assoc
