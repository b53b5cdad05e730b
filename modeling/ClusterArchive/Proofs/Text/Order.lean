import ClusterArchive.Proofs.Text.Utf8
import Mathlib.Data.List.Basic

/-! The order of texts. Where fields have one width each they are compared one after the other, and
characters of one byte are in the order of their bytes. -/

namespace ClusterArchive.Text

variable {α : Type} [LT α]

theorem append_lt_append {front other : List α} (same : front.length = other.length)
    (less : front < other) (rest more : List α) : front ++ rest < other ++ more := by
  induction front generalizing other with
  | nil =>
    rw [List.eq_nil_of_length_eq_zero same.symm] at less
    exact absurd less (List.not_lt_nil [])
  | cons first tail ih =>
    cases other with
    | nil => cases same
    | cons second tailToo =>
      rw [List.cons_append, List.cons_append, List.cons_lt_cons_iff]
      rcases List.cons_lt_cons_iff.mp less with below | ⟨equal, later⟩
      · exact .inl below
      · exact .inr ⟨equal, ih (Nat.succ.inj same) later⟩

theorem columns_lt {first second third other another last : List α}
    (width : first.length = other.length) (widthToo : second.length = another.length)
    (less : first < other ∨ first = other ∧ (second < another ∨ second = another ∧ third < last)) :
    first ++ second ++ third < other ++ another ++ last := by
  rw [List.append_assoc, List.append_assoc]
  rcases less with less | ⟨rfl, less | ⟨rfl, less⟩⟩
  · exact append_lt_append width less ..
  · exact List.append_left_lt (append_lt_append widthToo less ..)
  · exact List.append_left_lt (List.append_left_lt less)

theorem ofText_append (text other : String) :
    Bytes.ofText (text ++ other) = Bytes.ofText text ++ Bytes.ofText other := by
  simp [ofText_eq]

theorem ofText_ascii {text : String} (ascii : ∀ c ∈ text.toList, c.val ≤ 127) :
    Bytes.ofText text = text.toList.map (·.val.toUInt8) := by
  rw [ofText_eq, List.map_eq_flatMap]
  exact List.flatMap_congr fun c member =>
    String.utf8EncodeChar_eq_singleton (Char.utf8Size_eq_one_iff.mpr (ascii c member))

theorem ofText_lt {text other : String} (ascii : ∀ c ∈ text.toList, c.val ≤ 127)
    (asciiOther : ∀ c ∈ other.toList, c.val ≤ 127) (less : text.toList < other.toList) :
    Bytes.ofText text < Bytes.ofText other := by
  rw [ofText_ascii ascii, ofText_ascii asciiOther]
  generalize text.toList = chars at ascii less
  generalize other.toList = others at asciiOther less
  induction chars generalizing others with
  | nil =>
    cases others with
    | nil => exact absurd less (List.not_lt_nil [])
    | cons c rest => exact List.nil_lt_cons ..
  | cons c rest ih =>
    cases others with
    | nil => exact absurd less (List.not_lt_nil _)
    | cons d more =>
      obtain ⟨here, later⟩ := List.forall_mem_cons.mp ascii
      obtain ⟨hereOther, laterOther⟩ := List.forall_mem_cons.mp asciiOther
      rw [List.map_cons, List.map_cons, List.cons_lt_cons_iff]
      rcases List.cons_lt_cons_iff.mp less with below | ⟨rfl, further⟩
      · rw [UInt32.le_iff_toNat_le] at here hereOther
        rw [Char.lt_def, UInt32.lt_iff_toNat_lt] at below
        rw [UInt8.lt_iff_toNat_lt, UInt32.toNat_toUInt8, UInt32.toNat_toUInt8]
        simp only [UInt32.reduceToNat] at here hereOther
        exact .inl (by omega)
      · exact .inr ⟨rfl, ih later more laterOther further⟩

end ClusterArchive.Text
