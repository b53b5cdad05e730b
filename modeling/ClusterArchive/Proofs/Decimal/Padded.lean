import ClusterArchive.Decimal.Digits
import ClusterArchive.Proofs.Text.Order

/-! Digits of one width. They are as many as the width, in the order of their numbers, and stand for
them. -/

namespace ClusterArchive.Decimal

theorem isDigit_digitChar : ∀ d < 10, isDigit (Nat.digitChar d) = true := by decide

theorem digitValue_digitChar : ∀ d < 10, digitValue (Nat.digitChar d) = d := by decide

theorem padded_succ {width : Nat} (wide : 0 < width) (n : Nat) :
    padded (width + 1) n = padded width (n / 10) ++ [Nat.digitChar (n % 10)] := by
  unfold padded
  rw [Nat.toDigits_eq_if (by decide) (n := n)]
  by_cases small : n < 10
  · have zero : n / 10 = 0 := by omega
    have last : n % 10 = n := by omega
    obtain ⟨more, rfl⟩ := Nat.exists_eq_add_of_lt wide
    simp [small, zero, last, Nat.toDigits_of_lt_base, List.replicate_succ']
  · simp [small, Nat.succ_sub_succ]

theorem length_padded {width n : Nat} (fits : n < Nat.pow 10 (width + 1)) :
    (padded (width + 1) n).length = width + 1 := by
  have short := (Nat.length_toDigits_le_iff (by decide) width.succ_pos).mpr fits
  rw [padded, List.length_append, List.length_replicate]
  omega

theorem padded_lt {width m n : Nat} (less : m < n) (fits : n < Nat.pow 10 (width + 1)) :
    padded (width + 1) m < padded (width + 1) n := by
  have digits : ∀ n < 10, ∀ m < n, Nat.digitChar m < Nat.digitChar n := by decide
  induction width generalizing m n with
  | zero =>
    have fits : n < 10 := fits
    have small : m < 10 := Nat.lt_trans less fits
    simpa [padded, Nat.toDigits_of_lt_base, fits, small, List.cons_lt_cons_iff] using digits n fits m less
  | succ width ih =>
    have front : n / 10 < Nat.pow 10 (width + 1) :=
      Nat.div_lt_of_lt_mul (by rwa [Nat.mul_comm])
    rw [padded_succ width.succ_pos, padded_succ width.succ_pos]
    rcases Nat.lt_or_eq_of_le (Nat.div_le_div_right (c := 10) (Nat.le_of_lt less)) with before | same
    · have frontToo := Nat.lt_trans before front
      exact Text.append_lt_append ((length_padded frontToo).trans (length_padded front).symm)
        (ih before front) ..
    · rw [same]
      apply List.append_left_lt
      rw [List.cons_lt_cons_iff]
      exact .inl (digits _ (Nat.mod_lt n (by decide)) _ (by omega))

theorem isDigit_of_mem_padded {width n : Nat} {c : Char} (member : c ∈ padded width n) :
    c.isDigit = true := by
  rcases List.mem_append.mp member with filled | digit
  · rw [List.eq_of_mem_replicate filled]
    rfl
  · exact Nat.isDigit_of_mem_toDigits (by decide) (by decide) digit

theorem value_concat (digits : List Char) (c : Char) :
    value (digits ++ [c]) = value digits * 10 + digitValue c := by
  rw [value, List.foldl_concat, value]

theorem value_toDigits (n : Nat) : value (Nat.toDigits 10 n) = n := by
  induction n using Nat.strongRecOn with
  | ind n ih =>
    rw [Nat.toDigits_eq_if (by decide)]
    split
    next small => simp [value, digitValue_digitChar n small]
    next large =>
      rw [value_concat, ih (n / 10) (by omega), digitValue_digitChar _ (Nat.mod_lt n (by decide))]
      omega

theorem value_padded (width n : Nat) : value (padded width n) = n := by
  have zeros (count : Nat) : value (List.replicate count '0' ++ Nat.toDigits 10 n) = n := by
    induction count with
    | zero => exact value_toDigits n
    | succ count ih => simpa [value, List.replicate_succ, digitValue] using ih
  exact zeros _

end ClusterArchive.Decimal
