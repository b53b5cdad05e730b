import ClusterArchive.Json.Printer
import ClusterArchive.Json.Reader
import ClusterArchive.Proofs.Decimal.Padded
import Mathlib.Data.Nat.Basic
import Mathlib.Tactic.IntervalCases

/-! Printed numbers and strings are read as they were. A number is complete when the next character
cannot belong to it. -/

namespace ClusterArchive

def Number.IsExact : Number → Prop
  | .integer value => -9223372036854775808 ≤ value ∧ value ≤ 18446744073709551615
  | .double _ => False

instance : (value : Number) → Decidable value.IsExact
  | .integer value =>
    inferInstanceAs (Decidable (-9223372036854775808 ≤ value ∧ value ≤ 18446744073709551615))
  | .double _ => inferInstanceAs (Decidable False)

/-! Decimal digits. -/

namespace Decimal

/-- The digits of a number that is not zero start with one that is not. -/
theorem toDigits_cons {n : Nat} (positive : 0 < n) : ∃ d rest, 0 < d ∧ d < 10 ∧
    Nat.toDigits 10 n = Nat.digitChar d :: rest ∧ ∀ c ∈ rest, isDigit c = true := by
  induction n using Nat.strongRecOn with
  | ind n ih =>
    rw [Nat.toDigits_eq_if (by decide)]
    split
    next small => exact ⟨n, [], positive, small, rfl, by simp⟩
    next large =>
      obtain ⟨d, rest, nonzero, isDigit_, digits, all⟩ := ih (n / 10) (by omega) (by omega)
      refine ⟨d, rest ++ [Nat.digitChar (n % 10)], nonzero, isDigit_, by rw [digits]; rfl, ?_⟩
      intro c member
      rcases List.mem_append.mp member with before | last
      · exact all c before
      · rw [List.mem_singleton.mp last]
        exact isDigit_digitChar _ (Nat.mod_lt n (by decide))

end Decimal

namespace NumberToken

open Decimal

theorem absorb_concat {start found : Nat} {digits : List Char} {c : Char}
    (absorbed : absorb start digits = (found, []))
    (fits : found * 10 + digitValue c ≤ significandLimit) :
    absorb start (digits ++ [c]) = (found * 10 + digitValue c, []) := by
  induction digits generalizing start with
  | nil =>
    obtain ⟨rfl, _⟩ := Prod.mk.inj absorbed
    simp [absorb, fits]
  | cons d rest ih =>
    rw [absorb] at absorbed
    split at absorbed
    next more =>
      rw [List.cons_append, absorb]
      simp only [more, if_true]
      exact ih absorbed
    next => simp at absorbed

/-- All digits of a number enter the significand if the number does. -/
theorem absorb_toDigits {n : Nat} (fits : n ≤ significandLimit) :
    absorb 0 (Nat.toDigits 10 n) = (n, []) := by
  induction n using Nat.strongRecOn with
  | ind n ih =>
    rw [Nat.toDigits_eq_if (by decide)]
    split
    next small =>
      have digit := digitValue_digitChar n small
      simp [absorb, digit, fits]
    next large =>
      have digit := digitValue_digitChar (n % 10) (Nat.mod_lt n (by decide))
      have whole : n / 10 * 10 + digitValue (Nat.digitChar (n % 10)) = n := by omega
      rw [absorb_concat (ih (n / 10) (by omega) (by omega)) (by omega), whole]

theorem value?_natural {n : Nat} (fits : n ≤ 18446744073709551615) :
    value? ⟨false, Nat.toDigits 10 n, none, none⟩ = some (.integer n) := by
  have absorbed := absorb_toDigits (n := n) fits
  simp [value?, absorbed]

theorem value?_negative {n : Nat} (fits : n + 1 ≤ 9223372036854775808) :
    value? ⟨true, Nat.toDigits 10 (n + 1), none, none⟩ = some (.integer (.negSucc n)) := by
  have within : n + 1 ≤ significandLimit := Nat.le_trans fits (by decide)
  have absorbed := absorb_toDigits within
  have bound : n + 1 ≤ Nat.pow 2 63 := fits
  simp [value?, absorbed, bound]
  omega

end NumberToken

namespace Json.Reader

open Decimal

def EndsNumber (c : Char) : Prop := isDigit c = false ∧ c ≠ '.' ∧ c ≠ 'e' ∧ c ≠ 'E'

instance (c : Char) : Decidable (EndsNumber c) :=
  inferInstanceAs (Decidable (isDigit c = false ∧ c ≠ '.' ∧ c ≠ 'e' ∧ c ≠ 'E'))

/-- A state that is another one as soon as something else follows, or nothing: the value that was
read last is complete then. -/
structure Settles (s settled : State) : Prop where
  after : settled.mode = .after
  step : ∀ c, EndsNumber c → step s (some c) = stepAfter settled (some c)
  ended : settle s = settled

theorem Settles.refl {s : State} (after : s.mode = .after) : Settles s s where
  after := after
  step := fun c _ => by rw [Reader.step, after]
  ended := by rw [settle, after]

def run (s : State) (text : List Char) : State := (text.map some).foldl step s

@[simp] theorem run_nil (s : State) : run s [] = s := rfl

@[simp] theorem run_cons (s : State) (c : Char) (rest : List Char) :
    run s (c :: rest) = run (step s (some c)) rest := rfl

theorem run_append (s : State) (text more : List Char) :
    run s (text ++ more) = run (run s text) more := by
  simp [run]

theorem mode_give (s : State) (draft : Draft) : (s.give draft).mode = .after := by
  unfold State.give
  split <;> rfl

variable {stack : List Frame} {root : Option Draft}

theorem run_digits {token : NumberToken} {digits : List Char}
    (all : ∀ c ∈ digits, isDigit c = true) :
    run ⟨stack, root, .number token .whole⟩ digits =
      ⟨stack, root, .number { token with whole := token.whole ++ digits } .whole⟩ := by
  induction digits generalizing token with
  | nil => simp
  | cons c rest ih =>
    obtain ⟨digit, later⟩ := List.forall_mem_cons.mp all
    have next : step ⟨stack, root, .number token .whole⟩ (some c) =
        ⟨stack, root, .number { token with whole := token.whole ++ [c] } .whole⟩ := by
      have isNext : Option.filter isDigit (some c) = some c := by simp [digit]
      simp only [step, extendNumber, isNext]
      rfl
    rw [run_cons, next, ih later]
    simp

/-- A number that may end stands until something follows that does not belong to it. -/
theorem settles_token (token : NumberToken) {phase : NumberPhase}
    (isLast : phase ∈ [.zero, .whole, .fraction, .exponentDigits]) :
    Settles ⟨stack, root, .number token phase⟩
      (State.give ⟨stack, root, .after⟩ (numberDraft token)) where
  after := mode_give ..
  step := by
    rintro c ⟨digit, point, e, capital⟩
    have noDigit : Option.filter isDigit (some c) = none := by simp [digit]
    have ended : extendNumber token phase (some c) = .ok none := by
      simp only [List.mem_cons, List.not_mem_nil, or_false] at isLast
      rcases isLast with rfl | rfl | rfl | rfl <;> simp [extendNumber, noDigit, point, e, capital]
    simp only [Reader.step, ended]
    rfl
  ended := by
    simp only [settle, isLast, if_true]
    rfl

theorem settles_number {token : NumberToken} {phase : NumberPhase}
    (isWhole : phase = .zero ∨ phase = .whole) {value : Number} (valued : token.value? = some value) :
    Settles ⟨stack, root, .number token phase⟩ (State.give ⟨stack, root, .after⟩ (.number value)) := by
  have draft : numberDraft token = .number value := by rw [numberDraft, valued]
  rw [← draft]
  apply settles_token
  rcases isWhole with rfl | rfl <;> decide

theorem settles_integer (place : Place) {value : Int} (exact : Number.IsExact (.integer value)) :
    Settles (run ⟨stack, root, .value place⟩ (renderNumber (.integer value)))
      (State.give ⟨stack, root, .after⟩ (.number (.integer value))) := by
  have first (d : Nat) (nonzero : 0 < d) (digit : d < 10) :
      step ⟨stack, root, .value place⟩ (some (Nat.digitChar d)) =
        ⟨stack, root, .number ⟨false, [Nat.digitChar d], none, none⟩ .whole⟩ ∧
      step ⟨stack, root, .number ⟨true, [], none, none⟩ .sign⟩ (some (Nat.digitChar d)) =
        ⟨stack, root, .number ⟨true, [Nat.digitChar d], none, none⟩ .whole⟩ := by
    have cases_ : d = 1 ∨ d = 2 ∨ d = 3 ∨ d = 4 ∨ d = 5 ∨ d = 6 ∨ d = 7 ∨ d = 8 ∨ d = 9 := by omega
    rcases cases_ with rfl | rfl | rfl | rfl | rfl | rfl | rfl | rfl | rfl <;> exact ⟨rfl, rfl⟩
  obtain ⟨least, most⟩ := exact
  cases value with
  | ofNat n =>
    have fits : n ≤ 18446744073709551615 := by simpa using Int.ofNat_le.mp most
    have valued := NumberToken.value?_natural fits
    cases n with
    | zero => exact settles_number (.inl rfl) valued
    | succ n =>
      obtain ⟨d, rest, nonzero, digit, digits, all⟩ := Decimal.toDigits_cons (Nat.succ_pos n)
      rw [renderNumber, digits, run_cons, (first d nonzero digit).1, run_digits all]
      rw [digits] at valued
      exact settles_number (.inr rfl) valued
  | negSucc n =>
    have fits : n + 1 ≤ 9223372036854775808 := by omega
    have valued := NumberToken.value?_negative fits
    obtain ⟨d, rest, nonzero, digit, digits, all⟩ := Decimal.toDigits_cons (Nat.succ_pos n)
    have sign : step ⟨stack, root, .value place⟩ (some '-') =
        ⟨stack, root, .number ⟨true, [], none, none⟩ .sign⟩ := rfl
    rw [renderNumber, run_cons, sign, digits, run_cons, (first d nonzero digit).2, run_digits all]
    rw [digits] at valued
    exact settles_number (.inr rfl) valued

/-! Strings. -/

/-- A character inside a string is read as it was printed, escaped or not. -/
theorem run_escapeChar (isKey : Bool) (text : List Char) (c : Char) :
    run ⟨stack, root, .string isKey ⟨text, false, none, .plain⟩⟩ (escapeChar c) =
      ⟨stack, root, .string isKey ⟨c :: text, false, none, .plain⟩⟩ := by
  by_cases control : c.toNat < 0x20
  · obtain ⟨n, small, rfl⟩ : ∃ n < 0x20, c = Char.ofNat n := ⟨c.toNat, control, c.ofNat_toNat.symm⟩
    clear control
    interval_cases n <;> rfl
  · by_cases quote : c = '"'
    · subst quote
      rfl
    · by_cases backslash : c = '\\'
      · subst backslash
        rfl
      · have plain : escapeChar c = [c] := by
          have other (d : Char) (below : d.toNat < 0x20) : c ≠ d := by
            rintro rfl
            exact control below
          simp [escapeChar, quote, backslash, control, other]
        rw [plain, run_cons, run_nil, step]
        simp only [stepString, stepPlain, control, if_false]
        rfl

theorem run_escaped (isKey : Bool) (text chars : List Char) :
    run ⟨stack, root, .string isKey ⟨text, false, none, .plain⟩⟩ (chars.flatMap escapeChar) =
      ⟨stack, root, .string isKey ⟨chars.reverse ++ text, false, none, .plain⟩⟩ := by
  induction chars generalizing text with
  | nil => rfl
  | cons c rest ih =>
    rw [List.flatMap_cons, run_append, run_escapeChar, ih, List.reverse_cons, List.append_assoc]
    rfl

theorem run_string (place : Place) (text : String) :
    run ⟨stack, root, .value place⟩ (renderString text) =
      State.give ⟨stack, root, .after⟩ (.string text) := by
  have opened : step ⟨stack, root, .value place⟩ (some '"') =
      ⟨stack, root, .string false ⟨[], false, none, .plain⟩⟩ := rfl
  have content : OpenString.content ⟨text.toList.reverse, false, none, .plain⟩ = .ok text := by
    simp [OpenString.content]
  rw [renderString, run_cons, opened, run_append, run_escaped, List.append_nil, run_cons, run_nil,
    step]
  simp only [stepString, stepPlain, content]
  rfl

/-- A key is read as it was printed, the first of an object and any later one. -/
theorem run_key {mode : Mode} (isKey : mode = .firstKey ∨ mode = .nextKey)
    {done : List (Except Fault String × Draft)} {outer : List Frame} (key : String) :
    run ⟨.object done none :: outer, root, mode⟩ (renderString key) =
      ⟨.object done (some (.ok key)) :: outer, root, .colon⟩ := by
  have opened : step ⟨.object done none :: outer, root, mode⟩ (some '"') =
      ⟨.object done none :: outer, root, .string true ⟨[], false, none, .plain⟩⟩ := by
    rcases isKey with rfl | rfl <;> rfl
  have content : OpenString.content ⟨key.toList.reverse, false, none, .plain⟩ = .ok key := by
    simp [OpenString.content]
  rw [renderString, run_cons, opened, run_append, run_escaped, List.append_nil, run_cons, run_nil,
    step]
  simp only [stepString, stepPlain, content, if_true]

/-! White space. -/

inductive Mode.IsOpen : Mode → Prop
  | value (place : Place) : IsOpen (.value place)
  | firstKey : IsOpen .firstKey
  | nextKey : IsOpen .nextKey
  | after : IsOpen .after

theorem step_space {s : State} (isOpen : s.mode.IsOpen) {c : Char} (space : isSpace c = true) :
    step s (some c) = s := by
  obtain ⟨stack, root, mode⟩ := s
  have cases_ : c = ' ' ∨ c = '\n' ∨ c = '\t' ∨ c = '\r' := by
    simpa [isSpace, or_assoc] using space
  cases isOpen with
  | value place => rcases cases_ with rfl | rfl | rfl | rfl <;> rfl
  | firstKey | nextKey | after => simp [step, stepAfter, space]

theorem run_spaces {s : State} (isOpen : s.mode.IsOpen) {text : List Char}
    (spaces : ∀ c ∈ text, isSpace c = true) : run s text = s := by
  induction text with
  | nil => rfl
  | cons c rest ih =>
    obtain ⟨here, later⟩ := List.forall_mem_cons.mp spaces
    rw [run_cons, step_space isOpen here, ih later]

theorem endsNumber_of_isSpace {c : Char} (space : isSpace c = true) : EndsNumber c := by
  have cases_ : c = ' ' ∨ c = '\n' ∨ c = '\t' ∨ c = '\r' := by
    simpa [isSpace, or_assoc] using space
  rcases cases_ with rfl | rfl | rfl | rfl <;> decide

theorem Settles.run_space {s settled : State} (settles : Settles s settled) {c : Char}
    {rest : List Char} (spaces : ∀ d ∈ c :: rest, isSpace d = true) : run s (c :: rest) = settled := by
  obtain ⟨here, later⟩ := List.forall_mem_cons.mp spaces
  have isOpen : settled.mode.IsOpen := settles.after ▸ .after
  have settledNow : Reader.step s (some c) = settled := by
    rw [settles.step c (endsNumber_of_isSpace here)]
    simp [stepAfter, here]
  rw [run_cons, settledNow, run_spaces isOpen later]

/-- White space between a value and what ends it does not matter. -/
theorem Settles.run_gap {s settled : State} (settles : Settles s settled) {text : List Char}
    (spaces : ∀ c ∈ text, isSpace c = true) {c : Char} (ends : EndsNumber c) :
    run s (text ++ [c]) = stepAfter settled (some c) := by
  cases text with
  | nil => exact settles.step c ends
  | cons first rest =>
    rw [run_append, settles.run_space spaces, run_cons, run_nil, Reader.step, settles.after]

theorem isSpace_gap (style : Style) (depth : Nat) : ∀ c ∈ style.gap depth, isSpace c = true := by
  intro c member
  cases style with
  | compact => cases member
  | indented =>
    rcases List.mem_cons.mp member with rfl | later
    · decide
    · rw [(List.mem_replicate.mp later).2]
      decide

end Json.Reader

end ClusterArchive
