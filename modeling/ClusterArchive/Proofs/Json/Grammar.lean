import ClusterArchive.Proofs.Json.Reads

/-! The grammar of JSON texts. Every text of the grammar is read to its end, and the value that is found
can be passed over: numbers out of range, lone surrogates and any depth do not matter there. -/

namespace ClusterArchive.Json

open Decimal (isDigit)
open Reader (AreSpaces memberText)

/-! ## The grammar -/

def AreDigits (text : List Char) : Prop := text ≠ [] ∧ ∀ c ∈ text, isDigit c = true

inductive IsWhole : List Char → Prop
  | zero : IsWhole ['0']
  | digits {text : List Char} (digits : AreDigits text) (noZero : text.head? ≠ some '0') : IsWhole text

inductive IsFraction : List Char → Prop
  | none : IsFraction []
  | digits {text : List Char} (digits : AreDigits text) : IsFraction ('.' :: text)

inductive IsExponent : List Char → Prop
  | none : IsExponent []
  | digits {mark : Char} {sign text : List Char} (isMark : mark = 'e' ∨ mark = 'E')
      (isSign : sign = [] ∨ sign = ['+'] ∨ sign = ['-']) (digits : AreDigits text) :
      IsExponent (mark :: (sign ++ text))

def IsHex (c : Char) : Prop :=
  isDigit c = true ∨ ('a' ≤ c ∧ c ≤ 'f') ∨ ('A' ≤ c ∧ c ≤ 'F')

inductive IsQuoted : List Char → Prop
  | nil : IsQuoted []
  | char {c : Char} {rest : List Char} (noQuote : c ≠ '"') (noBackslash : c ≠ '\\')
      (noControl : 0x20 ≤ c.toNat) (isRest : IsQuoted rest) : IsQuoted (c :: rest)
  | escape {c : Char} {rest : List Char} (isEscape : c ∈ ['"', '\\', '/', 'b', 'f', 'n', 'r', 't'])
      (isRest : IsQuoted rest) : IsQuoted ('\\' :: c :: rest)
  | unicode {a b c d : Char} {rest : List Char} (hex : ∀ digit ∈ [a, b, c, d], IsHex digit)
      (isRest : IsQuoted rest) : IsQuoted ('\\' :: 'u' :: a :: b :: c :: d :: rest)

inductive IsKey : List Char → Prop
  | quoted {before text behind : List Char} (spaces : AreSpaces before) (isQuoted : IsQuoted text)
      (spacesBehind : AreSpaces behind) : IsKey (before ++ '"' :: (text ++ ['"']) ++ behind)

inductive IsValue : List Char → Prop
  | null : IsValue ['n', 'u', 'l', 'l']
  | true : IsValue ['t', 'r', 'u', 'e']
  | false : IsValue ['f', 'a', 'l', 's', 'e']
  | number {sign whole fraction exponent : List Char} (isSign : sign = [] ∨ sign = ['-'])
      (isWhole : IsWhole whole) (isFraction : IsFraction fraction) (isExponent : IsExponent exponent) :
      IsValue (sign ++ (whole ++ (fraction ++ exponent)))
  | string {text : List Char} (isQuoted : IsQuoted text) : IsValue ('"' :: (text ++ ['"']))
  | array {items : List (List Char)} {behind : List Char} (each : ∀ item ∈ items, IsValue item)
      (spaces : AreSpaces behind) : IsValue ('[' :: ([','].intercalate items ++ (behind ++ [']'])))
  | object {entries : List (List Char × List Char)} {behind : List Char}
      (keys : ∀ entry ∈ entries, IsKey entry.1) (each : ∀ entry ∈ entries, IsValue entry.2)
      (spaces : AreSpaces behind) :
      IsValue ('\x7b' :: ([','].intercalate (entries.map memberText) ++ (behind ++ ['\x7d'])))
  | spaced {before text behind : List Char} (isValue : IsValue text) (spaces : AreSpaces before)
      (spacesBehind : AreSpaces behind) : IsValue (before ++ text ++ behind)

/-! ## Numbers -/

namespace Reader

variable {stack : List Frame} {root : Option Draft}

/-- A number that was read up to one of its parts is read on to another. -/
def Continues (phase : NumberPhase) (text : List Char) (next : NumberPhase) : Prop :=
  ∀ token, ∃ extended, ∀ stack root,
    run ⟨stack, root, .number token phase⟩ text = ⟨stack, root, .number extended next⟩

theorem Continues.nil (phase : NumberPhase) : Continues phase [] phase :=
  fun token => ⟨token, fun _ _ => rfl⟩

theorem Continues.append {phase next last : NumberPhase} {text more : List Char}
    (first : Continues phase text next) (second : Continues next more last) :
    Continues phase (text ++ more) last := by
  intro token
  obtain ⟨middle, here⟩ := first token
  obtain ⟨extended, further⟩ := second middle
  refine ⟨extended, fun stack root => ?_⟩
  rw [run_append, here, further]

theorem Continues.char {phase next : NumberPhase} {c : Char}
    (extends_ : ∀ token, ∃ extended, extendNumber token phase (some c) = .ok (some (extended, next))) :
    Continues phase [c] next := by
  intro token
  obtain ⟨extended, is⟩ := extends_ token
  refine ⟨extended, fun stack root => ?_⟩
  simp only [run_cons, run_nil, step, is]
  rfl

/-- The part of a number to which a digit belongs that follows another part. -/
def NumberPhase.withDigit : NumberPhase → Option NumberPhase
  | .whole => some .whole
  | .point | .fraction => some .fraction
  | .exponent | .exponentSign | .exponentDigits => some .exponentDigits
  | .sign | .zero => none

theorem continues_digit {phase next : NumberPhase} {c : Char} (digit : isDigit c = true)
    (goesOn : phase.withDigit = some next) : Continues phase [c] next := by
  have isDigit_ : Option.filter isDigit (some c) = some c := by simp [digit]
  apply Continues.char
  intro token
  cases phase <;> cases goesOn <;> simp [extendNumber, isDigit_]

theorem continues_digits {phase inside : NumberPhase} {text : List Char} (digits : AreDigits text)
    (goesOn : phase.withDigit = some inside) (stays : inside.withDigit = some inside) :
    Continues phase text inside := by
  obtain ⟨nonempty, all⟩ := digits
  have further : ∀ rest : List Char, (∀ c ∈ rest, isDigit c = true) → Continues inside rest inside := by
    intro rest all
    induction rest with
    | nil => exact .nil inside
    | cons c rest ih =>
      obtain ⟨here, later⟩ := List.forall_mem_cons.mp all
      exact (continues_digit here stays).append (ih later)
  cases text with
  | nil => exact absurd rfl nonempty
  | cons c rest =>
    obtain ⟨here, later⟩ := List.forall_mem_cons.mp all
    exact (continues_digit here goesOn).append (further rest later)

theorem continues_fraction {text : List Char} (isFraction : IsFraction text) {phase : NumberPhase}
    (isWhole : phase = .zero ∨ phase = .whole) :
    ∃ next, (next = phase ∨ next = .fraction) ∧ Continues phase text next := by
  cases isFraction with
  | none => exact ⟨phase, .inl rfl, .nil phase⟩
  | digits digits =>
    have point : Continues phase ['.'] .point := by
      apply Continues.char
      intro token
      rcases isWhole with rfl | rfl <;> exact ⟨_, rfl⟩
    exact ⟨.fraction, .inr rfl, point.append (continues_digits digits rfl rfl)⟩

theorem continues_exponent {text : List Char} (isExponent : IsExponent text) {phase : NumberPhase}
    (isLast : phase = .zero ∨ phase = .whole ∨ phase = .fraction) :
    ∃ next ∈ [.zero, .whole, .fraction, .exponentDigits], Continues phase text next := by
  cases isExponent with
  | none =>
    refine ⟨phase, ?_, .nil phase⟩
    rcases isLast with rfl | rfl | rfl <;> decide
  | @digits mark sign text isMark isSign digits =>
    have marked : Continues phase [mark] .exponent := by
      apply Continues.char
      intro token
      rcases isMark with rfl | rfl <;> rcases isLast with rfl | rfl | rfl <;> exact ⟨_, rfl⟩
    have signed : Continues .exponent (sign ++ text) .exponentDigits := by
      rcases isSign with rfl | rfl | rfl
      · exact continues_digits digits rfl rfl
      · exact .append (.char fun token => ⟨_, rfl⟩) (continues_digits digits rfl rfl)
      · exact .append (.char fun token => ⟨_, rfl⟩) (continues_digits digits rfl rfl)
    exact ⟨.exponentDigits, by decide, marked.append signed⟩

theorem step_digit (place : Place) {c : Char} (digit : isDigit c = true) (nonzero : c ≠ '0') :
    step ⟨stack, root, .value place⟩ (some c) = ⟨stack, root, .number ⟨false, [c], none, none⟩ .whole⟩ := by
  simp only [isDigit, Bool.and_eq_true, decide_eq_true_eq] at digit
  have low : 48 ≤ c.toNat := digit.1
  have high : c.toNat ≤ 57 := digit.2
  obtain ⟨n, is, rfl⟩ : ∃ n, n = c.toNat ∧ c = Char.ofNat n := ⟨c.toNat, rfl, c.ofNat_toNat.symm⟩
  rw [← is] at low high
  clear is digit
  interval_cases n
  · exact absurd rfl nonzero
  all_goals rfl

theorem run_whole {sign whole : List Char} (isSign : sign = [] ∨ sign = ['-']) (isWhole : IsWhole whole) :
    ∃ token phase, (phase = .zero ∨ phase = .whole) ∧ ∀ stack root place,
      run ⟨stack, root, .value place⟩ (sign ++ whole) = ⟨stack, root, .number token phase⟩ := by
  cases isWhole with
  | zero =>
    rcases isSign with rfl | rfl
    · exact ⟨⟨false, ['0'], none, none⟩, .zero, .inl rfl, fun _ _ _ => rfl⟩
    · exact ⟨⟨true, ['0'], none, none⟩, .zero, .inl rfl, fun _ _ _ => rfl⟩
  | digits digits noZero =>
    obtain ⟨nonempty, all⟩ := digits
    cases whole with
    | nil => exact absurd rfl nonempty
    | cons first rest =>
      obtain ⟨here, later⟩ := List.forall_mem_cons.mp all
      have nonzero : first ≠ '0' := by simpa using noZero
      rcases isSign with rfl | rfl
      · refine ⟨⟨false, first :: rest, none, none⟩, .whole, .inr rfl, fun stack root place => ?_⟩
        rw [List.nil_append, run_cons, step_digit place here nonzero, run_digits later]
        rfl
      · have isDigit_ : Option.filter isDigit (some first) = some first := by simp [here]
        refine ⟨⟨true, first :: rest, none, none⟩, .whole, .inr rfl, fun stack root place => ?_⟩
        have sign : step ⟨stack, root, .value place⟩ (some '-') =
            ⟨stack, root, .number ⟨true, [], none, none⟩ .sign⟩ := rfl
        have next : step ⟨stack, root, .number ⟨true, [], none, none⟩ .sign⟩ (some first) =
            ⟨stack, root, .number ⟨true, [first], none, none⟩ .whole⟩ := by
          simp only [step, extendNumber, isDigit_, nonzero, if_false]
          rfl
        rw [List.singleton_append, run_cons, sign, run_cons, next, run_digits later]
        rfl

/-- A number token is read as its value, or as one out of range. -/
theorem reads_number {sign whole fraction exponent : List Char} (isSign : sign = [] ∨ sign = ['-'])
    (isWhole : IsWhole whole) (isFraction : IsFraction fraction) (isExponent : IsExponent exponent) :
    ∃ token, Reads (sign ++ (whole ++ (fraction ++ exponent))) (numberDraft token) := by
  obtain ⟨token, phase, isPhase, front⟩ := run_whole isSign isWhole
  obtain ⟨next, isNext, second⟩ := continues_fraction isFraction isPhase
  have open_ : next = .zero ∨ next = .whole ∨ next = .fraction := by
    rcases isNext with rfl | rfl
    · exact isPhase.imp_right .inl
    · exact .inr (.inr rfl)
  obtain ⟨last, isLast, third⟩ := continues_exponent isExponent open_
  obtain ⟨extended, rest⟩ := second.append third token
  refine ⟨extended, fun stack root place => ?_⟩
  rw [← List.append_assoc, run_append, front, rest]
  exact settles_token extended isLast

/-! ## Strings -/

/-- Between two characters of a string, or two escapes. A high surrogate may wait for its partner. -/
def IsBetween (o : OpenString) : Prop := o.escape = .plain ∨ ∃ high, o.escape = .surrogate high

theorem isBetween_push (o : OpenString) (c : Char) : IsBetween (o.push c) := .inl rfl

theorem isBetween_spoil (o : OpenString) (fault : Fault) : IsBetween (o.spoil fault) := .inl rfl

theorem isBetween_unicode (o : OpenString) (high : Option Nat) (code : Nat) :
    IsBetween (o.unicode high code) := by
  unfold OpenString.unicode
  split
  · split
    · exact isBetween_spoil ..
    · split
      · exact .inr ⟨code, rfl⟩
      · exact isBetween_push ..
  · split
    · exact isBetween_push ..
    · exact isBetween_spoil ..

def StaysOpen (o : OpenString) (text : List Char) : Prop :=
  ∃ next, IsBetween next ∧ ∀ stack root isKey,
    run ⟨stack, root, .string isKey o⟩ text = ⟨stack, root, .string isKey next⟩

theorem staysOpen_char {o : OpenString} (between : IsBetween o) {c : Char} (noQuote : c ≠ '"')
    (noBackslash : c ≠ '\\') (noControl : 0x20 ≤ c.toNat) : StaysOpen o [c] := by
  have plain (s : State) (isKey : Bool) (o : OpenString) :
      stepPlain s isKey o (some c) = s.await (.string isKey (o.push c)) := by
    unfold stepPlain
    split
    next is => cases is
    next is => exact absurd (Option.some.inj is) noQuote
    next is => exact absurd (Option.some.inj is) noBackslash
    next is =>
      obtain rfl := Option.some.inj is
      exact if_neg (Nat.not_lt.mpr noControl)
  rcases between with escape | ⟨high, escape⟩
  · refine ⟨o.push c, isBetween_push .., fun stack root isKey => ?_⟩
    simp only [run_cons, run_nil, step, stepString, escape, plain]
    rfl
  · refine ⟨(o.spoil .openSurrogate).push c, isBetween_push .., fun stack root isKey => ?_⟩
    have other : some c ≠ some '\\' := by simpa using noBackslash
    simp only [run_cons, run_nil, step, stepString, escape, plain, other, if_false]
    rfl

theorem staysOpen_escape {o : OpenString} (between : IsBetween o) {c : Char}
    (isEscape : c ∈ ['"', '\\', '/', 'b', 'f', 'n', 'r', 't']) : StaysOpen o ['\\', c] := by
  obtain ⟨d, simple⟩ : ∃ d, simpleEscape c = some d := by
    simp only [List.mem_cons, List.not_mem_nil, or_false] at isEscape
    rcases isEscape with rfl | rfl | rfl | rfl | rfl | rfl | rfl | rfl <;> exact ⟨_, rfl⟩
  have noUnicode : some c ≠ some 'u' := by
    rintro ⟨⟩
    cases simple
  have escaped (s : State) (isKey : Bool) (o : OpenString) :
      stepBackslash s isKey o (some c) = s.await (.string isKey (o.push d)) := by
    simp only [stepBackslash, noUnicode, if_false, Option.bind_some, simple]
  rcases between with escape | ⟨high, escape⟩
  · refine ⟨(o.awaiting .backslash).push d, isBetween_push .., fun stack root isKey => ?_⟩
    have opened : step ⟨stack, root, .string isKey o⟩ (some '\\') =
        ⟨stack, root, .string isKey (o.awaiting .backslash)⟩ := by
      simp only [step, stepString, escape]
      rfl
    rw [run_cons, opened, run_cons, run_nil]
    exact escaped ..
  · refine ⟨((o.awaiting (.surrogateBackslash high)).spoil .openSurrogate).push d, isBetween_push ..,
      fun stack root isKey => ?_⟩
    have opened : step ⟨stack, root, .string isKey o⟩ (some '\\') =
        ⟨stack, root, .string isKey (o.awaiting (.surrogateBackslash high))⟩ := by
      simp only [step, stepString, escape]
      rfl
    rw [run_cons, opened, run_cons, run_nil, step]
    simp only [stepString, OpenString.awaiting, noUnicode, if_false]
    exact escaped ..

theorem hexValue_isHex {c : Char} (hex : IsHex c) : c.utf8Size = 1 ∧ ∃ value, hexValue c = some value := by
  constructor
  · rw [Char.utf8Size_eq_one_iff]
    simp only [IsHex, isDigit, Bool.and_eq_true, decide_eq_true_eq] at hex
    rcases hex with ⟨_, high⟩ | ⟨_, high⟩ | ⟨_, high⟩ <;> exact UInt32.le_trans high (by decide)
  · rw [hexValue]
    split
    next => exact ⟨_, rfl⟩
    next noDigit =>
      split
      next => exact ⟨_, rfl⟩
      next noLower =>
        rw [if_pos]
        · exact ⟨_, rfl⟩
        · rcases hex with digit | lower | upper
          · exact absurd digit noDigit
          · exact absurd (by simpa using lower) noLower
          · simpa using upper

theorem run_hex {a b c d : Char} (hex : ∀ digit ∈ [a, b, c, d], IsHex digit) :
    ∃ front code, ∀ (high : Option Nat) (stack : List Frame) (root : Option Draft) (isKey : Bool)
      (o : OpenString), run ⟨stack, root, .string isKey (o.awaiting (.hex high 0 (some 0)))⟩ [a, b, c, d] =
        ⟨stack, root, .string isKey ((o.awaiting (.hex high 3 (some front))).unicode high code)⟩ := by
  simp only [List.forall_mem_cons] at hex
  obtain ⟨oneA, valueA, isA⟩ := hexValue_isHex hex.1
  obtain ⟨oneB, valueB, isB⟩ := hexValue_isHex hex.2.1
  obtain ⟨oneC, valueC, isC⟩ := hexValue_isHex hex.2.2.1
  obtain ⟨oneD, valueD, isD⟩ := hexValue_isHex hex.2.2.2.1
  refine ⟨(valueA * 16 + valueB) * 16 + valueC, ((valueA * 16 + valueB) * 16 + valueC) * 16 + valueD,
    fun high stack root isKey o => ?_⟩
  simp [step, stepString, OpenString.awaiting, State.await, oneA, oneB, oneC, oneD, isA, isB, isC, isD]

theorem staysOpen_unicode {o : OpenString} (between : IsBetween o) {a b c d : Char}
    (hex : ∀ digit ∈ [a, b, c, d], IsHex digit) : StaysOpen o ['\\', 'u', a, b, c, d] := by
  obtain ⟨front, code, digits⟩ := run_hex hex
  have opened : ∃ high, ∀ stack root isKey, run ⟨stack, root, .string isKey o⟩ ['\\', 'u'] =
      ⟨stack, root, .string isKey (o.awaiting (.hex high 0 (some 0)))⟩ := by
    rcases between with escape | ⟨high, escape⟩
    · refine ⟨none, fun stack root isKey => ?_⟩
      simp only [run_cons, run_nil, step, stepString, escape]
      rfl
    · refine ⟨some high, fun stack root isKey => ?_⟩
      simp only [run_cons, run_nil, step, stepString, escape]
      rfl
  obtain ⟨high, opened⟩ := opened
  refine ⟨(o.awaiting (.hex high 3 (some front))).unicode high code, isBetween_unicode ..,
    fun stack root isKey => ?_⟩
  have parts : ['\\', 'u', a, b, c, d] = ['\\', 'u'] ++ [a, b, c, d] := rfl
  rw [parts, run_append, opened, digits]

theorem staysOpen_quoted {text : List Char} (isQuoted : IsQuoted text) {o : OpenString}
    (between : IsBetween o) : StaysOpen o text := by
  have append {o : OpenString} {text more : List Char} (first : StaysOpen o text)
      (second : ∀ {next}, IsBetween next → StaysOpen next more) : StaysOpen o (text ++ more) := by
    obtain ⟨middle, isMiddle, here⟩ := first
    obtain ⟨next, isNext, further⟩ := second isMiddle
    exact ⟨next, isNext, fun stack root isKey => by rw [run_append, here, further]⟩
  induction isQuoted generalizing o with
  | nil => exact ⟨o, between, fun _ _ _ => rfl⟩
  | char noQuote noBackslash noControl _ ih =>
    exact append (staysOpen_char between noQuote noBackslash noControl) ih
  | escape isEscape _ ih => exact append (staysOpen_escape between isEscape) ih
  | unicode hex _ ih => exact append (staysOpen_unicode between hex) ih

/-- A quotation mark ends a string, as a value that is its text or flawed, or as a key. -/
theorem stepPlain_quote (o : OpenString) : ∃ draft key, draft.skip = .ok () ∧
    (∀ stack root mode, stepPlain ⟨stack, root, mode⟩ false o (some '"') =
      State.give ⟨stack, root, .after⟩ draft) ∧
    ∀ done outer root mode, stepPlain ⟨.object done none :: outer, root, mode⟩ true o (some '"') =
      ⟨.object done (some key) :: outer, root, .colon⟩ := by
  cases content : o.content with
  | ok text =>
    refine ⟨.string text, .ok text, by simp [Draft.skip], fun stack root mode => ?_,
      fun done outer root mode => ?_⟩
    all_goals
      simp only [stepPlain, content]
      rfl
  | error fault =>
    refine ⟨.flawed fault, .error fault, by simp [Draft.skip], fun stack root mode => ?_,
      fun done outer root mode => ?_⟩
    all_goals
      simp only [stepPlain, content]
      rfl

theorem closes_quoted {o : OpenString} (between : IsBetween o) : ∃ draft key, draft.skip = .ok () ∧
    (∀ stack root, step ⟨stack, root, .string false o⟩ (some '"') =
      State.give ⟨stack, root, .after⟩ draft) ∧
    ∀ done outer root, step ⟨.object done none :: outer, root, .string true o⟩ (some '"') =
      ⟨.object done (some key) :: outer, root, .colon⟩ := by
  -- A high surrogate without a partner spoils the string first.
  obtain ⟨closed, isPlain⟩ : ∃ closed, ∀ stack root isKey,
      step ⟨stack, root, .string isKey o⟩ (some '"') =
        stepPlain ⟨stack, root, .string isKey o⟩ isKey closed (some '"') := by
    rcases between with escape | ⟨high, escape⟩
    · exact ⟨o, fun stack root isKey => by simp only [step, stepString, escape]⟩
    · refine ⟨o.spoil .openSurrogate, fun stack root isKey => ?_⟩
      simp only [step, stepString, escape]
      rfl
  obtain ⟨draft, key, skipped, value, name⟩ := stepPlain_quote closed
  exact ⟨draft, key, skipped, fun stack root => by rw [isPlain, value],
    fun done outer root => by rw [isPlain, name]⟩

theorem isBetween_empty : IsBetween emptyString := .inl rfl

theorem reads_quoted {text : List Char} (isQuoted : IsQuoted text) :
    ∃ draft, draft.skip = .ok () ∧ Reads ('"' :: (text ++ ['"'])) draft := by
  obtain ⟨next, between, stays⟩ := staysOpen_quoted isQuoted isBetween_empty
  obtain ⟨draft, _, skipped, closes, _⟩ := closes_quoted between
  refine ⟨draft, skipped, fun stack root place => ?_⟩
  have opened : step ⟨stack, root, .value place⟩ (some '"') =
      ⟨stack, root, .string false emptyString⟩ := rfl
  rw [run_cons, opened, run_append, stays, run_cons, run_nil, closes]
  exact .refl (mode_give ..)

theorem readsKey_isKey {text : List Char} (isKey : IsKey text) : ∃ key, ReadsKey text key := by
  obtain ⟨spaces, isQuoted, spacesBehind⟩ := isKey
  obtain ⟨next, between, stays⟩ := staysOpen_quoted isQuoted isBetween_empty
  obtain ⟨_, key, _, _, closes⟩ := closes_quoted between
  refine ⟨key, ReadsKey.spaced ?_ spaces spacesBehind⟩
  intro mode isMode done outer root
  have opened : step ⟨.object done none :: outer, root, mode⟩ (some '"') =
      ⟨.object done none :: outer, root, .string true emptyString⟩ := by
    rcases isMode with rfl | rfl <;> rfl
  rw [run_cons, opened, run_append, stays, run_cons, run_nil, closes]

/-! ## Values -/

theorem skipItems_ok {drafts : List Draft} (each : ∀ draft ∈ drafts, draft.skip = .ok ()) :
    Draft.skipItems drafts = .ok () := by
  induction drafts with
  | nil => rw [Draft.skipItems]
  | cons draft rest ih =>
    obtain ⟨here, later⟩ := List.forall_mem_cons.mp each
    rw [Draft.skipItems, here, ih later]
    rfl

theorem skipMembers_ok {members : List (Except Fault String × Draft)}
    (each : ∀ member ∈ members, member.2.skip = .ok ()) : Draft.skipMembers members = .ok () := by
  induction members with
  | nil => rw [Draft.skipMembers]
  | cons member rest ih =>
    obtain ⟨here, later⟩ := List.forall_mem_cons.mp each
    rw [Draft.skipMembers, here, ih later]
    rfl

/-- Where each text is read as something, the texts are read as a list of that. -/
theorem forall₂_of_each {α β : Type} {related : α → β → Prop} {good : β → Prop} {items : List α}
    (each : ∀ item ∈ items, ∃ value, good value ∧ related item value) :
    ∃ values, (∀ value ∈ values, good value) ∧ List.Forall₂ related items values := by
  induction items with
  | nil => exact ⟨[], by simp, .nil⟩
  | cons item rest ih =>
    obtain ⟨⟨value, isGood, is⟩, later⟩ := List.forall_mem_cons.mp each
    obtain ⟨values, areGood, are⟩ := ih later
    exact ⟨value :: values, List.forall_mem_cons.mpr ⟨isGood, areGood⟩, .cons is are⟩

/-- Every text of the grammar is read as a value that can be passed over. -/
theorem reads_isValue {text : List Char} (isValue : IsValue text) :
    ∃ draft, draft.skip = .ok () ∧ Reads text draft := by
  induction isValue with
  | null => exact ⟨.null, rfl, reads_null⟩
  | true => exact ⟨.bool true, rfl, reads_bool .compact 0 true⟩
  | false => exact ⟨.bool false, rfl, reads_bool .compact 0 false⟩
  | number isSign isWhole isFraction isExponent =>
    obtain ⟨token, reads⟩ := reads_number isSign isWhole isFraction isExponent
    refine ⟨numberDraft token, ?_, reads⟩
    unfold numberDraft
    split <;> simp [Draft.skip]
  | string isQuoted => exact reads_quoted isQuoted
  | array _ spaces each =>
    obtain ⟨drafts, skipped, reads⟩ := forall₂_of_each each
    refine ⟨.array drafts none, ?_, reads_array reads spaces⟩
    rw [Draft.skip, skipItems_ok skipped]
    rfl
  | @object entries _ keys _ spaces each =>
    obtain ⟨members, skipped, reads⟩ : ∃ members : List (Except Fault String × Draft),
        (∀ member ∈ members, member.2.skip = .ok ()) ∧ List.Forall₂ ReadsMember entries members := by
      apply forall₂_of_each
      intro entry member
      obtain ⟨key, readsKey⟩ := readsKey_isKey (keys entry member)
      obtain ⟨draft, skipped, reads⟩ := each entry member
      exact ⟨(key, draft), skipped, readsKey, reads⟩
    refine ⟨.object members none, ?_, reads_object reads spaces⟩
    rw [Draft.skip, skipMembers_ok skipped]
    rfl
  | spaced _ spaces spacesBehind ih =>
    obtain ⟨draft, skipped, reads⟩ := ih
    exact ⟨draft, skipped, reads.spaced spaces spacesBehind⟩

end Reader

end ClusterArchive.Json
