import ClusterArchive.Json.Draft
import ClusterArchive.Json.Number
import ClusterArchive.Text.Utf8

/-! Reading JSON text, one character at a time. The state holds the containers that are open and
what may come next; a fault stops the reading and keeps what was read. Bytes that are not text
(`none` among the characters) are let pass inside strings only, and spoil those. -/

namespace ClusterArchive.Json.Reader

/-- A container that is open, its contents last first. In an object a key waits for its value. -/
inductive Frame
  | array (done : List Draft)
  | object (done : List (Except Fault String × Draft)) (key : Option (Except Fault String))

inductive Place
  | start
  | firstItem
  | nextItem
  | member
deriving DecidableEq

inductive NumberPhase
  | sign
  | zero
  | whole
  | point
  | fraction
  | exponent
  | exponentSign
  | exponentDigits
deriving DecidableEq

/-- What follows a backslash inside a string. A high surrogate waits for its partner; `code` is
lost once a character is not a hexadecimal digit. -/
inductive Escape
  | plain
  | backslash
  | hex (high : Option Nat) (length : Nat) (code : Option Nat)
  | surrogate (high : Nat)
  | surrogateBackslash (high : Nat)

structure OpenString where
  text : List Char
  stray : Bool
  flaw : Option Fault
  escape : Escape

inductive Mode
  | value (place : Place)
  | firstKey
  | nextKey
  | colon
  | after
  | word (rest : List Char) (value : Draft)
  | number (token : NumberToken) (phase : NumberPhase)
  | string (isKey : Bool) (opened : OpenString)
  | stopped (fault : Fault)

structure State where
  stack : List Frame
  root : Option Draft
  mode : Mode

def start : State := ⟨[], none, .value .start⟩

def isSpace (c : Char) : Bool := c == ' ' || c == '\n' || c == '\t' || c == '\r'

def hexValue (c : Char) : Option Nat :=
  if Decimal.isDigit c then some (c.toNat - '0'.toNat)
  else if 'a' ≤ c && c ≤ 'f' then some (c.toNat - 'a'.toNat + 10)
  else if 'A' ≤ c && c ≤ 'F' then some (c.toNat - 'A'.toNat + 10)
  else none

namespace State

def stop (s : State) (fault : Fault) : State := { s with mode := .stopped fault }

def await (s : State) (mode : Mode) : State := { s with mode := mode }

def give (s : State) (value : Draft) : State :=
  match s.stack with
  | .array done :: outer => ⟨.array (value :: done) :: outer, s.root, .after⟩
  | .object done (some key) :: outer => ⟨.object ((key, value) :: done) none :: outer, s.root, .after⟩
  | _ => ⟨s.stack, some value, .after⟩

def openFrame (s : State) (frame : Frame) (mode : Mode) : State := ⟨frame :: s.stack, s.root, mode⟩

def close (s : State) : State :=
  match s.stack with
  | .array done :: outer => give ⟨outer, s.root, .after⟩ (.array done.reverse none)
  | .object done _ :: outer => give ⟨outer, s.root, .after⟩ (.object done.reverse none)
  | [] => s

end State

def numberDraft (token : NumberToken) : Draft :=
  match token.value? with
  | some value => .number value
  | none => .flawed .numberRange

def emptyString : OpenString := ⟨[], false, none, .plain⟩

namespace OpenString

def push (o : OpenString) (c : Char) : OpenString := { o with text := c :: o.text, escape := .plain }

def awaiting (o : OpenString) (escape : Escape) : OpenString := { o with escape := escape }

def spoil (o : OpenString) (fault : Fault) : OpenString :=
  { o with flaw := o.flaw.or (some fault), escape := .plain }

def content (o : OpenString) : Except Fault String :=
  match o.flaw, o.stray with
  | some fault, _ => .error fault
  | none, true => .error .notText
  | none, false => .ok (String.ofList o.text.reverse)

def unicode (o : OpenString) (high : Option Nat) (code : Nat) : OpenString :=
  match high with
  | none =>
    if 0xDC00 ≤ code ∧ code ≤ 0xDFFF then o.spoil .loneSurrogate
    else if 0xD800 ≤ code ∧ code ≤ 0xDBFF then o.awaiting (.surrogate code)
    else o.push (Char.ofNat code)
  | some high =>
    if 0xDC00 ≤ code ∧ code ≤ 0xDFFF then
      o.push (Char.ofNat (0x10000 + (high - 0xD800) * 0x400 + (code - 0xDC00)))
    else o.spoil .loneSurrogate

end OpenString

def simpleEscape : Char → Option Char
  | '"' => some '"'
  | '\\' => some '\\'
  | '/' => some '/'
  | 'b' => some '\x08'
  | 'f' => some '\x0c'
  | 'n' => some '\n'
  | 'r' => some '\r'
  | 't' => some '\t'
  | _ => none

def stepPlain (s : State) (isKey : Bool) (o : OpenString) : Option Char → State
  | none => s.await (.string isKey { o with stray := true })
  | some '"' =>
    if isKey then
      match s.stack with
      | .object done _ :: outer => ⟨.object done (some o.content) :: outer, s.root, .colon⟩
      | _ => s
    else
      s.give (match o.content with
        | .ok text => .string text
        | .error fault => .flawed fault)
  | some '\\' => s.await (.string isKey (o.awaiting .backslash))
  | some c =>
    if c.toNat < 0x20 then s.stop (o.flaw.getD .controlCharacter)
    else s.await (.string isKey (o.push c))

def stepBackslash (s : State) (isKey : Bool) (o : OpenString) (c : Option Char) : State :=
  if c = some 'u' then s.await (.string isKey (o.awaiting (.hex none 0 (some 0))))
  else
    match c.bind simpleEscape with
    | some c => s.await (.string isKey (o.push c))
    | none => s.stop (o.flaw.getD .invalidEscape)

def stepString (s : State) (isKey : Bool) (o : OpenString) (c : Option Char) : State :=
  match o.escape with
  | .plain => stepPlain s isKey o c
  | .backslash => stepBackslash s isKey o c
  | .hex high length code =>
    let length := length + (c.map (fun c => c.utf8Size)).getD 1
    let code := code.bind fun code => (c.bind hexValue).map (code * 16 + ·)
    if length < 4 then s.await (.string isKey (o.awaiting (.hex high length code)))
    else
      match code with
      | some code => s.await (.string isKey (o.unicode high code))
      | none => s.stop (o.flaw.getD .invalidEscape)
  | .surrogate high =>
    if c = some '\\' then s.await (.string isKey (o.awaiting (.surrogateBackslash high)))
    else stepPlain s isKey (o.spoil .openSurrogate) c
  | .surrogateBackslash high =>
    if c = some 'u' then s.await (.string isKey (o.awaiting (.hex (some high) 0 (some 0))))
    else stepBackslash s isKey (o.spoil .openSurrogate) c

def stepAfter (s : State) (c : Option Char) : State :=
  if c.any isSpace then s
  else
    match s.stack, c with
    | .array _ :: _, some ',' => s.await (.value .nextItem)
    | .array _ :: _, some ']' => s.close
    | .array _ :: _, _ => s.stop .expectedListEnd
    | .object _ _ :: _, some ',' => s.await .nextKey
    | .object _ _ :: _, some '\x7d' => s.close
    | .object _ _ :: _, _ => s.stop .expectedObjectEnd
    | [], _ => s.stop .trailing

def stepValue (s : State) (place : Place) : Option Char → State
  | some '\x7b' => s.openFrame (.object [] none) .firstKey
  | some '[' => s.openFrame (.array []) (.value .firstItem)
  | some ']' =>
    match place with
    | .firstItem => s.close
    | .nextItem => s.stop .commaBeforeListEnd
    | _ => s.stop .expectedValue
  | some '"' => s.await (.string false emptyString)
  | some 't' => s.await (.word ['r', 'u', 'e'] (.bool true))
  | some 'f' => s.await (.word ['a', 'l', 's', 'e'] (.bool false))
  | some 'n' => s.await (.word ['u', 'l', 'l'] .null)
  | some '-' => s.await (.number ⟨true, [], none, none⟩ .sign)
  | some '0' => s.await (.number ⟨false, ['0'], none, none⟩ .zero)
  | some c =>
    if isSpace c then s
    else if Decimal.isDigit c then s.await (.number ⟨false, [c], none, none⟩ .whole)
    else s.stop .expectedValue
  | none => s.stop .expectedValue

/-- A number token with one more character, or nothing when the character ends it. -/
def extendNumber (token : NumberToken) (phase : NumberPhase) (c : Option Char) :
    Except Fault (Option (NumberToken × NumberPhase)) :=
  let digit? := c.filter Decimal.isDigit
  let mark? := c.any fun c => c == 'e' || c == 'E'
  let toExponent : Option (NumberToken × NumberPhase) :=
    if mark? then some ({ token with exponent := some (false, []) }, .exponent) else none
  let fractionDigit (c : Char) : NumberToken :=
    { token with fraction := some (token.fraction.getD [] ++ [c]) }
  let exponentDigit (c : Char) : NumberToken :=
    { token with exponent := token.exponent.map fun (negative, digits) => (negative, digits ++ [c]) }
  match phase, digit? with
  | .sign, some c =>
    .ok (some ({ token with whole := [c] }, if c = '0' then .zero else .whole))
  | .sign, none => .error .invalidNumber
  | .zero, some _ => .error .invalidNumber
  | .zero, none | .whole, none =>
    if c = some '.' then .ok (some ({ token with fraction := some [] }, .point)) else .ok toExponent
  | .whole, some c => .ok (some ({ token with whole := token.whole ++ [c] }, .whole))
  | .point, some c | .fraction, some c => .ok (some (fractionDigit c, .fraction))
  | .point, none => .error .invalidNumber
  | .fraction, none => .ok toExponent
  | .exponent, some c | .exponentSign, some c | .exponentDigits, some c =>
    .ok (some (exponentDigit c, .exponentDigits))
  | .exponent, none =>
    if c = some '+' then .ok (some (token, .exponentSign))
    else if c = some '-' then
      .ok (some ({ token with exponent := some (true, []) }, .exponentSign))
    else .error .invalidNumber
  | .exponentSign, none => .error .invalidNumber
  | .exponentDigits, none => .ok none

def step (s : State) (c : Option Char) : State :=
  match s.mode with
  | .value place => stepValue s place c
  | .firstKey =>
    if c.any isSpace then s
    else if c = some '"' then s.await (.string true emptyString)
    else if c = some '\x7d' then s.close
    else s.stop .keyNotString
  | .nextKey =>
    if c.any isSpace then s
    else if c = some '"' then s.await (.string true emptyString)
    else if c = some '\x7d' then s.stop .commaBeforeObjectEnd
    else s.stop .keyNotString
  | .colon =>
    if c.any isSpace then s
    else if c = some ':' then s.await (.value .member)
    else s.stop .expectedColon
  | .after => stepAfter s c
  | .word [] value => stepAfter (s.give value) c
  | .word (next :: rest) value =>
    if c ≠ some next then s.stop .expectedWord
    else if rest = [] then s.give value
    else s.await (.word rest value)
  | .number token phase =>
    match extendNumber token phase c with
    | .error fault => s.stop fault
    | .ok (some (token, phase)) => s.await (.number token phase)
    | .ok none => stepAfter (s.give (numberDraft token)) c
  | .string isKey o => stepString s isKey o c
  | .stopped _ => s

/-- The fault of a text that ends in a given state; nothing where it may end. -/
def endFault (s : State) : Option Fault :=
  match s.mode with
  | .value .firstItem => some .endInList
  | .value _ => some .endInValue
  | .firstKey | .colon => some .endInObject
  | .nextKey => some .endAfterComma
  | .after =>
    match s.stack with
    | .array _ :: _ => some .endInList
    | .object _ _ :: _ => some .endInObject
    | [] => none
  | .word _ _ => some .endInValue
  | .number _ _ => some .endInNumber
  | .string _ o => some (o.flaw.getD .endInString)
  | .stopped fault => some fault

/-- A draft of the containers that are open, around what was read inside them. -/
def closeBroken (fault : Fault) : List Frame → Option Draft → Draft
  | [], inner => inner.getD (.broken fault)
  | .array done :: outer, inner =>
    closeBroken fault outer (some (.array (done.reverse ++ inner.toList) (some fault)))
  | .object done key :: outer, inner =>
    let last := key.toList.map fun key => (key, inner.getD (.broken fault))
    closeBroken fault outer (some (.object (done.reverse ++ last) (some fault)))

/-- A number ends with its text when its last part is complete. -/
def settle (s : State) : State :=
  match s.mode with
  | .number token phase =>
    if phase ∈ [.zero, .whole, .fraction, .exponentDigits] then s.give (numberDraft token) else s
  | _ => s

def finish (s : State) : Reading :=
  let s := settle s
  match s.root, endFault s with
  | some root, fault => ⟨root, fault⟩
  | none, some fault => ⟨closeBroken fault s.stack none, none⟩
  | none, none => ⟨.broken .endInValue, none⟩

end Reader

/-- Reads characters, among which `none` stands for bytes that are not text. -/
def readUnits (units : List (Option Char)) : Reading :=
  Reader.finish (units.foldl Reader.step Reader.start)

def readText (text : String) : Reading := readUnits (text.toList.map some)

def readBytes (bytes : Bytes) : Reading := readUnits (Text.units bytes)

end ClusterArchive.Json
