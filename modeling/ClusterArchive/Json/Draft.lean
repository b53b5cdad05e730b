import ClusterArchive.Json.Basic

/-! What a text holds as far as it could be read. A draft keeps members in the order of the text,
repeated ones too, and marks where reading stopped; so whoever turns it into a value meets the
defects of the text and the misfits of the value in one order, from left to right. -/

namespace ClusterArchive

inductive Fault
  | endInValue
  | endInNumber
  | endInList
  | endInObject
  | endInString
  | endAfterComma
  | expectedValue
  | expectedColon
  | expectedListEnd
  | expectedObjectEnd
  | expectedWord
  | keyNotString
  | commaBeforeListEnd
  | commaBeforeObjectEnd
  | trailing
  | invalidNumber
  | numberRange
  | invalidEscape
  | loneSurrogate
  | openSurrogate
  | notText
  | controlCharacter
  | tooDeep
deriving DecidableEq, Repr

/-- What is told of a fault. The line and the column that follow it are left out. -/
def Fault.message : Fault → String
  | endInValue | endInNumber | endAfterComma => "EOF while parsing a value"
  | endInList => "EOF while parsing a list"
  | endInObject => "EOF while parsing an object"
  | endInString => "EOF while parsing a string"
  | expectedValue => "expected value"
  | expectedColon => "expected \u0060:\u0060"
  | expectedListEnd => "expected \u0060,\u0060 or \u0060]\u0060"
  | expectedObjectEnd => "expected \u0060,\u0060 or \u0060\x7d\u0060"
  | expectedWord => "expected ident"
  | keyNotString => "key must be a string"
  | commaBeforeListEnd | commaBeforeObjectEnd => "trailing comma"
  | trailing => "trailing characters"
  | invalidNumber => "invalid number"
  | numberRange => "number out of range"
  | invalidEscape => "invalid escape"
  | loneSurrogate => "lone leading surrogate in hex escape"
  | openSurrogate => "unexpected end of hex escape"
  | notText => "invalid unicode code point"
  | controlCharacter => "control character (\\u0000-\\u001F) found while parsing a string"
  | tooDeep => "recursion limit exceeded"

/-- The fault as it is reported inside a value that is passed over, where a comma always announces
an item or a key, and a number that breaks off is a bad number. -/
def Fault.whenSkipped : Fault → Fault
  | endInNumber => invalidNumber
  | endAfterComma => endInObject
  | commaBeforeListEnd => expectedValue
  | commaBeforeObjectEnd => keyNotString
  | fault => fault

/-- A value as far as it could be read. `flawed` is a token that ends where it should and has no
value; `broken` is a value of which nothing can be told. A container whose text broke off carries
the fault. -/
inductive Draft
  | null
  | bool (value : Bool)
  | number (value : Number)
  | string (value : String)
  | flawed (fault : Fault)
  | broken (fault : Fault)
  | array (items : List Draft) (ending : Option Fault)
  | object (members : List (Except Fault String × Draft)) (ending : Option Fault)
deriving Inhabited

/-- A whole text: its first value and what is wrong after it. -/
structure Reading where
  draft : Draft
  rest : Option Fault

namespace Draft

def depthLimit : Nat := 127

def closed : Option Fault → Except Fault Unit
  | none => .ok ()
  | some fault => .error fault

mutual

/-- The value of a draft, with at most `room` nested containers. A repeated key keeps its last
value. -/
def toJson (room : Nat) : Draft → Except Fault Json
  | null => .ok .null
  | bool value => .ok (.bool value)
  | number value => .ok (.number value)
  | string value => .ok (.string value)
  | flawed fault | broken fault => .error fault
  | array items ending =>
    match room with
    | 0 => .error .tooDeep
    | room + 1 => do
      let items ← toItems room items
      closed ending
      return .array items
  | object members ending =>
    match room with
    | 0 => .error .tooDeep
    | room + 1 => do
      let members ← toMembers room [] members
      closed ending
      return .object members

def toItems (room : Nat) : List Draft → Except Fault (List Json)
  | [] => .ok []
  | item :: rest => do
    let item ← toJson room item
    let rest ← toItems room rest
    return item :: rest

def toMembers (room : Nat) (done : Document) :
    List (Except Fault String × Draft) → Except Fault Document
  | [] => .ok done
  | (key, value) :: rest => do
    let key ← key
    let value ← toJson room value
    toMembers room (Assoc.insert key value done) rest

end

mutual

/-- Passes over a value: only where its text breaks off matters. -/
def skip : Draft → Except Fault Unit
  | broken fault => .error fault.whenSkipped
  | array items ending => do
    skipItems items
    closed (ending.map Fault.whenSkipped)
  | object members ending => do
    skipMembers members
    closed (ending.map Fault.whenSkipped)
  | _ => .ok ()

def skipItems : List Draft → Except Fault Unit
  | [] => .ok ()
  | item :: rest => do
    skip item
    skipItems rest

def skipMembers : List (Except Fault String × Draft) → Except Fault Unit
  | [] => .ok ()
  | (_, value) :: rest => do
    skip value
    skipMembers rest

end

mutual

def ofJson : Json → Draft
  | .null => null
  | .bool value => bool value
  | .number value => number value
  | .string value => string value
  | .array items => array (ofItems items) none
  | .object members => object (ofMembers members) none

def ofItems : List Json → List Draft
  | [] => []
  | item :: rest => ofJson item :: ofItems rest

def ofMembers : List (String × Json) → List (Except Fault String × Draft)
  | [] => []
  | (key, value) :: rest => (.ok key, ofJson value) :: ofMembers rest

end

end Draft

def Reading.toJson (reading : Reading) : Except Fault Json := do
  let value ← reading.draft.toJson Draft.depthLimit
  Draft.closed reading.rest
  return value

end ClusterArchive
