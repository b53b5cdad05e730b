import ClusterArchive.Json.Draft
import ClusterArchive.Decimal.Shortest
import ClusterArchive.Text.Quoted
import ClusterArchive.Time.Rfc3339

/-! Shapes of JSON records, and values of a shape read from drafts. Reading goes through the text
from left to right and reports the first thing that does not fit. -/

namespace ClusterArchive

/-- Whether a member may be missing. One that may be null is null when it is missing. -/
inductive Presence
  | required
  | nullable
  | preset (value : Json)

mutual

/-- What a value has to be. A name in the wording of a misfit goes with each shape. -/
inductive Shape
  | text (wording : String)
  | boolean
  | natural (limit : Nat) (wording : String)
  | time
  | list (items : Shape)
  | record (name : String) (fields : List Field)
  | choice (variants : List Field)
  | map

inductive Field
  | mk (name : String) (presence : Presence) (shape : Shape)

end

namespace Field

def name : Field → String
  | mk name _ _ => name

def presence : Field → Presence
  | mk _ presence _ => presence

def shape : Field → Shape
  | mk _ _ shape => shape

def isNullable (field : Field) : Bool :=
  match field.presence with
  | .nullable => true
  | _ => false

def preset? (field : Field) : Option Json :=
  match field.presence with
  | .required => none
  | .nullable => some .null
  | .preset value => some value

end Field

inductive Misfit
  | fault (fault : Fault)
  | missing (field : String)
  | repeated (field : String)
  | wrongType (found wording : String)
  | wrongValue (found wording : String)
  | wrongLength (found : Nat) (wording : String)
  | unknownVariant (name : String) (known : List String)
  | time (fault : TimeFault)
deriving DecidableEq, Repr

namespace Misfit

def ticked (text : String) : String := "`" ++ text ++ "`"

def message : Misfit → String
  | .fault cause => cause.message
  | missing field => "missing field " ++ ticked field
  | repeated field => "duplicate field " ++ ticked field
  | wrongType found wording => "invalid type: " ++ found ++ ", expected " ++ wording
  | wrongValue found wording => "invalid value: " ++ found ++ ", expected " ++ wording
  | wrongLength found wording => "invalid length " ++ toString found ++ ", expected " ++ wording
  | unknownVariant name known =>
    "unknown variant " ++ ticked name ++ ", expected " ++ " or ".intercalate (known.map ticked)
  | .time cause => cause.message

end Misfit

namespace Shape

def integerText (n : Int) : String := "integer " ++ Misfit.ticked (toString n)

def describe : Draft → Except Misfit String
  | .null => .ok "null"
  | .bool value => .ok ("boolean " ++ Misfit.ticked (toString value))
  | .number (.integer n) => .ok (integerText n)
  | .number (.double x) =>
    .ok ("floating point " ++ Misfit.ticked (String.ofList (Decimal.text x)))
  | .string value => .ok ("string " ++ Text.quoted value)
  | .flawed fault | .broken fault => .error (.fault fault)
  | .array .. => .ok "sequence"
  | .object .. => .ok "map"

def mismatch {α : Type} (wording : String) (draft : Draft) : Except Misfit α := do
  throw (.wrongType (← describe draft) wording)

def faulty {α : Type} (outcome : Except Fault α) : Except Misfit α := outcome.mapError .fault

/-- Where the text of a list ended that had all its items. -/
def closedList : Option Fault → Except Misfit Unit
  | none => .ok ()
  | some .endInList => .error (.fault .endInList)
  | some .commaBeforeListEnd => .error (.fault .commaBeforeListEnd)
  | some _ => .error (.fault .trailing)

/-- Where the text of an object ended that had its one member. -/
def closedChoice : Option Fault → Except Misfit Unit
  | none => .ok ()
  | some .endInObject => .error (.fault .endInObject)
  | some _ => .error (.fault .expectedValue)

/-- The members of a record in the order of its fields, from those that were read. -/
def assemble (done : List (String × Json)) : List Field → Except Misfit (List (String × Json))
  | [] => .ok []
  | field :: rest => do
    let value ← match done.lookup field.name with
      | some value => pure value
      | none =>
        match field.preset? with
        | some value => pure value
        | none => throw (.missing field.name)
    return (field.name, value) :: (← assemble done rest)

/-- The fields for which a list has no item. -/
def unlisted (name : String) (count index : Nat) : List Field → Except Misfit (List (String × Json))
  | [] => .ok []
  | field :: rest =>
    match field.presence with
    | .preset value => do return (field.name, value) :: (← unlisted name count (index + 1) rest)
    | _ => .error (.wrongLength index ("struct " ++ name ++ " with " ++ toString count ++ " elements"))

def scalar (shape : Shape) (draft : Draft) : Except Misfit Json :=
  match shape, draft with
  | text _, .string value => .ok (.string value)
  | text wording, _ => mismatch wording draft
  | boolean, .bool value => .ok (.bool value)
  | boolean, _ => mismatch "a boolean" draft
  | natural limit wording, .number (.integer n) =>
    if 0 ≤ n ∧ n < limit then .ok (.number (.integer n))
    else .error (.wrongValue (integerText n) wording)
  | natural _ wording, _ => mismatch wording draft
  | time, .string value =>
    match Rfc3339.read value with
    | .ok _ => .ok (.string value)
    | .error fault => .error (.time fault)
  | time, _ => mismatch "an RFC 3339 formatted date and time string" draft
  | list _, _ => mismatch "a sequence" draft
  | record name _, _ => mismatch ("struct " ++ name) draft
  | choice variants, .string name =>
    if (variants.map Field.name).contains name then
      .error (.wrongType "unit variant" "newtype variant")
    else .error (.unknownVariant name (variants.map Field.name))
  | choice _, .flawed fault | choice _, .broken fault => .error (.fault fault)
  | choice _, _ => .error (.fault .expectedValue)
  | map, _ => mismatch "a map" draft

mutual

/-- The value of a draft under a shape, with at most `room` nested containers. -/
def read (room : Nat) (nullable : Bool) (shape : Shape) : Draft → Except Misfit Json
  | .array items ending =>
    match shape, room with
    | list _, 0 | record .., 0 => .error (.fault .tooDeep)
    | list shape, room + 1 => do
      let items ← readItems room shape items
      faulty (Draft.closed ending)
      return .array items
    | record name fields, room + 1 => do
      let members ← readFields room name fields.length 0 fields ending items
      return .object members
    | shape, _ => scalar shape (.array items ending)
  | .object members ending =>
    match shape, room with
    | record .., 0 | choice _, 0 | map, 0 => .error (.fault .tooDeep)
    | record _ fields, room + 1 => do
      let done ← readMembers room fields [] members
      faulty (Draft.closed ending)
      return .object (← assemble done fields)
    | choice variants, room + 1 => readChoice room variants ending members
    | map, room + 1 => do
      let members ← faulty (Draft.toMembers room [] members)
      faulty (Draft.closed ending)
      return .object members
    | shape, _ => scalar shape (.object members ending)
  | .null => if nullable then .ok .null else scalar shape .null
  | draft => scalar shape draft

def readItems (room : Nat) (shape : Shape) : List Draft → Except Misfit (List Json)
  | [] => .ok []
  | item :: rest => do
    let item ← read room false shape item
    return item :: (← readItems room shape rest)

/-- The fields of a record that is written as a list. -/
def readFields (room : Nat) (name : String) (count index : Nat) :
    List Field → Option Fault → List Draft → Except Misfit (List (String × Json))
  | [], ending, [] => do
    closedList ending
    return []
  | [], _, _ :: _ => .error (.fault .trailing)
  | field :: fields, ending, [] => do
    faulty (Draft.closed ending)
    unlisted name count index (field :: fields)
  | field :: fields, ending, item :: rest => do
    let value ← read room field.isNullable field.shape item
    return (field.name, value) :: (← readFields room name count (index + 1) fields ending rest)

/-- Adds the members of a record to those that were read; members it does not have are skipped. -/
def readMembers (room : Nat) (fields : List Field) (done : List (String × Json)) :
    List (Except Fault String × Draft) → Except Misfit (List (String × Json))
  | [] => .ok done
  | (key, value) :: rest => do
    let key ← faulty key
    match fields.find? (·.name = key) with
    | none =>
      faulty value.skip
      readMembers room fields done rest
    | some field =>
      if (done.lookup key).isSome then throw (.repeated key)
      let value ← read room field.isNullable field.shape value
      readMembers room fields ((key, value) :: done) rest

def readChoice (room : Nat) (variants : List Field) (ending : Option Fault) :
    List (Except Fault String × Draft) → Except Misfit Json
  | [] =>
    match ending with
    | none | some .keyNotString => .error (.fault .expectedValue)
    | some fault => .error (.fault fault)
  | (key, value) :: rest => do
    let key ← faulty key
    match variants.find? (·.name = key) with
    | none => throw (.unknownVariant key (variants.map Field.name))
    | some field =>
      let value ← read room field.isNullable field.shape value
      if rest.isEmpty then closedChoice ending else throw (.fault .expectedValue)
      return .object [(key, value)]

end

def readWhole (shape : Shape) (reading : Reading) : Except Misfit Json := do
  let value ← shape.read Draft.depthLimit false reading.draft
  faulty (Draft.closed reading.rest)
  return value

end Shape

end ClusterArchive
