import ClusterArchive.Json.Draft
import ClusterArchive.Time.Rfc3339

/-! Documents of a server, read leniently: members that are not known are passed over, null counts as
missing, and of repeated members the last one counts. Times are kept to the second. -/

namespace ClusterArchive

mutual

inductive Schema
  | text
  | constant (text : String)
  | integer
  | boolean
  | time
  | anything
  | list (items : Schema)
  | dictionary (values : Schema)
  | record (members : List Member)

/-- A member that a record may have, with the value that stands for it when it is missing, if one
does. -/
inductive Member
  | mk (name : String) (fallback : Option Json) (schema : Schema)

end

namespace Member

def name : Member → String
  | mk name _ _ => name

def fallback : Member → Option Json
  | mk _ fallback _ => fallback

def schema : Member → Schema
  | mk _ _ schema => schema

/-- Whether null counts as missing; a constant has to be there. -/
def isNullable (member : Member) : Bool :=
  match member.schema with
  | .constant _ => false
  | _ => true

end Member

namespace Schema

def readScalar : Schema → Draft → Option Json
  | text, .string value => some (.string value)
  | constant expected, .string value => if value = expected then some (.string value) else none
  | integer, .number (.integer n) =>
    if -Nat.pow 2 63 ≤ n ∧ n < Nat.pow 2 63 then some (.number (.integer n)) else none
  | boolean, .bool value => some (.bool value)
  | time, .string value =>
    (Rfc3339.read value).toOption.map fun t => .string (String.ofList (Rfc3339.renderSeconds t))
  | anything, draft => (draft.toJson 0).toOption
  | _, _ => none

def fill (found : Document) : List Member → Document
  | [] => found
  | member :: rest =>
    match member.fallback with
    | some value =>
      if Assoc.contains member.name found then fill found rest
      else fill (Assoc.insert member.name value found) rest
    | none => fill found rest

mutual

/-- The value of a draft under a schema, with at most `room` nested containers. -/
def read (room : Nat) (schema : Schema) : Draft → Option Json
  | .array items ending =>
    match schema, room with
    | anything, room => ((Draft.array items ending).toJson room).toOption
    | list schema, room + 1 => do
      let items ← readItems room schema items
      if ending.isSome then none else some (.array items)
    | _, _ => none
  | .object members ending =>
    match schema, room with
    | anything, room => ((Draft.object members ending).toJson room).toOption
    | dictionary schema, room + 1 => do
      let values ← readValues room schema [] members
      if ending.isSome then none else some (.object values)
    | record known, room + 1 => do
      let found ← readMembers room known [] members
      if ending.isSome then none else some (.object (fill found known))
    | _, _ => none
  | draft => readScalar schema draft

def readItems (room : Nat) (schema : Schema) : List Draft → Option (List Json)
  | [] => some []
  | item :: rest => do
    let item ← read room schema item
    return item :: (← readItems room schema rest)

def readValues (room : Nat) (schema : Schema) (done : Document) :
    List (Except Fault String × Draft) → Option Document
  | [] => some done
  | (key, value) :: rest => do
    let key ← key.toOption
    let value ← read room schema value
    readValues room schema (Assoc.insert key value done) rest

def readMembers (room : Nat) (known : List Member) (done : Document) :
    List (Except Fault String × Draft) → Option Document
  | [] => some done
  | (key, value) :: rest => do
    let key ← key.toOption
    match known.find? (·.name = key) with
    | none =>
      if value.skip.isOk then readMembers room known done rest else none
    | some member =>
      match value, member.isNullable with
      | .null, true => readMembers room known (Assoc.erase key done) rest
      | value, _ => do
        let value ← read room member.schema value
        readMembers room known (Assoc.insert key value done) rest

end

def readWhole (schema : Schema) (reading : Reading) : Option Json :=
  if reading.rest.isSome then none else schema.read Draft.depthLimit reading.draft

end Schema

end ClusterArchive
