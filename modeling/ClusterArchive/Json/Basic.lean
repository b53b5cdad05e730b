import ClusterArchive.Assoc
import ClusterArchive.Decimal.Binary64

/-! JSON documents. The members of an object stand in ascending order of their keys. -/

namespace ClusterArchive

/-- An integer between `-2 ^ 63` and `2 ^ 64 - 1`, or a binary64 number. -/
inductive Number
  | integer (value : Int)
  | double (value : Binary64)
deriving DecidableEq, Repr

inductive Json
  | null
  | bool (value : Bool)
  | number (value : Number)
  | string (value : String)
  | array (items : List Json)
  | object (members : List (String × Json))
deriving Inhabited, Repr

abbrev Document := List (String × Json)

namespace Json

def natural (n : Nat) : Json := .number (.integer n)

def string? : Json → Option String
  | .string value => some value
  | _ => none

def object? : Json → Option Document
  | .object members => some members
  | _ => none

def member? (key : String) : Json → Option Json
  | .object members => Assoc.get? key members
  | _ => none

/-! Members of a given type; a value that has none of the key and type counts as empty. -/

def textAt (value : Json) (key : String) : String := ((value.member? key).bind string?).getD ""

def itemsAt (value : Json) (key : String) : List Json :=
  match value.member? key with
  | some (.array items) => items
  | _ => []

def textsAt (value : Json) (key : String) : List String := (value.itemsAt key).filterMap string?

def membersAt (value : Json) (key : String) : Document :=
  ((value.member? key).bind object?).getD []

def flagAt (value : Json) (key : String) : Bool :=
  match value.member? key with
  | some (.bool flag) => flag
  | _ => false

mutual

/-- Containers around the innermost value, the document itself included. -/
def depth : Json → Nat
  | .array items => depthItems items + 1
  | .object members => depthMembers members + 1
  | _ => 0

def depthItems : List Json → Nat
  | [] => 0
  | item :: rest => max (depth item) (depthItems rest)

def depthMembers : List (String × Json) → Nat
  | [] => 0
  | (_, value) :: rest => max (depth value) (depthMembers rest)

end

end Json

end ClusterArchive
