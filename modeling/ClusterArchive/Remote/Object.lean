import ClusterArchive.Json.Printer
import ClusterArchive.Json.Reader
import ClusterArchive.Remote.Schema

/-! API objects as a server takes and gives them. The metadata is typed; the version and kind of an
object are kept together or not at all. -/

namespace ClusterArchive

namespace Schema

def optional (name : String) (schema : Schema) : Member := .mk name none schema

def plainText (name : String) : Member := .mk name (some (.string "")) .text

def plainList (name : String) (items : Schema) : Member := .mk name (some (.array [])) (.list items)

def managedFields : Schema :=
  .record [optional "apiVersion" .text, optional "fieldsType" .text, optional "fieldsV1" .anything,
    optional "manager" .text, optional "operation" .text, optional "subresource" .text,
    optional "time" .time]

def ownerReference : Schema :=
  .record [plainText "apiVersion", optional "blockOwnerDeletion" .boolean, optional "controller" .boolean,
    plainText "kind", plainText "name", plainText "uid"]

def objectMetadata : Schema :=
  .record [optional "annotations" (.dictionary .text), optional "creationTimestamp" .time,
    optional "deletionGracePeriodSeconds" .integer, optional "deletionTimestamp" .time,
    optional "finalizers" (.list .text), optional "generateName" .text, optional "generation" .integer,
    optional "labels" (.dictionary .text), optional "managedFields" (.list managedFields),
    optional "name" .text, optional "namespace" .text, optional "ownerReferences" (.list ownerReference),
    optional "resourceVersion" .text, optional "selfLink" .text, optional "uid" .text]

def listMetadata : Schema :=
  .record [optional "continue" .text, optional "remainingItemCount" .integer,
    optional "resourceVersion" .text, optional "selfLink" .text]

end Schema

structure TypeTag where
  apiVersion : String
  kind : String
deriving DecidableEq, Repr

namespace TypeTag

def members (tag : TypeTag) : Document :=
  [("apiVersion", .string tag.apiVersion), ("kind", .string tag.kind)]

/-- Takes the version and kind out of members. Where one of them is no text, or is repeated, it is
dropped, and so is the other one before it; what follows is left as it is. -/
def take (version kind : Option String) :
    List (String × Json) → Option TypeTag × List (String × Json)
  | [] => ((do return ⟨← version, ← kind⟩), [])
  | ("apiVersion", value) :: rest =>
    match version, value with
    | none, .string text => take (some text) kind rest
    | _, _ => (none, rest)
  | ("kind", value) :: rest =>
    match kind, value with
    | none, .string text => take version (some text) rest
    | _, _ => (none, rest)
  | other :: rest =>
    let (tag, others) := take version kind rest
    (tag, other :: others)

end TypeTag

structure RemoteObject where
  tag : Option TypeTag
  metadata : Document
  content : Document
deriving Repr

namespace RemoteObject

def readNamed (room : Nat) : List (String × Draft) → Option (List (String × Json))
  | [] => some []
  | (key, draft) :: rest => do
    let value ← (draft.toJson room).toOption
    return (key, value) :: (← readNamed room rest)

def keyed : List (Except Fault String × Draft) → Option (List (String × Draft))
  | [] => some []
  | (key, draft) :: rest => do
    let key ← key.toOption
    return (key, draft) :: (← keyed rest)

/-- The one member of a key, if there is one; a repeated member is refused. -/
def single (key : String) (members : List (String × Draft)) : Option (Option Draft) :=
  match members.filter (·.1 = key) with
  | [] => some none
  | [(_, draft)] => some (some draft)
  | _ => none

def readMetadata (schema : Schema) (room : Nat) : Option Draft → Option Document
  | none => some []
  | some draft => (schema.read room draft).bind Json.object?

def ofMembers (members : List (String × Json)) : Document :=
  members.foldl (fun found (key, value) => Assoc.insert key value found) []

/-- The object of a draft, with at most `room` nested containers. -/
def read (room : Nat) : Draft → Option RemoteObject
  | .object members none =>
    match room with
    | 0 => none
    | room + 1 => do
      let named ← keyed members
      let metadata ← readMetadata .objectMetadata room (← single "metadata" named)
      let others ← readNamed room (named.filter (·.1 ≠ "metadata"))
      let (tag, content) := TypeTag.take none none others
      return ⟨tag, metadata, ofMembers content⟩
  | _ => none

def readAll (room : Nat) : List Draft → Option (List RemoteObject)
  | [] => some []
  | draft :: rest => do
    let object ← read room draft
    return object :: (← readAll room rest)

/-- The items of a list; null stands for an empty list. -/
def readItems (room : Nat) : Option Draft → Option (List RemoteObject)
  | some .null => some []
  | some (.array items none) =>
    match room with
    | 0 => none
    | room + 1 => readAll room items
  | _ => none

def readList (room : Nat) : Draft → Option (List RemoteObject)
  | .object members none =>
    match room with
    | 0 => none
    | room + 1 => do
      let named ← keyed members
      let _ ← readMetadata .listMetadata room (← single "metadata" named)
      let items ← readItems room (← single "items" named)
      let _ ← readNamed room (named.filter fun (key, _) => key ≠ "metadata" && key ≠ "items")
      return items
  | _ => none

def ofDocument? (object : Document) : Option RemoteObject :=
  let value := Json.object object
  read value.depth (.ofJson value)

def members (object : RemoteObject) : List (String × Json) :=
  (object.tag.map TypeTag.members).getD [] ++ ("metadata", .object object.metadata) :: object.content

def toDocument (object : RemoteObject) : Document := ofMembers object.members

def toBytes (object : RemoteObject) : Bytes := Bytes.ofText (Json.object object.members).compactText

def orTagged (object : RemoteObject) (tag : TypeTag) : RemoteObject :=
  { object with tag := some (object.tag.getD tag) }

end RemoteObject

end ClusterArchive
