import ClusterArchive.RunError
import ClusterArchive.Text.Split

/-! Archive entries. The path of an object is its identity:
`cluster/[group/]version/resource/name.json` for a cluster-scoped object and
`namespaces/namespace/[group/]version/resource/name.json` for another. The core group has no
segment, so the number of segments tells whether there is a group. -/

namespace ClusterArchive

/-- The identity of an object in an archive; cluster-scoped objects have no namespace. -/
structure Entry where
  type : ResourceType
  ns : Option String
  name : String
deriving DecidableEq, Ord, Repr, Inhabited

inductive EntryFault
  | notJson
  | badSegment (segment : String)
  | missingNamespace
  | unknownScope
  | segmentCount (found : Nat)
  | badName
deriving DecidableEq, Repr

def EntryFault.reason : EntryFault → String
  | notJson => "not a .json entry"
  | badSegment segment => "invalid path segment " ++ Text.quoted segment
  | missingNamespace => "missing namespace segment"
  | unknownScope => "expected a cluster/ or namespaces/ prefix"
  | segmentCount found =>
    "expected 2 or 3 segments before the file name, found " ++ toString found
  | badName => "invalid object name"

namespace Entry

def ending : String := ".json"

def isClusterScoped (entry : Entry) : Bool := entry.ns.isNone

def directories (entry : Entry) : List String :=
  (match entry.ns with
    | some ns => ["namespaces", ns]
    | none => ["cluster"]) ++
  (if entry.type.group = "" then [] else [entry.type.group]) ++
  [entry.type.version, entry.type.resource]

def path (entry : Entry) : String :=
  "/".intercalate entry.directories ++ "/" ++ entry.name ++ ending

/-- A segment that would not stand for itself in a path. -/
def isUnsafe (segment : String) : Bool := segment = "" || segment = "." || segment = ".."

/-- The entry of the segments after the scope; the last is the name. -/
def ofSegments (ns : Option String) : List String → Except EntryFault Entry
  | [version, resource, name] => checked ⟨⟨"", version, resource⟩, ns, name⟩
  | [group, version, resource, name] => checked ⟨⟨group, version, resource⟩, ns, name⟩
  | segments => .error (.segmentCount (segments.length - 1))
where
  checked (entry : Entry) : Except EntryFault Entry :=
    if entry.name = "." ∨ entry.name = ".." then .error .badName else .ok entry

/-- The entry of a path. A leading `./` is ignored; the name may be empty. -/
def parse (path : String) : Except EntryFault Entry :=
  match Text.stripSuffix? ending ((Text.stripPrefix? "./" path).getD path) with
  | none => .error .notJson
  | some stem =>
    let segments := Text.splitSlash stem
    match segments.dropLast.find? isUnsafe with
    | some bad => .error (.badSegment bad)
    | none =>
      match segments with
      | "cluster" :: rest => ofSegments none rest
      | ["namespaces"] => .error .missingNamespace
      | "namespaces" :: ns :: rest => ofSegments (some ns) rest
      | _ => .error .unknownScope

def ofPath (path : String) : Except RunError Entry :=
  (parse path).mapError fun fault => .malformedEntry path fault.reason

end Entry

end ClusterArchive
