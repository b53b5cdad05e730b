import ClusterArchive.Codec.Shape
import ClusterArchive.Engine.Basic
import ClusterArchive.Json.Printer
import ClusterArchive.Json.Reader
import ClusterArchive.Retention

/-! The JSON form of results, policies and settings. Members are written in the order of the fields
and read in any order. -/

namespace ClusterArchive

/-- How the values of a type are written and read. The values to read have the shape, with all
members of records in their order. -/
structure Codec (α : Type) where
  shape : Shape
  encode : α → Json
  decode? : Json → Option α

namespace Codec

variable {α : Type}

def write (codec : Codec α) (value : α) : String := (codec.encode value).compactText

def read (codec : Codec α) (text : String) : Except RunError α := do
  let json ← (codec.shape.readWhole (Json.readText text)).mapError fun misfit => .json misfit.message
  match codec.decode? json with
  | some value => return value
  | none => throw (.json "unexpected value")

/-! Shapes of fields. -/

def string : Shape := .text "a string"

def path : Shape := .text "path string"

def u32 : Shape := .natural (Nat.pow 2 32) "u32"

def u64 : Shape := .natural (Nat.pow 2 64) "u64"

def usize : Shape := .natural (Nat.pow 2 64) "usize"

def needs (name : String) (shape : Shape) : Field := .mk name .required shape

def allows (name : String) (shape : Shape) : Field := .mk name .nullable shape

/-! Values of fields. -/

def natural? : Json → Option Nat
  | .number (.integer (.ofNat n)) => some n
  | _ => none

def bool? : Json → Option Bool
  | .bool value => some value
  | _ => none

def instant? : Json → Option Instant
  | .string text => (Rfc3339.read text).toOption
  | _ => none

def strings? : Json → Option (List String)
  | .array items => items.mapM Json.string?
  | _ => none

def orNull {β : Type} (decode? : Json → Option β) : Json → Option (Option β)
  | .null => some none
  | value => (decode? value).map some

def instant (t : Instant) : Json := .string (Rfc3339.text t)

def strings (items : List String) : Json := .array (items.map .string)

def optional {β : Type} (encode : β → Json) : Option β → Json
  | none => .null
  | some value => encode value

def resourceType : Codec ResourceType where
  shape := .record "GroupVersionResource"
    [needs "group" string, needs "version" string, needs "resource" string]
  encode type := .object
    [("group", .string type.group), ("version", .string type.version),
      ("resource", .string type.resource)]
  decode?
    | .object [(_, group), (_, version), (_, resource)] =>
      return ⟨← group.string?, ← version.string?, ← resource.string?⟩
    | _ => none

def resource : Codec Resource where
  shape := .record "ResourceCoordinate"
    [needs "gvr" resourceType.shape, needs "kind" string, needs "namespaced" .boolean,
      needs "verbs" (.list string)]
  encode r := .object
    [("gvr", resourceType.encode r.type), ("kind", .string r.kind), ("namespaced", .bool r.namespaced),
      ("verbs", strings r.verbs)]
  decode?
    | .object [(_, type), (_, kind), (_, namespaced), (_, verbs)] =>
      return .make (← resourceType.decode? type) (← kind.string?) (← bool? namespaced) (← strings? verbs)
    | _ => none

def config : Codec Config where
  shape := .record "EngineConfig"
    [needs "host_root" path, allows "staging_dir" path, needs "compression_level" u32]
  encode c := .object
    [("host_root", .string c.hostRoot), ("staging_dir", optional .string c.stagingDirectory),
      ("compression_level", .natural c.compressionLevel)]
  decode?
    | .object [(_, root), (_, staging), (_, level)] =>
      return ⟨← root.string?, ← orNull Json.string? staging, ← natural? level⟩
    | _ => none

def destination : Codec Destination where
  shape := .choice [needs "Local" path, needs "Host" string]
  encode
    | .local path => .object [("Local", .string path)]
    | .host path => .object [("Host", .string path)]
  decode?
    | .object [("Local", .string path)] => some (.local path)
    | .object [("Host", .string path)] => some (.host path)
    | _ => none

def backupOptions : Codec BackupOptions where
  shape := .record "BackupOptions"
    [needs "include_namespaces" (.list string), needs "exclude_namespaces" (.list string),
      needs "include_cluster_resources" .boolean, needs "resource_types" (.list string)]
  encode o := .object
    [("include_namespaces", strings o.includeNamespaces),
      ("exclude_namespaces", strings o.excludeNamespaces),
      ("include_cluster_resources", .bool o.includeClusterResources),
      ("resource_types", strings o.resourceTypes)]
  decode?
    | .object [(_, included), (_, excluded), (_, clusterResources), (_, types)] =>
      return ⟨← strings? included, ← strings? excluded, ← bool? clusterResources, ← strings? types⟩
    | _ => none

def retentionPolicy : Codec RetentionPolicy where
  shape := .record "RetentionPolicy" [allows "max_age_days" u32, allows "max_count" usize]
  encode p := .object
    [("max_age_days", optional .natural p.maxAgeDays), ("max_count", optional .natural p.maxCount)]
  decode?
    | .object [(_, days), (_, count)] => return ⟨← orNull natural? days, ← orNull natural? count⟩
    | _ => none

def cleanupReport : Codec CleanupReport where
  shape := .record "CleanupReport"
    [needs "deleted_by_age" (.list string), needs "deleted_by_count" (.list string),
      needs "retained" usize]
  encode r := .object
    [("deleted_by_age", strings r.deletedByAge), ("deleted_by_count", strings r.deletedByCount),
      ("retained", .natural r.retained)]
  decode?
    | .object [(_, byAge), (_, byCount), (_, retained)] =>
      return ⟨← strings? byAge, ← strings? byCount, ← natural? retained⟩
    | _ => none

def archiveInfo : Codec ArchiveInfo where
  shape := .record "ArchiveInfo"
    [needs "name" string, needs "path" path, needs "size_bytes" u64, needs "modified" .time]
  encode a := .object
    [("name", .string a.name), ("path", .string a.path), ("size_bytes", .natural a.size),
      ("modified", instant a.modified)]
  decode?
    | .object [(_, name), (_, path), (_, size), (_, modified)] =>
      return ⟨← name.string?, ← path.string?, ← natural? size, ← instant? modified⟩
    | _ => none

def backupResult : Codec BackupResult where
  shape := .record "BackupResult"
    [needs "object_count" usize, needs "archive_name" string, needs "archive_path" path,
      needs "archive_size" u64, needs "sha256" string, needs "compression_algorithm" string,
      needs "started_at" .time, needs "completed_at" .time]
  encode r := .object
    [("object_count", .natural r.objectCount), ("archive_name", .string r.archiveName),
      ("archive_path", .string r.archivePath), ("archive_size", .natural r.archiveSize),
      ("sha256", .string r.sha256), ("compression_algorithm", .string r.algorithm),
      ("started_at", instant r.startedAt), ("completed_at", instant r.completedAt)]
  decode?
    | .object [(_, count), (_, name), (_, path), (_, size), (_, digest), (_, algorithm), (_, started),
        (_, completed)] =>
      return ⟨← natural? count, ← name.string?, ← path.string?, ← natural? size, ← digest.string?,
        ← algorithm.string?, ← instant? started, ← instant? completed⟩
    | _ => none

def restoreResult : Codec RestoreResult where
  shape := .record "RestoreResult"
    [needs "archive_name" string, needs "applied" usize, needs "created" usize, needs "updated" usize,
      needs "started_at" .time, needs "completed_at" .time]
  encode r := .object
    [("archive_name", .string r.archiveName), ("applied", .natural r.applied),
      ("created", .natural r.created), ("updated", .natural r.updated),
      ("started_at", instant r.startedAt), ("completed_at", instant r.completedAt)]
  decode?
    | .object [(_, name), (_, applied), (_, created), (_, updated), (_, started), (_, completed)] =>
      return ⟨← name.string?, ← natural? applied, ← natural? created, ← natural? updated,
        ← instant? started, ← instant? completed⟩
    | _ => none

def document : Codec Document where
  shape := .map
  encode := .object
  decode? := Json.object?

end Codec

end ClusterArchive
