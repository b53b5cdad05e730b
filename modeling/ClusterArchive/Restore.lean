import ClusterArchive.Cluster.Capability
import ClusterArchive.Cluster.Document
import ClusterArchive.Entry
import ClusterArchive.Json.Reader

/-! Restoring objects. All entries of an archive are decoded before the first object is applied.
Cluster-scoped objects come first, so that namespaces exist before what is in them; each object is
created, or updated when it exists. -/

namespace ClusterArchive

structure RestoreItem where
  entry : Entry
  object : Document
deriving Repr, Inhabited

/-- The files of an archive in the order of the stream, and the failure that ended it, if one did. -/
structure Delivery where
  files : List (String × Bytes)
  failure : Option RunError
deriving Repr

namespace RestoreItem

/-- Reconciles an entry with an object. The name in the object wins over that in the path; the
namespace is that of the path. -/
def prepare (path : String) (entry : Entry) (object : Document) : Except RunError RestoreItem :=
  let name := object.name?.getD entry.name
  if name = "" then .error (.missingName path)
  else
    let named := object.stamp "name" name
    let placed := match entry.ns with
      | some ns => named.stamp "namespace" ns
      | none => named
    .ok ⟨{ entry with name := name }, placed⟩

/-- The object of an archived body. The reason why there is none is told without its place in the
body. -/
def readBody (path : String) (body : Bytes) : Except RunError Document :=
  match (Json.readBytes body).toJson with
  | .ok (.object object) => .ok object
  | .ok _ => .error (.malformedEntry path "body is not a JSON object")
  | .error fault => .error (.malformedEntry path ("invalid JSON body: " ++ fault.message))

/-- The item of a file; nothing for a file that holds no object. -/
def ofFile (path : String) (body : Bytes) : Except RunError (Option RestoreItem) := do
  if (Text.stripSuffix? Entry.ending path).isNone then return none
  let entry ← Entry.ofPath path
  let object ← readBody path body
  return some (← prepare path entry object)

def ofFiles (failure : Option RunError) : List (String × Bytes) → Except RunError (List RestoreItem)
  | [] =>
    match failure with
    | some error => .error error
    | none => .ok []
  | (path, body) :: rest => do
    let item ← ofFile path body
    let items ← ofFiles failure rest
    return item.toList ++ items

def ofDelivery (delivery : Delivery) : Except RunError (List RestoreItem) :=
  ofFiles delivery.failure delivery.files

/-- The item with the version of an object that is already there. -/
def desired (item : RestoreItem) (live : Document) : Document :=
  match live.resourceVersion? with
  | some version => item.object.stamp "resourceVersion" version
  | none => item.object

end RestoreItem

inductive ApplyOutcome
  | created
  | updated
deriving DecidableEq, Repr

structure ApplySummary where
  created : Nat
  updated : Nat
deriving DecidableEq, Repr

namespace ApplySummary

def applied (summary : ApplySummary) : Nat := summary.created + summary.updated

def record (summary : ApplySummary) : ApplyOutcome → ApplySummary
  | .created => { summary with created := summary.created + 1 }
  | .updated => { summary with updated := summary.updated + 1 }

end ApplySummary

namespace Applier

variable {σ : Type}

def failure (action : ApplyAction) (entry : Entry) : ClusterError → RunError
  | .cancelled => .cancelled
  | error => .apply action (entry.ns.getD "") entry.name error

def replace (applier : Applier σ) (item : RestoreItem) (s : σ) :
    Except RunError ApplyOutcome × σ :=
  match applier.get item.entry.type item.entry.ns item.entry.name s with
  | (.error error, s) => (.error (failure .fetch item.entry error), s)
  | (.ok live, s) =>
    match applier.update item.entry.type item.entry.ns (item.desired live) s with
    | (.error error, s) => (.error (failure .update item.entry error), s)
    | (.ok _, s) => (.ok .updated, s)

/-- Creates the object of an item, or updates it when it exists. -/
def applyItem (applier : Applier σ) (item : RestoreItem) (s : σ) :
    Except RunError ApplyOutcome × σ :=
  match applier.create item.entry.type item.entry.ns item.object s with
  | (.ok _, s) => (.ok .created, s)
  | (.error (.alreadyExists ..), s) => applier.replace item s
  | (.error error, s) => (.error (failure .create item.entry error), s)

/-- Applies items in their order, up to the first failure or the cancellation. -/
def applyInOrder (applier : Applier σ) (cancelled : σ → Bool × σ) (summary : ApplySummary) :
    List RestoreItem → σ → Except RunError ApplySummary × σ
  | [], s => (.ok summary, s)
  | item :: rest, s =>
    match cancelled s with
    | (true, s) => (.error .cancelled, s)
    | (false, s) =>
      match applier.applyItem item s with
      | (.error error, s) => (.error error, s)
      | (.ok outcome, s) => applier.applyInOrder cancelled (summary.record outcome) rest s

/-- Cluster-scoped items before those in namespaces. -/
def schedule (items : List RestoreItem) : List RestoreItem :=
  items.filter (·.entry.isClusterScoped) ++ items.filter (!·.entry.isClusterScoped)

def applyItems (applier : Applier σ) (cancelled : σ → Bool × σ) (items : List RestoreItem) (s : σ) :
    Except RunError ApplySummary × σ :=
  applier.applyInOrder cancelled ⟨0, 0⟩ (schedule items) s

end Applier

end ClusterArchive
