import ClusterArchive.Cluster.Capability
import ClusterArchive.Cluster.Document
import ClusterArchive.RunError
import ClusterArchive.Text.Blank

/-! The namespaces of a run. They are found when they are first needed and kept for the rest of the
run; a failure is not kept. -/

namespace ClusterArchive

structure NamespaceResolver where
  included : List String
  excluded : List String
  resolved : Option (List String)
deriving DecidableEq, Repr

namespace NamespaceResolver

/-- Trimmed texts that are not blank. -/
def normalize (texts : List String) : List String := (texts.map Text.trim).filter (· ≠ "")

def make (included excluded : List String) : NamespaceResolver :=
  ⟨(normalize included).eraseDups, normalize excluded, none⟩

def keep (resolver : NamespaceResolver) (objects : List Document) : List String :=
  (objects.filterMap Document.name?).filter fun name => !resolver.excluded.contains name

def listingFailure : ClusterError → RunError
  | .cancelled => .cancelled
  | error => .namespaceListing error

/-- Finds the namespaces: those to include if there are any, else all on the server that are not
excluded. -/
def find {σ : Type} (resolver : NamespaceResolver) (lister : Lister σ) (s : σ) :
    Except RunError (List String) × σ :=
  if resolver.included ≠ [] then (.ok resolver.included, s)
  else
    match lister.list Resource.namespaces none s with
    | (.ok objects, s) => (.ok (resolver.keep objects), s)
    | (.error error, s) => (.error (listingFailure error), s)

def resolve {σ : Type} (resolver : NamespaceResolver) (lister : Lister σ) (s : σ) :
    Except RunError (List String) × NamespaceResolver × σ :=
  match resolver.resolved with
  | some names => (.ok names, resolver, s)
  | none =>
    match resolver.find lister s with
    | (.ok names, s) => (.ok names, { resolver with resolved := some names }, s)
    | (.error error, s) => (.error error, resolver, s)

end NamespaceResolver

end ClusterArchive
