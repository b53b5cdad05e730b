import ClusterArchive.Cluster.Resource

/-! Why a run failed. -/

namespace ClusterArchive

inductive ApplyAction
  | create
  | fetch
  | update
deriving DecidableEq, Repr

def ApplyAction.text : ApplyAction → String
  | create => "create"
  | fetch => "fetch existing"
  | update => "update"

inductive RunError
  | io (detail : String)
  | json (detail : String)
  | archive (detail : String)
  | storage (detail : String)
  | validation (detail : String)
  | namespaceListing (source : ClusterError)
  | malformedEntry (path reason : String)
  | missingName (path : String)
  | apply (action : ApplyAction) (ns name : String) (source : ClusterError)
  | archiveNotFound (path : String)
  | archiveExists (path : String)
  | retention (file detail : String)
  | integrity (expected actual : String)
  | observability (detail : String)
  | cancelled
deriving DecidableEq, Repr

def RunError.message : RunError → String
  | io detail => "I/O error: " ++ detail
  | json detail => "JSON error: " ++ detail
  | archive detail => "Archive error: " ++ detail
  | storage detail => "Storage error: " ++ detail
  | validation detail => "Validation error: " ++ detail
  | namespaceListing source => "Failed to list namespaces: " ++ source.message
  | malformedEntry path reason => "Malformed archive entry " ++ Text.quoted path ++ ": " ++ reason
  | missingName path => "Archive entry " ++ Text.quoted path ++ " has no resolvable resource name"
  | apply action ns name source =>
    "Failed to " ++ action.text ++ " resource " ++ ns ++ "/" ++ name ++ ": " ++ source.message
  | archiveNotFound path => "Archive not found: " ++ path
  | archiveExists path => "Archive already exists: " ++ path
  | retention file detail => "Failed to remove archive " ++ Text.quoted file ++ ": " ++ detail
  | integrity expected actual =>
    "Integrity check failed: expected hash " ++ expected ++ ", got " ++ actual
  | observability detail => "Observability error: " ++ detail
  | cancelled => "Operation cancelled"

end ClusterArchive
