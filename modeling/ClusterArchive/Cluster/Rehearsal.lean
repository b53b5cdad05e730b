import ClusterArchive.Cluster.Interruptible
import ClusterArchive.Cluster.Memory

/-! A cluster in memory on which runs are rehearsed: the calls are counted and recorded, and each can
be given another outcome than the cluster's, or be the moment at which the run is cancelled. -/

namespace ClusterArchive

def MemoryCluster.arrange (cluster : MemoryCluster) (arrangement : Arrangement) :
    Except ClusterError MemoryCluster :=
  match cluster.undergo arrangement with
  | (.ok _, after) => .ok after
  | (.error error, _) => .error error

structure CallFault where
  call : Nat
  cancelBefore : Bool
  cancelAfter : Bool
  endless : Bool
  error : Option ClusterError
  report : Option DiscoveryReport
  objects : Option (List Document)
  object : Option Document

namespace CallFault

/-- The answer that replaces that of the cluster, if the request is of its kind. -/
def answer? {α : Type} (fault : CallFault) : Request α → Option α
  | .discover => fault.report
  | .list .. => fault.objects
  | .get .. => fault.object
  | .create .. => none
  | .update .. => none

def outcome? {α : Type} (fault : CallFault) (request : Request α) : Option (Except ClusterError α) :=
  match fault.error with
  | some error => some (.error error)
  | none => (fault.answer? request).map .ok

end CallFault

/-- The calls stand in the order in which they were made, and the first has number 1. -/
structure Rehearsal where
  cluster : MemoryCluster
  faults : List CallFault
  calls : List Call
  cancelled : Bool

namespace Rehearsal

def start (cluster : MemoryCluster) (faults : List CallFault) : Rehearsal := ⟨cluster, faults, [], false⟩

def isCancelled (s : Rehearsal) : Bool × Rehearsal := (s.cancelled, s)

def fault? (s : Rehearsal) : Option CallFault := s.faults.find? (·.call = s.calls.length + 1)

def record (s : Rehearsal) (call : Call) : Rehearsal := { s with calls := s.calls ++ [call] }

def cancelIf (s : Rehearsal) (now : Bool) : Rehearsal := { s with cancelled := s.cancelled || now }

/-- Asks the cluster itself, which attends to the cancellation. -/
def reach {α : Type} (s : Rehearsal) (request : Request α) : Except ClusterError α × Rehearsal :=
  let (outcome, cluster) := s.cluster.perform s.cancelled request
  (outcome, { s with cluster := cluster })

/-- Makes the next call, which is not endless. -/
def answer {α : Type} (fault : Option CallFault) (request : Request α) (s : Rehearsal) :
    Except ClusterError α × Rehearsal :=
  let s := (s.record request.call).cancelIf ((fault.map CallFault.cancelBefore).getD false)
  let (outcome, s) := match fault.bind (CallFault.outcome? · request) with
    | some outcome => (outcome, s)
    | none => s.reach request
  (outcome, s.cancelIf ((fault.map CallFault.cancelAfter).getD false))

def client : Client Rehearsal where
  perform request s := answer s.fault? request s

def slowClient : SlowClient Rehearsal where
  attempt request s :=
    let fault := s.fault?
    if (fault.map CallFault.endless).getD false then (none, (s.record .endless).cancelIf true)
    else
      let (outcome, s) := answer fault request s
      (some outcome, s)

def interruptible : Client Rehearsal := slowClient.interruptible isCancelled

end Rehearsal

end ClusterArchive
