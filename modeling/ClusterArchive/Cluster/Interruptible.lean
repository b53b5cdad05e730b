import ClusterArchive.Cluster.Request

/-! Calls that may not end, made to end by cancellation. No call is begun once the run is cancelled;
one that was begun ends with its outcome, or as cancelled if it has none. -/

namespace ClusterArchive

/-- A call with an outcome, or without one while it waits for its cancellation. -/
abbrev SlowCall (σ α : Type) := σ → Option (Except ClusterError α) × σ

structure SlowClient (σ : Type) where
  attempt : {α : Type} → Request α → SlowCall σ α

namespace SlowClient

variable {σ : Type}

def ofClient (client : Client σ) : SlowClient σ where
  attempt request s :=
    let (outcome, s) := client.perform request s
    (some outcome, s)

def interruptible (client : SlowClient σ) (cancelled : σ → Bool × σ) : Client σ where
  perform request s :=
    match cancelled s with
    | (true, s) => (.error .cancelled, s)
    | (false, s) =>
      match client.attempt request s with
      | (some outcome, s) => (outcome, s)
      | (none, s) => (.error .cancelled, s)

end SlowClient

end ClusterArchive
