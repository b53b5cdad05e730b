import ClusterArchive.Engine.Basic
import ClusterArchive.Proofs.Restore.Upsert

/-! A cluster in memory beside a clock, as a run sees them. Nobody cancels the run. -/

namespace ClusterArchive

variable {τ : Type}

/-- The clock is read and the run is not cancelled. -/
def undisturbed (clock : τ → Instant × τ) : Surroundings (MemoryCluster × τ) where
  cancelled s := (false, s)
  now s := ((clock s.2).1, s.1, (clock s.2).2)

namespace MemoryCluster

def session : Client (MemoryCluster × τ) :=
  ⟨fun request s => ((s.1.perform false request).1, (s.1.perform false request).2, s.2)⟩

theorem session_list (s : MemoryCluster × τ) (resource : Resource) (ns : Option String) :
    session.lister.list resource ns s = (s.1.list resource.type ns, s) := by
  simp [Client.lister, session, perform]

theorem session_discover (s : MemoryCluster × τ) :
    session.discoverer.discover s = (s.1.discover, s) := by
  simp [Client.discoverer, session, perform]

theorem session_applyItem (item : RestoreItem) (s : MemoryCluster × τ) :
    session.applier.applyItem item s =
      ((client.applier.applyItem item s.1).1, (client.applier.applyItem item s.1).2, s.2) := by
  have replaced (s : MemoryCluster × τ) : session.applier.replace item s =
      ((client.applier.replace item s.1).1, (client.applier.replace item s.1).2, s.2) := by
    simp only [Applier.replace, Client.applier, session, client]
    rcases s.1.perform false (.get item.entry.type item.entry.ns item.entry.name) with ⟨live, next⟩
    cases live with
    | error error => rfl
    | ok live =>
      simp only []
      rcases next.perform false (.update item.entry.type item.entry.ns (item.desired live)) with
        ⟨stored, last⟩
      cases stored <;> rfl
  simp only [Applier.applyItem, Client.applier, session, client]
  rcases s.1.perform false (.create item.entry.type item.entry.ns item.object) with ⟨stored, next⟩
  cases stored with
  | ok stored => rfl
  | error error =>
    cases error with
    | alreadyExists => exact replaced (next, s.2)
    | _ => rfl

theorem session_applyInOrder (summary : ApplySummary) (items : List RestoreItem)
    (s : MemoryCluster × τ) :
    session.applier.applyInOrder uncancelled summary items s =
      ((client.applier.applyInOrder uncancelled summary items s.1).1,
        (client.applier.applyInOrder uncancelled summary items s.1).2, s.2) := by
  induction items generalizing summary s with
  | nil => rfl
  | cons item rest ih =>
    simp only [Applier.applyInOrder, uncancelled, session_applyItem]
    rcases client.applier.applyItem item s.1 with ⟨outcome, next⟩
    cases outcome with
    | error error => rfl
    | ok outcome => exact ih (summary.record outcome) (next, s.2)

end MemoryCluster

end ClusterArchive
