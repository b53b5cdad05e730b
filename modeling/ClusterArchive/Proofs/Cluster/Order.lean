import ClusterArchive.Cluster.Memory
import Mathlib.Data.List.Basic

/-! The orders of resource types and of object keys are lawful: they compare field by field. -/

namespace ClusterArchive

theorem ResourceType.compare_eq : (compare : ResourceType → ResourceType → Ordering) =
    compareLex (compareOn ResourceType.group)
      (compareLex (compareOn ResourceType.version) (compareOn ResourceType.resource)) := by
  funext a b
  simp [compare, instOrdResourceType.ord, compareLex, compareOn]

instance : Std.TransOrd ResourceType := by
  unfold Std.TransOrd
  rw [ResourceType.compare_eq]
  infer_instance

instance : Std.LawfulEqOrd ResourceType where
  eq_of_compare := by
    intro a b same
    rw [ResourceType.compare_eq] at same
    simp only [compareLex, compareOn, Ordering.then_eq_eq, Std.compare_eq_iff_eq] at same
    obtain ⟨group, version, resource⟩ := same
    cases a; cases b; simp_all

theorem ObjectKey.compare_eq : (compare : ObjectKey → ObjectKey → Ordering) =
    compareLex (compareOn ObjectKey.type)
      (compareLex (compareOn ObjectKey.ns) (compareOn ObjectKey.name)) := by
  funext a b
  simp [compare, instOrdObjectKey.ord, compareLex, compareOn]

instance : Std.TransOrd ObjectKey := by
  unfold Std.TransOrd
  rw [ObjectKey.compare_eq]
  infer_instance

instance : Std.LawfulEqOrd ObjectKey where
  eq_of_compare := by
    intro a b same
    rw [ObjectKey.compare_eq] at same
    simp only [compareLex, compareOn, Ordering.then_eq_eq, Std.compare_eq_iff_eq] at same
    obtain ⟨type, ns, name⟩ := same
    cases a; cases b; simp_all

end ClusterArchive
