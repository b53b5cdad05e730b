import ClusterArchive.Retention
import Mathlib.Data.List.DropRight

/-! What a policy spares. Ages are differences of instants, exact however far they reach; an archive
survives if it is not too old and among the last of those that are not. What survives once survives
again. -/

namespace ClusterArchive

/-- An instant in the range of the calendar, and not in a leap second. -/
def Instant.IsRegular (t : Instant) : Prop := t.isRepresentable = true ∧ t.isLeapSecond = false

instance (t : Instant) : Decidable t.IsRegular :=
  inferInstanceAs (Decidable (t.isRepresentable = true ∧ t.isLeapSecond = false))

namespace Instant

theorem nanosSince_of_regular {t start : Instant} (regular : t.IsRegular) (regularStart : start.IsRegular) :
    t.nanosSince start =
      (t.seconds - start.seconds) * nanosPerSecond + (t.nanos - start.nanos : Int) := by
  simp [nanosSince, regular.2, regularStart.2]

theorem before_iff {t other : Instant} : t.before other = true ↔
    t.seconds < other.seconds ∨ t.seconds = other.seconds ∧ t.nanos < other.nanos := by
  simp [before]

theorem isRepresentable_iff {t : Instant} : t.isRepresentable = true ↔
    Date.startOfYear firstYear * secondsPerDay ≤ t.seconds ∧
      t.seconds < Date.startOfYear (lastYear + 1) * secondsPerDay := by
  simp [isRepresentable]

theorem minusDays?_of_regular {t : Instant} (regular : t.IsRegular) (days : Nat) :
    t.minusDays? days = if (⟨t.seconds - days * secondsPerDay, t.nanos⟩ : Instant).isRepresentable then
      some ⟨t.seconds - days * secondsPerDay, t.nanos⟩ else none := by
  unfold minusDays?
  by_cases today : days = 0
  · simp [today]
  · simp [today, regular.2]

/-- Where there is an instant some days earlier, what was before it is more than these days old. -/
theorem before_minusDays? {now modified cutoff : Instant} {days : Nat} (regular : now.IsRegular)
    (regularModified : modified.IsRegular) (earlier : now.minusDays? days = some cutoff) :
    modified.before cutoff = true ↔
      days * secondsPerDay * nanosPerSecond < now.nanosSince modified := by
  rw [minusDays?_of_regular regular, Option.ite_none_right_eq_some] at earlier
  obtain ⟨_, is⟩ := earlier
  obtain rfl := Option.some.inj is
  have below : now.nanos < nanosPerSecond := by simpa [isLeapSecond] using regular.2
  have belowModified : modified.nanos < nanosPerSecond := by simpa [isLeapSecond] using regularModified.2
  rw [before_iff, nanosSince_of_regular regular regularModified]
  simp only [nanosPerSecond, secondsPerDay] at below belowModified ⊢
  omega

theorem nanosSince_le_of_minusDays? {now modified : Instant} {days : Nat} (regular : now.IsRegular)
    (regularModified : modified.IsRegular) (tooFar : now.minusDays? days = none) :
    now.nanosSince modified ≤ days * secondsPerDay * nanosPerSecond := by
  rw [minusDays?_of_regular regular, ite_eq_right_iff] at tooFar
  -- The cutoff lies before the first instant, and what was modified does not.
  have outside : ¬(⟨now.seconds - days * secondsPerDay, now.nanos⟩ : Instant).isRepresentable = true :=
    fun inside => by simpa using tooFar inside
  have below : now.nanos < nanosPerSecond := by simpa [isLeapSecond] using regular.2
  have inside := isRepresentable_iff.mp regular.1
  have insideModified := isRepresentable_iff.mp regularModified.1
  rw [isRepresentable_iff] at outside
  rw [nanosSince_of_regular regular regularModified]
  simp only [nanosPerSecond, secondsPerDay] at below outside inside insideModified ⊢
  omega

end Instant

namespace RetentionPolicy

variable {policy : RetentionPolicy} {now : Instant} {archives : List ArchiveInfo} {info : ArchiveInfo}

def Spares (policy : RetentionPolicy) (now : Instant) (info : ArchiveInfo) : Prop :=
  ∀ days ∈ policy.maxAgeDays,
    now.nanosSince info.modified ≤ days * Instant.secondsPerDay * Instant.nanosPerSecond

instance (policy : RetentionPolicy) (now : Instant) (info : ArchiveInfo) :
    Decidable (policy.Spares now info) :=
  inferInstanceAs (Decidable (∀ days ∈ policy.maxAgeDays, _ ≤ _))

def expired (policy : RetentionPolicy) (now : Instant) (archives : List ArchiveInfo) :
    List ArchiveInfo := archives.filter fun info => ¬policy.Spares now info

def young (policy : RetentionPolicy) (now : Instant) (archives : List ArchiveInfo) :
    List ArchiveInfo := archives.filter fun info => policy.Spares now info

/-- The last of the archives that are not too old, as many as are kept. -/
def survivors (policy : RetentionPolicy) (now : Instant) (archives : List ArchiveInfo) :
    List ArchiveInfo :=
  match policy.maxCount with
  | none => policy.young now archives
  | some most => (policy.young now archives).rtake most

def excess (policy : RetentionPolicy) (now : Instant) (archives : List ArchiveInfo) :
    List ArchiveInfo :=
  match policy.maxCount with
  | none => []
  | some most => (policy.young now archives).rdrop most

theorem excess_append_survivors (policy : RetentionPolicy) (now : Instant)
    (archives : List ArchiveInfo) :
    policy.excess now archives ++ policy.survivors now archives = policy.young now archives := by
  unfold excess survivors
  cases policy.maxCount with
  | none => rfl
  | some most => exact List.take_append_drop ..

theorem excess_sublist (policy : RetentionPolicy) (now : Instant) (archives : List ArchiveInfo) :
    (policy.excess now archives).Sublist (policy.young now archives) := by
  rw [← excess_append_survivors]
  exact List.sublist_append_left ..

theorem expired_eq {cutoff : Instant} (regular : now.IsRegular)
    (regularArchives : ∀ info ∈ archives, info.modified.IsRegular)
    (is : policy.cutoff? now = some cutoff) :
    Store.expired archives cutoff = (policy.expired now archives).map (·.name) := by
  obtain ⟨days, limit, earlier⟩ := Option.bind_eq_some_iff.mp is
  rw [Store.expired, expired]
  congr 1
  apply List.filter_congr
  intro info member
  rw [Bool.eq_iff_iff, Instant.before_minusDays? regular (regularArchives info member) earlier]
  simp [Spares, limit]

theorem spares_of_cutoff? (regular : now.IsRegular) (regularArchive : info.modified.IsRegular)
    (none_ : policy.cutoff? now = none) : policy.Spares now info := by
  intro days limit
  exact Instant.nanosSince_le_of_minusDays? regular regularArchive
    (Option.bind_eq_none_iff.mp none_ days limit)

theorem mem_young : info ∈ policy.young now archives ↔ info ∈ archives ∧ policy.Spares now info := by
  simp [young]

theorem mem_expired : info ∈ policy.expired now archives ↔ info ∈ archives ∧ ¬policy.Spares now info := by
  simp [expired]

theorem mem_young_of_survives (survives : info ∈ policy.survivors now archives) :
    info ∈ policy.young now archives := by
  rw [← policy.excess_append_survivors now archives]
  exact List.mem_append_right _ survives

theorem young_survivors (policy : RetentionPolicy) (now : Instant) (archives : List ArchiveInfo) :
    policy.young now (policy.survivors now archives) = policy.survivors now archives := by
  apply List.filter_eq_self.mpr
  intro info survives
  simpa using (mem_young.mp (mem_young_of_survives survives)).2

theorem expired_survivors (policy : RetentionPolicy) (now : Instant) (archives : List ArchiveInfo) :
    policy.expired now (policy.survivors now archives) = [] := by
  apply List.filter_eq_nil_iff.mpr
  intro info survives
  simpa using (mem_young.mp (mem_young_of_survives survives)).2

theorem excess_survivors (policy : RetentionPolicy) (now : Instant) (archives : List ArchiveInfo) :
    policy.excess now (policy.survivors now archives) = [] := by
  -- The survivors are no more than are kept, so nothing of them is too much.
  unfold excess
  rw [young_survivors]
  unfold survivors
  cases policy.maxCount with
  | none => rfl
  | some most =>
    simp only [List.rdrop, List.rtake, List.length_drop, List.take_eq_nil_iff]
    omega

theorem survivors_survivors (policy : RetentionPolicy) (now : Instant) (archives : List ArchiveInfo) :
    policy.survivors now (policy.survivors now archives) = policy.survivors now archives := by
  have parts := policy.excess_append_survivors now (policy.survivors now archives)
  rwa [excess_survivors, List.nil_append, young_survivors] at parts

end RetentionPolicy

end ClusterArchive
