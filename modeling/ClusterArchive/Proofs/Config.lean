import ClusterArchive.Config
import Mathlib.Logic.Basic

/-! Flags and variables. A flag takes the place of its variable in the settings, but an environment
that would be refused without flags is refused with them, whatever they say. -/

namespace ClusterArchive

def Overrides.HasFlag (overrides : Overrides) (variableName : String) : Prop :=
  variableName = Config.hostRootVariable ∧ overrides.hostRoot.isSome ∨
  variableName = Config.stagingVariable ∧ overrides.stagingDirectory.isSome ∨
  variableName = Config.levelVariable ∧ overrides.compressionLevel.isSome

namespace Overrides

open Config

variable (overrides : Overrides)

/-- The variables, each with whether its setting has a flag. -/
def flags : List (String × Bool) :=
  [(hostRootVariable, overrides.hostRoot.isSome),
    (stagingVariable, overrides.stagingDirectory.isSome),
    (levelVariable, overrides.compressionLevel.isSome)]

theorem hasFlag_iff {variableName : String} {flagged : Bool}
    (listed : (variableName, flagged) ∈ overrides.flags) :
    overrides.HasFlag variableName ↔ flagged = true := by
  simp only [flags, List.mem_cons, Prod.mk.injEq, List.not_mem_nil, or_false] at listed
  rcases listed with ⟨rfl, rfl⟩ | ⟨rfl, rfl⟩ | ⟨rfl, rfl⟩ <;>
    simp [HasFlag, hostRootVariable, stagingVariable, levelVariable]

end Overrides

namespace Config

variable {lookup other : String → Option String} {overrides : Overrides}

/-- The level that variables give; none if the variable says no number. -/
def saidLevel? (lookup : String → Option String) : Option Nat :=
  match setting lookup levelVariable with
  | none => some standard.compressionLevel
  | some text => Decimal.plusNatural? text.toList

def isValid (config : Config) : Bool :=
  Path.isAbsolute config.hostRoot && config.compressionLevel ≤ 9

/-- The settings, each from its flag, or else its variable, or else the standard. A variable whose
setting has a flag is not read. -/
def intended (lookup : String → Option String) (overrides : Overrides) : Option Config :=
  ((overrides.compressionLevel.or (saidLevel? lookup)).map fun level =>
    { hostRoot := (overrides.hostRoot.or (setting lookup hostRootVariable)).getD standard.hostRoot
      stagingDirectory := overrides.stagingDirectory.or (setting lookup stagingVariable)
      compressionLevel := level }).filter isValid

/-- The variables would do if no flag were given. -/
def IsSound (lookup : String → Option String) : Prop := (intended lookup ⟨none, none, none⟩).isSome

instance (lookup : String → Option String) : Decidable (IsSound lookup) :=
  inferInstanceAs (Decidable (Option.isSome _ = true))

theorem isSound_iff (lookup : String → Option String) : IsSound lookup ↔
    Path.isAbsolute ((setting lookup hostRootVariable).getD standard.hostRoot) ∧
    ∃ level ≤ 9, saidLevel? lookup = some level := by
  cases said : saidLevel? lookup with
  | none => simp [IsSound, intended, said]
  | some level => simp [IsSound, intended, said, Option.isSome_filter, isValid]

theorem validate_cases (config : Config) :
    config.isValid = true ∧ config.validate = .ok () ∨
    config.isValid = false ∧ ∃ message, config.validate = .error (.validation message) := by
  by_cases absolute : Path.isAbsolute config.hostRoot
  · by_cases high : highestLevel < config.compressionLevel
    · have bound : ¬config.compressionLevel ≤ 9 := Nat.not_le.mpr high
      exact .inr ⟨by simp [isValid, bound], _, by simp only [validate, absolute, high]; rfl⟩
    · have bound : config.compressionLevel ≤ 9 := Nat.not_lt.mp high
      exact .inl ⟨by simp [isValid, absolute, bound], by simp [validate, absolute, high]⟩
  · exact .inr ⟨by simp [isValid, absolute], _, by simp only [validate, absolute]; rfl⟩

/-- Settings are read unless the level is no number, or far above the highest. -/
theorem read_cases (lookup : String → Option String) :
    (∃ level, saidLevel? lookup = some level ∧
      read lookup = .ok ⟨(setting lookup hostRootVariable).getD standard.hostRoot,
        setting lookup stagingVariable, level⟩) ∨
    (∀ level ≤ 9, saidLevel? lookup ≠ some level) ∧
      ∃ message, read lookup = .error (.validation message) := by
  cases said : setting lookup levelVariable with
  | none => exact .inl ⟨standard.compressionLevel, by simp only [saidLevel?, said],
      by simp only [read, said]; rfl⟩
  | some text =>
    have level : saidLevel? lookup = Decimal.plusNatural? text.toList := by
      simp only [saidLevel?, said]
    cases number : (Decimal.plusNatural? text.toList).filter (· < Nat.pow 2 32) with
    | some n =>
      obtain ⟨parsed, -⟩ := Option.filter_eq_some_iff.mp number
      exact .inl ⟨n, level.trans parsed, by simp only [read, said, number]; rfl⟩
    | none =>
      refine .inr ⟨fun n bound parsed => ?_, _, by simp only [read, said, number]; rfl⟩
      have small : n < Nat.pow 2 32 := Nat.lt_of_le_of_lt bound (by decide)
      rw [level.symm.trans parsed, Option.filter_some_pos (by simpa using small)] at number
      cases number

theorem ofEnvironment_cases (lookup : String → Option String) :
    (∃ config, intended lookup ⟨none, none, none⟩ = some config ∧
      ofEnvironment lookup = .ok config) ∨
    ¬IsSound lookup ∧ ∃ message, ofEnvironment lookup = .error (.validation message) := by
  rcases read_cases lookup with ⟨level, said, read_⟩ | ⟨unsaid, message, read_⟩
  · rcases validate_cases ⟨(setting lookup hostRootVariable).getD standard.hostRoot,
      setting lookup stagingVariable, level⟩ with ⟨valid, ok⟩ | ⟨invalid, message, error⟩
    · refine .inl ⟨_, ?_, by simp only [ofEnvironment, read_, ok, bind, Except.bind]; rfl⟩
      simp [intended, said, Option.filter, valid]
    · refine .inr ⟨?_, message, by simp only [ofEnvironment, read_, error, bind, Except.bind]⟩
      simp [IsSound, intended, said, Option.filter, invalid]
  · refine .inr ⟨?_, message, by simp only [ofEnvironment, read_, bind, Except.bind]⟩
    rw [isSound_iff]
    rintro ⟨-, level, bound, said⟩
    exact unsaid level bound said

theorem intended_override {config : Config} (alone : intended lookup ⟨none, none, none⟩ = some config)
    (overrides : Overrides) :
    intended lookup overrides = (some (config.override overrides)).filter isValid := by
  obtain ⟨settings, -⟩ := Option.filter_eq_some_iff.mp alone
  obtain ⟨level, said, rfl⟩ := Option.map_eq_some_iff.mp settings
  have said : saidLevel? lookup = some level := said
  obtain ⟨hostRoot, stagingDirectory, compressionLevel⟩ := overrides
  cases hostRoot <;> cases compressionLevel <;> simp [intended, said, override]

/-- The settings with flags are those intended, if the variables would do without. -/
theorem effective_cases (lookup : String → Option String) (overrides : Overrides) :
    (∃ config, IsSound lookup ∧ intended lookup overrides = some config ∧
      effective lookup overrides = .ok config) ∨
    (IsSound lookup → intended lookup overrides = none) ∧
      ∃ message, effective lookup overrides = .error (.validation message) := by
  rcases ofEnvironment_cases lookup with ⟨config, alone, read_⟩ | ⟨unsound, message, read_⟩
  · have sound : IsSound lookup := by simp [IsSound, alone]
    have settings := intended_override alone overrides
    rcases validate_cases (config.override overrides) with ⟨valid, ok⟩ | ⟨invalid, message, error⟩
    · have settings := settings.trans (Option.filter_some_pos valid)
      refine .inl ⟨_, sound, settings, ?_⟩
      simp only [effective, read_, ok, bind, Except.bind]
      rfl
    · refine .inr ⟨fun _ => settings.trans (by simp [Option.filter, invalid]), message, ?_⟩
      simp only [effective, read_, error, bind, Except.bind]
  · refine .inr ⟨fun sound => absurd sound unsound, message, ?_⟩
    simp only [effective, read_, bind, Except.bind]

theorem toOption_effective (lookup : String → Option String) (overrides : Overrides) :
    (effective lookup overrides).toOption =
      if IsSound lookup then intended lookup overrides else none := by
  rcases effective_cases lookup overrides with ⟨config, sound, settings, ok⟩ | ⟨none_, message, error⟩
  · rw [ok, if_pos sound, settings]
    rfl
  · rw [error]
    by_cases sound : IsSound lookup
    · rw [if_pos sound, none_ sound]
      rfl
    · rw [if_neg sound]
      rfl

theorem setting_congr {name : String} (same : other name = lookup name) :
    setting other name = setting lookup name := by
  rw [setting, setting, same]

theorem saidLevel?_congr (same : other levelVariable = lookup levelVariable) :
    saidLevel? other = saidLevel? lookup := by
  rw [saidLevel?, saidLevel?, setting_congr same]

theorem or_congr {α : Type} {flag a b : Option α} {name : String}
    (same : ∀ name, ¬overrides.HasFlag name → other name = lookup name)
    (listed : (name, flag.isSome) ∈ overrides.flags) (read : other name = lookup name → a = b) :
    flag.or a = flag.or b := by
  cases flag with
  | some _ => rfl
  | none =>
    have unflagged : ¬overrides.HasFlag name := by simp [overrides.hasFlag_iff listed]
    exact read (same name unflagged)

/-- A variable that has a flag is not read. -/
theorem intended_congr (same : ∀ name, ¬overrides.HasFlag name → other name = lookup name) :
    intended other overrides = intended lookup overrides := by
  have root : overrides.hostRoot.or (setting other hostRootVariable) =
      overrides.hostRoot.or (setting lookup hostRootVariable) :=
    or_congr same (by simp [Overrides.flags]) setting_congr
  have staging : overrides.stagingDirectory.or (setting other stagingVariable) =
      overrides.stagingDirectory.or (setting lookup stagingVariable) :=
    or_congr same (by simp [Overrides.flags]) setting_congr
  have level : overrides.compressionLevel.or (saidLevel? other) =
      overrides.compressionLevel.or (saidLevel? lookup) :=
    or_congr same (by simp [Overrides.flags]) saidLevel?_congr
  rw [intended, intended, root, staging, level]

theorem isSound_congr (same : ∀ name, name ≠ stagingVariable → other name = lookup name) :
    IsSound other ↔ IsSound lookup := by
  rw [isSound_iff, isSound_iff, setting_congr (same hostRootVariable (by decide)),
    saidLevel?_congr (same levelVariable (by decide))]

/-- Settings with flags are those intended, but only where the variables would do without flags. So a
variable that has a flag changes nothing but this, and that of the staging directory nothing at all. -/
theorem effective_settled (lookup : String → Option String) (overrides : Overrides) :
    (∀ config, effective lookup overrides = .ok config ↔
      IsSound lookup ∧ intended lookup overrides = some config) ∧
    (∀ error, effective lookup overrides = .error error → ∃ message, error = .validation message) ∧
    ∀ other : String → Option String,
      (∀ name, ¬overrides.HasFlag name → other name = lookup name) →
      intended other overrides = intended lookup overrides ∧
      ((effective other overrides).toOption = (effective lookup overrides).toOption ↔
        (IsSound other ↔ IsSound lookup) ∨ intended lookup overrides = none) ∧
      ((∀ name, name ≠ stagingVariable → other name = lookup name) →
        (effective other overrides).toOption = (effective lookup overrides).toOption) := by
  refine ⟨fun config => ?_, fun error failed => ?_, fun other same => ?_⟩
  · rcases effective_cases lookup overrides with ⟨_, sound, settings, ok⟩ | ⟨none_, message, error⟩
    · simp [ok, sound, settings]
    · simp only [error, reduceCtorEq, false_iff, not_and]
      intro sound settings
      cases (none_ sound).symm.trans settings
  · rcases effective_cases lookup overrides with ⟨_, -, -, ok⟩ | ⟨-, message, refused⟩
    · cases ok.symm.trans failed
    · exact ⟨message, Except.error.inj (failed.symm.trans refused)⟩
  · have settings := intended_congr same
    refine ⟨settings, ?_, fun staging => ?_⟩
    · rw [toOption_effective, toOption_effective, settings]
      cases intended lookup overrides <;> by_cases IsSound other <;> by_cases IsSound lookup <;>
        simp [*]
    · simp only [toOption_effective, settings, isSound_congr staging]

def onlyLevel (text : String) : String → Option String := fun name =>
  if name = levelVariable then some text else none

theorem onlyLevel_same (flag : overrides.compressionLevel.isSome) (a b variableName : String)
    (unflagged : ¬overrides.HasFlag variableName) :
    onlyLevel a variableName = onlyLevel b variableName := by
  have other : variableName ≠ levelVariable := by
    rintro rfl
    exact unflagged ((overrides.hasFlag_iff (by simp [Overrides.flags])).mpr flag)
  rw [onlyLevel, onlyLevel, if_neg other, if_neg other]

theorem effective_settled_five :
    effective (onlyLevel " 7 ") ⟨none, none, some 5⟩ = .ok ⟨"/tmp", none, 5⟩ ∧
    (effective (onlyLevel "+9") ⟨none, none, some 5⟩).toOption =
      (effective (onlyLevel " 7 ") ⟨none, none, some 5⟩).toOption := by
  obtain ⟨accepted, -, others⟩ := effective_settled (onlyLevel " 7 ") ⟨none, none, some 5⟩
  have sound : IsSound (onlyLevel " 7 ") := by decide
  have soundOther : IsSound (onlyLevel "+9") := by decide
  exact ⟨(accepted _).mpr ⟨sound, by decide⟩,
    (others (onlyLevel "+9") (onlyLevel_same rfl _ _)).2.1.mpr
      (.inl ⟨fun _ => sound, fun _ => soundOther⟩)⟩

/-- A level that is no number is refused, though a flag gives another. -/
theorem effective_refuses_overridden :
    (∀ name, ¬(⟨none, none, some 5⟩ : Overrides).HasFlag name →
      onlyLevel "max" name = onlyLevel "7" name) ∧
    intended (onlyLevel "max") ⟨none, none, some 5⟩ = some ⟨"/tmp", none, 5⟩ ∧
    effective (onlyLevel "7") ⟨none, none, some 5⟩ = .ok ⟨"/tmp", none, 5⟩ ∧
    effective (onlyLevel "max") ⟨none, none, some 5⟩ = .error (.validation
      "CLUSTERBACKUP_COMPRESSION_LEVEL must be an integer between 0 and 9, got \"max\"") :=
  ⟨onlyLevel_same rfl _ _, by decide, rfl, rfl⟩

end Config

end ClusterArchive
