import ClusterArchive.Decimal.Digits
import ClusterArchive.RunError
import ClusterArchive.Text.Blank
import ClusterArchive.Volume.Path

/-! Settings that all runs share. -/

namespace ClusterArchive

structure Config where
  hostRoot : String
  stagingDirectory : Option String
  compressionLevel : Nat
deriving DecidableEq, Repr

namespace Config

def standard : Config := ⟨"/tmp", none, 6⟩

def hostRootVariable : String := "CLUSTERBACKUP_HOST_ROOT"

def stagingVariable : String := "CLUSTERBACKUP_STAGING_DIR"

def levelVariable : String := "CLUSTERBACKUP_COMPRESSION_LEVEL"

def highestLevel : Nat := 9

def validate (config : Config) : Except RunError Unit :=
  if !Path.isAbsolute config.hostRoot then
    .error (.validation ("host root must be an absolute path, got " ++ config.hostRoot))
  else if highestLevel < config.compressionLevel then
    .error (.validation ("compression level must be between 0 and 9, got " ++
      toString config.compressionLevel))
  else .ok ()

/-- The trimmed value of a variable that is set and not blank. -/
def setting (lookup : String → Option String) (name : String) : Option String :=
  (lookup name).bind fun value => if Text.isBlankText value then none else some (Text.trim value)

/-- The settings that variables give, before they are validated. -/
def read (lookup : String → Option String) : Except RunError Config := do
  let level ← match setting lookup levelVariable with
    | none => pure standard.compressionLevel
    | some text =>
      match (Decimal.plusNatural? text.toList).filter (· < Nat.pow 2 32) with
      | some level => pure level
      | none =>
        throw (.validation (levelVariable ++ " must be an integer between 0 and 9, got " ++
          Text.quoted ((lookup levelVariable).getD "")))
  return ⟨(setting lookup hostRootVariable).getD standard.hostRoot,
    setting lookup stagingVariable, level⟩

def ofEnvironment (lookup : String → Option String) : Except RunError Config := do
  let config ← read lookup
  config.validate
  return config

end Config

structure Overrides where
  hostRoot : Option String
  stagingDirectory : Option String
  compressionLevel : Option Nat
deriving DecidableEq, Repr

namespace Config

def override (config : Config) (overrides : Overrides) : Config where
  hostRoot := overrides.hostRoot.getD config.hostRoot
  stagingDirectory := overrides.stagingDirectory.or config.stagingDirectory
  compressionLevel := overrides.compressionLevel.getD config.compressionLevel

/-- The settings of an environment, with some in the place of others. Both have to be valid. -/
def effective (lookup : String → Option String) (overrides : Overrides) :
    Except RunError Config := do
  let config := (← ofEnvironment lookup).override overrides
  config.validate
  return config

end Config

end ClusterArchive
