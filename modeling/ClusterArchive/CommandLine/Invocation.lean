import ClusterArchive.CommandLine.Commands
import ClusterArchive.Engine.Basic
import ClusterArchive.Retention

/-! What the words of a command line ask for. Some options stand before the command or behind it; the
one behind it wins. Variables stand in for the destination and for JSON logs. -/

namespace ClusterArchive.CommandLine

inductive Command
  | backup (options : BackupOptions)
  | restore (archive : String)
  | cleanup (policy : RetentionPolicy)
  | purge (unasked : Bool)
  | list
deriving DecidableEq, Repr

structure Invocation where
  jsonLogs : Bool
  overrides : Overrides
  destination : String
  command : Command
deriving DecidableEq, Repr

namespace Invocation

def destinationVariable : String := "CLUSTERBACKUP_DESTINATION"

def jsonLogsVariable : String := "CLUSTERBACKUP_JSON_LOGS"

/-- The variables that an invocation or its settings depend on. -/
def variableNames : List String :=
  [destinationVariable, jsonLogsVariable, Config.hostRootVariable, Config.stagingVariable,
    Config.levelVariable]

/-- The command of a name; none if an option is missing that it needs. -/
def command? (options : Options) (name : String) : Option Command :=
  match name with
  | "backup" => some (.backup {
      includeNamespaces := options.texts .includeNamespace
      excludeNamespaces := options.texts .excludeNamespace
      includeClusterResources := !options.isGiven .noClusterResources
      resourceTypes := options.texts .resourceType })
  | "restore" => (options.text? .archive).map .restore
  | "cleanup" => some (.cleanup ⟨options.number? .maxAgeDays, options.number? .maxCount⟩)
  | "purge" => some (.purge (options.isGiven .force))
  | "list" => some .list
  | _ => none

/-- Help on commands, if they are there; help itself is one. -/
def helpOn : List String → Stop
  | [] => .help
  | [name] => if name = "help" || Assoc.contains name commands then .help else .usage
  | _ => .usage

/-- Whether logs are written as JSON. The variable counts unless the option stands on both sides of
the command, and then has to say it plainly. -/
def readJsonLogs (lookup : String → Option String) (before behind : Options) : Except Stop Bool :=
  let first := before.isGiven .jsonLogs
  let second := behind.isGiven .jsonLogs
  match lookup jsonLogsVariable with
  | some "true" => .ok true
  | none | some "false" => .ok (first || second)
  | some _ => if first && second then .ok true else .error .usage

def readOverrides (before behind : Options) : Overrides where
  hostRoot := (behind.text? .hostRoot).or (before.text? .hostRoot)
  stagingDirectory := (behind.text? .stagingDirectory).or (before.text? .stagingDirectory)
  compressionLevel := (behind.number? .compressionLevel).or (before.number? .compressionLevel)

def ofCommand (lookup : String → Option String) (before : Options) (name : String)
    (words : List String) : Except Stop Invocation := do
  let own := (Assoc.get? name commands).getD []
  let (behind, _) ← Options.read (.destination :: own ++ OptionSpec.shared) [] .empty none words
  let jsonLogs ← readJsonLogs lookup before behind
  match (behind.text? .destination).or (lookup destinationVariable), command? behind name with
  | some target, some command => return ⟨jsonLogs, readOverrides before behind, target, command⟩
  | _, _ => throw .usage

def read (lookup : String → Option String) (words : List String) : Except Stop Invocation := do
  let names := "help" :: commands.map (·.1)
  match ← Options.read (.version :: OptionSpec.shared) names .empty none words with
  | (_, none) => throw .usage
  | (before, some (name, rest)) =>
    if name = "help" then throw (helpOn rest) else ofCommand lookup before name rest

end Invocation

end ClusterArchive.CommandLine
