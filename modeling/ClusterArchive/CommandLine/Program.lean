import ClusterArchive.Cluster.Request
import ClusterArchive.CommandLine.Invocation
import ClusterArchive.CommandLine.Report
import ClusterArchive.Engine.Backup
import ClusterArchive.Engine.Runs

/-! The program: it reads its words and variables, works on a world and tells what it prints. A
question is left to the one who runs it. -/

namespace ClusterArchive.CommandLine

variable {σ : Type}

/-- What the program is run with: variables, a clock and, if one can be reached, a cluster. -/
structure Setting (σ : Type) where
  lookup : String → Option String
  around : Surroundings σ
  cluster : Option (Client σ)

/-- How a run ended. Wrong usage has no message of its own. -/
inductive Ending
  | done
  | failed (message : String)
  | misused
deriving DecidableEq, Repr

def Ending.exitCode : Ending → Nat
  | done => 0
  | failed _ => 1
  | misused => 2

structure Outcome (σ : Type) where
  ending : Ending
  lines : List String
  world : World σ

/-- An outcome, or a question whose answer leads to one. -/
inductive Step (σ : Type)
  | finished (outcome : Outcome σ)
  | question (prompt : String) (next : String → Outcome σ)

namespace Outcome

def failed (world : World σ) (message : String) : Outcome σ := ⟨.failed message, [], world⟩

/-- The outcome of a run, with the lines that tell about its result. -/
def ofRun {α : Type} (lines : α → List String) : Except RunError α × World σ → Outcome σ
  | (.ok result, world) => ⟨.done, lines result, world⟩
  | (.error error, world) => .failed world error.message

end Outcome

namespace Program

def name : String := "clusterbackup"

def version : String := "0.1.0"

def usageLine : String :=
  "Usage: " ++ name ++ " [OPTIONS] <" ++ "|".intercalate (commands.map (·.1)) ++ ">"

def purgePrompt (destination : String) : String :=
  "Delete every archive at '" ++ destination ++ "'? (y/N): "

/-- An answer is a yes if its first letter is a `y`, in either case. -/
def isYes (answer : String) : Bool :=
  match Text.trimLeft answer.toList with
  | 'y' :: _ | 'Y' :: _ => true
  | _ => false

def onCluster (setting : Setting σ) (world : World σ) (work : Client σ → Outcome σ) : Outcome σ :=
  match setting.cluster with
  | some client => work client
  | none => .failed world "Failed to connect to the cluster"

def purge (engine : Engine) (setting : Setting σ) (destination : String) (world : World σ) :
    Outcome σ :=
  .ofRun cleanupLines (engine.runPurge setting.around destination world)

def perform (engine : Engine) (setting : Setting σ) (destination : String) (world : World σ) :
    Command → Step σ
  | .backup options => .finished (onCluster setting world fun client =>
      .ofRun backupLines
        (engine.runBackup setting.around client.discoverer client.lister destination options world))
  | .restore archive => .finished (onCluster setting world fun client =>
      .ofRun restoreLines (engine.runRestore setting.around client.applier destination archive world))
  | .cleanup policy => .finished
      (if policy.isUnbounded then .failed world "cleanup needs --max-age-days, --max-count or both"
      else .ofRun cleanupLines (engine.runCleanup setting.around destination policy world))
  | .purge true => .finished (purge engine setting destination world)
  | .purge false => .question (purgePrompt destination) fun answer =>
      if isYes answer then purge engine setting destination world
      else ⟨.done, ["Purge cancelled"], world⟩
  | .list => .finished
      (.ofRun archiveLines (engine.listArchives world.volume destination, world))

def engine (lookup : String → Option String) (invocation : Invocation) : Except RunError Engine :=
  (Config.effective lookup invocation.overrides).map fun config => ⟨config, .tarGzip⟩

/-- The directory that the words are about, if they name one. -/
def directory? (lookup : String → Option String) (words : List String) : Option String := do
  let invocation ← (Invocation.read lookup words).toOption
  let engine ← (engine lookup invocation).toOption
  (engine.resolve invocation.destination).toOption

def run (setting : Setting σ) (words : List String) (world : World σ) : Step σ :=
  match Invocation.read setting.lookup words with
  | .error .usage => .finished ⟨.misused, [], world⟩
  | .error .help => .finished ⟨.done, [usageLine], world⟩
  | .error .version => .finished ⟨.done, [name ++ " " ++ version], world⟩
  | .ok invocation =>
    match engine setting.lookup invocation with
    | .error error => .finished (.failed world error.message)
    | .ok engine => perform engine setting invocation.destination world invocation.command

end Program

end ClusterArchive.CommandLine
