import ClusterArchive.CommandLine.Options

/-! The commands and options of the program. -/

namespace ClusterArchive.CommandLine

namespace OptionSpec

def jsonLogs : OptionSpec := ⟨"json-logs", none, .flag, false⟩

def hostRoot : OptionSpec := ⟨"host-root", none, .path, false⟩

def stagingDirectory : OptionSpec := ⟨"staging-dir", none, .path, false⟩

def compressionLevel : OptionSpec := ⟨"compression-level", none, .integer (Nat.pow 2 32), false⟩

def help : OptionSpec := ⟨"help", some 'h', .stop .help, false⟩

def version : OptionSpec := ⟨"version", some 'V', .stop .version, false⟩

/-- Options that may stand before a command and behind it. -/
def shared : List OptionSpec := [jsonLogs, hostRoot, stagingDirectory, compressionLevel, help]

def destination : OptionSpec := ⟨"destination", some 'd', .text, false⟩

def includeNamespace : OptionSpec := ⟨"include-namespace", none, .text, true⟩

def excludeNamespace : OptionSpec := ⟨"exclude-namespace", none, .text, true⟩

def noClusterResources : OptionSpec := ⟨"no-cluster-resources", none, .flag, false⟩

def resourceType : OptionSpec := ⟨"resource-type", none, .text, true⟩

def archive : OptionSpec := ⟨"archive", some 'a', .text, false⟩

def maxAgeDays : OptionSpec := ⟨"max-age-days", none, .integer (Nat.pow 2 32), false⟩

def maxCount : OptionSpec := ⟨"max-count", none, .natural (Nat.pow 2 64), false⟩

def force : OptionSpec := ⟨"force", some 'f', .flag, false⟩

end OptionSpec

def commands : List (String × List OptionSpec) :=
  [("backup", [.includeNamespace, .excludeNamespace, .noClusterResources, .resourceType]),
    ("restore", [.archive]), ("cleanup", [.maxAgeDays, .maxCount]), ("purge", [.force]), ("list", [])]

end ClusterArchive.CommandLine
