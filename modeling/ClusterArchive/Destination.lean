import ClusterArchive.RunError
import ClusterArchive.Text.Blank
import ClusterArchive.Volume.Path

/-! Destinations of archives. One with the host scheme lies under a root directory, whatever it
says; another is a directory of its own. -/

namespace ClusterArchive

/-- The segments of a request: empty ones and `.` lead nowhere, and `..` takes back the segment
before it, if there is one. -/
def sandboxSegments (requested : String) : List String :=
  let segments := (Text.split (fun c => c == '/' || c == '\\') requested.toList).map String.ofList
  (segments.foldl
    (fun clean segment =>
      if segment = "" ∨ segment = "." then clean
      else if segment = ".." then clean.tail
      else segment :: clean) []).reverse

def sandboxPath (root requested : String) : String :=
  match sandboxSegments requested with
  | [] => root
  | segments => Path.join root ("/".intercalate segments)

inductive Destination
  | local (path : String)
  | host (path : String)
deriving DecidableEq, Repr

namespace Destination

def hostScheme : String := "host://"

def parse (text : String) : Except RunError Destination :=
  let text := Text.trim text
  if text = "" then .error (.validation "destination must not be empty")
  else
    match Text.stripPrefix? hostScheme text with
    | some path => .ok (.host path)
    | none =>
      match Text.before? "://".toList text.toList with
      | some scheme =>
        .error (.validation ("unsupported destination scheme " ++ Text.quoted (String.ofList scheme) ++
          "; use a local path or " ++ hostScheme))
      | none => .ok (.local text)

def resolve (hostRoot : String) : Destination → String
  | .local path => path
  | .host path => sandboxPath hostRoot path

end Destination

end ClusterArchive
