/-! Splitting a text at separators, and joining the parts again. -/

namespace ClusterArchive.Text

/-- The parts between separators; there is always one more part than separators. -/
def split (separates : Char → Bool) : List Char → List (List Char)
  | [] => [[]]
  | c :: rest =>
    let parts := split separates rest
    if separates c then [] :: parts
    else (c :: parts.headD []) :: parts.tail

def splitSlash (text : String) : List String :=
  (split (· == '/') text.toList).map String.ofList

def stripPrefix? (start text : String) : Option String :=
  (start.toList.isPrefixOf? text.toList).map String.ofList

def stripSuffix? (ending text : String) : Option String :=
  (ending.toList.isSuffixOf? text.toList).map String.ofList

def before? (pattern : List Char) : List Char → Option (List Char)
  | [] => if pattern.isEmpty then some [] else none
  | c :: rest =>
    if pattern.isPrefixOf (c :: rest) then some [] else (before? pattern rest).map (c :: ·)

end ClusterArchive.Text
