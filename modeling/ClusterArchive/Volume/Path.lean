import ClusterArchive.Text.Split

/-! Path texts. A relative path starts at a working directory; a path put behind another replaces
it when it is absolute. -/

namespace ClusterArchive.Path

def isAbsolute (path : String) : Bool := path.toList.head? == some '/'

def join (directory member : String) : String :=
  if isAbsolute member || directory = "" then member
  else if directory.toList.getLast? = some '/' then directory ++ member
  else directory ++ "/" ++ member

/-- The steps of a path, without those that lead nowhere. -/
def components (path : String) : List String :=
  (Text.splitSlash path).filter fun part => part ≠ "" && part ≠ "."

def namesDirectory (path : String) : Bool :=
  match (Text.splitSlash path).reverse with
  | last :: _ :: _ => last = "" || last = "."
  | _ => false

/-- Whether a path ends in a step to where it is, also with slashes behind it. -/
def endsInPoint (path : String) : Bool :=
  ((Text.splitSlash path).filter (· ≠ "")).getLast? = some "."

def ofComponents (absolute : Bool) (parts : List String) : String :=
  (if absolute then "/" else "") ++ "/".intercalate parts

def parent (path : String) : String := ofComponents (isAbsolute path) (components path).dropLast

end ClusterArchive.Path
