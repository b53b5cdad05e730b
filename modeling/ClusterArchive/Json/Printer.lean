import ClusterArchive.Bytes
import ClusterArchive.Json.Basic
import ClusterArchive.Decimal.Shortest

/-! JSON text. Compact text has no white space; indented text puts each member on a line of its own,
two spaces deeper than its container, and leaves empty containers closed. -/

namespace ClusterArchive.Json

def escapeChar (c : Char) : List Char :=
  if c = '"' then ['\\', '"']
  else if c = '\\' then ['\\', '\\']
  else if c = '\x08' then ['\\', 'b']
  else if c = '\t' then ['\\', 't']
  else if c = '\n' then ['\\', 'n']
  else if c = '\x0c' then ['\\', 'f']
  else if c = '\r' then ['\\', 'r']
  else if c.toNat < 0x20 then ['\\', 'u', '0', '0'] ++ Bytes.hexPair (UInt8.ofNat c.toNat)
  else [c]

def renderString (text : String) : List Char :=
  '"' :: (text.toList.flatMap escapeChar ++ ['"'])

def renderNumber : Number → List Char
  | .integer (.ofNat n) => Nat.toDigits 10 n
  | .integer (.negSucc n) => '-' :: Nat.toDigits 10 (n + 1)
  | .double x => Decimal.text x

inductive Style
  | compact
  | indented
deriving DecidableEq

namespace Style

/-- What stands before a member and before the end of a container at a given depth. -/
def gap (style : Style) (depth : Nat) : List Char :=
  match style with
  | .compact => []
  | .indented => '\n' :: List.replicate (2 * depth) ' '

def colon : Style → List Char
  | .compact => [':']
  | .indented => [':', ' ']

end Style

mutual

def render (style : Style) (depth : Nat) : Json → List Char
  | null => ['n', 'u', 'l', 'l']
  | bool true => ['t', 'r', 'u', 'e']
  | bool false => ['f', 'a', 'l', 's', 'e']
  | number value => renderNumber value
  | string value => renderString value
  | array [] => ['[', ']']
  | array (first :: rest) =>
    '[' :: style.gap (depth + 1) ++ render style (depth + 1) first ++
      renderItems style (depth + 1) rest ++ style.gap depth ++ [']']
  | object [] => ['\x7b', '\x7d']
  | object ((key, first) :: rest) =>
    '\x7b' :: style.gap (depth + 1) ++ renderString key ++ style.colon ++
      render style (depth + 1) first ++
      renderMembers style (depth + 1) rest ++ style.gap depth ++ ['\x7d']

def renderItems (style : Style) (depth : Nat) : List Json → List Char
  | [] => []
  | item :: rest =>
    ',' :: style.gap depth ++ render style depth item ++ renderItems style depth rest

def renderMembers (style : Style) (depth : Nat) : List (String × Json) → List Char
  | [] => []
  | (key, value) :: rest =>
    ',' :: style.gap depth ++ renderString key ++ style.colon ++ render style depth value ++
      renderMembers style depth rest

end

def compactText (value : Json) : String := String.ofList (value.render .compact 0)

def indentedText (value : Json) : String := String.ofList (value.render .indented 0)

end ClusterArchive.Json
