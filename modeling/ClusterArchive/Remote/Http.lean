import ClusterArchive.Text.Utf8

/-! Exchanges with a server. A target is a path with an optional query; what follows a number sign is
not sent. -/

namespace ClusterArchive

inductive HttpMethod
  | get
  | post
  | put
deriving DecidableEq, Repr

def HttpMethod.text : HttpMethod → String
  | get => "GET"
  | post => "POST"
  | put => "PUT"

structure HttpRequest where
  method : HttpMethod
  target : String
  body : Bytes
deriving DecidableEq, Repr

structure HttpResponse where
  status : Nat
  body : Bytes
deriving DecidableEq, Repr

/-- Sends requests. One that cannot be sent, or is not answered, fails with a reason. -/
structure Transport (σ : Type) where
  send : HttpRequest → σ → Except String HttpResponse × σ

namespace HttpResponse

def isFailure (response : HttpResponse) : Bool := 400 ≤ response.status && response.status < 600

end HttpResponse

namespace Target

def limit : Nat := 65534

def isPathCharacter (c : Char) : Bool :=
  c == '!' || c == '"' || ('$' ≤ c && c ≤ ';') || c == '=' || ('@' ≤ c && c ≤ '_') ||
    'a' ≤ c

def isQueryCharacter (c : Char) : Bool :=
  c == '!' || ('$' ≤ c && c ≤ ';') || c == '=' || '?' ≤ c

def path (target : String) : String := String.ofList (target.toList.takeWhile (· ≠ '?'))

/-- The target that is sent for a text, if the text can stand for one. -/
def ofText? (text : String) : Option String :=
  let sent := text.toList.takeWhile (· ≠ '#')
  let path := sent.takeWhile (· ≠ '?')
  let query := (sent.drop path.length).drop 1
  if text.utf8ByteSize ≤ limit && path.all isPathCharacter && query.all isQueryCharacter then
    some (String.ofList sent)
  else none

end Target

end ClusterArchive
