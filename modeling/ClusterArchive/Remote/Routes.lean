import ClusterArchive.Cluster.Interruptible
import ClusterArchive.Remote.Client

/-! A server that answers from a list of routes, on which clients are rehearsed. It keeps the requests
that reached it. -/

namespace ClusterArchive

inductive RouteReply
  | body (bytes : Bytes)
  | echo
  | broken (detail : String)
deriving DecidableEq, Repr

/-- A route answers requests of one method to one path, once or always. -/
structure Route where
  method : String
  path : String
  status : Nat
  once : Bool
  reply : RouteReply
deriving DecidableEq, Repr

/-- The requests stand in the order in which they came. -/
structure RouteServer where
  routes : List Route
  requests : List HttpRequest
  cancelled : Bool

namespace RouteServer

def Matches (request : HttpRequest) (route : Route) : Bool :=
  route.method = request.method.text && route.path = Target.path request.target

def removeFirst (request : HttpRequest) : List Route → List Route
  | [] => []
  | route :: rest => if Matches request route then rest else route :: removeFirst request rest

def noRoute : HttpResponse :=
  ⟨404, Bytes.ofText (Json.compactText (.object [("status", .string "Failure"),
    ("message", .string "no route"), ("reason", .string "NotFound"), ("code", .natural 404)]))⟩

def respond (request : HttpRequest) (route : Route) : Except String HttpResponse :=
  match route.reply with
  | .body bytes => .ok ⟨route.status, bytes⟩
  | .echo => .ok ⟨route.status, request.body⟩
  | .broken detail => .error detail

def transport : Transport RouteServer where
  send request server :=
    let server := { server with requests := server.requests ++ [request] }
    match server.routes.find? (Matches request) with
    | none => (.ok noRoute, server)
    | some route =>
      let routes := if route.once then removeFirst request server.routes else server.routes
      (respond request route, { server with routes := routes })

def isCancelled (server : RouteServer) : Bool × RouteServer := (server.cancelled, server)

def interruptible : Client RouteServer :=
  (SlowClient.ofClient (Remote.client transport)).interruptible isCancelled

end RouteServer

end ClusterArchive
