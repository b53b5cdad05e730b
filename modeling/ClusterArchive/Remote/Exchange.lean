import ClusterArchive.Codec.Shape
import ClusterArchive.Cluster.Capability
import ClusterArchive.Json.Reader
import ClusterArchive.Remote.Http

/-! Exchanges whose responses are JSON documents, and what their failures mean for a cluster. -/

namespace ClusterArchive

structure Status where
  message : String
  reason : String
  code : Nat
deriving DecidableEq, Repr

namespace Status

def shape : Shape :=
  .record "Status"
    [.mk "status" .required (.text "a string"), .mk "message" (.preset (.string "")) (.text "a string"),
      .mk "reason" (.preset (.string "")) (.text "a string"),
      .mk "code" .required (.natural (Nat.pow 2 16) "u16")]

def read? (text : String) : Option Status :=
  match shape.readWhole (Json.readText text) with
  | .ok (.object [_, (_, .string message), (_, .string reason), (_, .number (.integer code))]) =>
    some ⟨message, reason, code.toNat⟩
  | _ => none

/-- The status of a response; the body is shown where it tells none. -/
def ofResponse (code : Nat) (text : String) : Status :=
  (read? text).getD ⟨Text.quoted text, "", code⟩

def toError (status : Status) (resource name : String) : ClusterError :=
  if status.code = 409 ∧ status.reason = "AlreadyExists" then .alreadyExists resource name
  else if status.code = 404 then .notFound resource name
  else .api status.code status.message

end Status

inductive ExchangeFailure
  | refused (status : Status)
  | transport (detail : String)
deriving DecidableEq, Repr

def ExchangeFailure.toError (resource name : String) : ExchangeFailure → ClusterError
  | refused status => status.toError resource name
  | transport detail => .transport detail

namespace Transport

variable {σ α : Type}

def responseText (response : HttpResponse) : Except ExchangeFailure String :=
  match Text.ofBytes? response.body with
  | none => .error (.transport "the response is not text")
  | some text =>
    if response.isFailure then .error (.refused (.ofResponse response.status text)) else .ok text

/-- Sends a request, and reads the document that it is answered with. -/
def exchange (transport : Transport σ) (method : HttpMethod) (target : String) (body : Bytes)
    (read : Reading → Option α) (s : σ) : Except ExchangeFailure α × σ :=
  match Target.ofText? target with
  | none => (.error (.transport "the request has no valid target"), s)
  | some target =>
    match transport.send ⟨method, target, body⟩ s with
    | (.error detail, s) => (.error (.transport detail), s)
    | (.ok response, s) =>
      match responseText response with
      | .error failure => (.error failure, s)
      | .ok text =>
        match read (Json.readText text) with
        | some value => (.ok value, s)
        | none => (.error (.transport "the response does not fit"), s)

end Transport

end ClusterArchive
