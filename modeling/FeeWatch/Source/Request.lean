import FeeWatch.Json.Reader
import FeeWatch.Source.Basic

/-! Requests to a ledger service and its replies.

A reply is an answer with a status and a body, or a failure of the transport. An
answer with an error status, or whose body is no JSON, is a failure of the source. -/
namespace FeeWatch.Source

/-- Which page of transactions is asked for. -/
inductive Query where
  /-- The newest transactions, the newest first. -/
  | newest (limit : Int)
  /-- The transactions after a cursor, the oldest first. -/
  | after (cursor : String) (limit : Int)
deriving DecidableEq, Repr, Inhabited

def Query.parameters : Query → Datum
  | .newest limit => .record [("order", .text "desc"), ("limit", .int limit)]
  | .after cursor limit =>
    .record [("order", .text "asc"), ("limit", .int limit), ("cursor", .text cursor)]

structure Request where
  url : String
  query : Option Query
  /-- How long to wait, in seconds. -/
  timeout : Number
deriving DecidableEq, Repr, Inhabited

def Request.report (r : Request) : Datum :=
  .record [("url", .text r.url), ("params", (r.query.map Query.parameters).getD .null),
    ("timeout", Datum.ofNumber r.timeout)]

inductive Reply where
  | answer (status : Int) (reason : Option String) (body : String)
  /-- No answer came in time. -/
  | timeout (text : String)
  /-- The transport failed. -/
  | failed (text : String)
  /-- An incident that transports are not meant to have. -/
  | incident (i : Incident)
deriving DecidableEq, Repr, Inhabited

/-- A service that replies to requests; replies may depend on what went before. -/
abbrev Service (σ : Type) := σ → Request → Reply × σ

/-- A service whose replies are known beforehand, and the requests that were made of it. -/
structure Script where
  replies : List Reply
  requests : List Request
deriving DecidableEq, Repr, Inhabited

namespace Script

/-- Replies by the script; after its end the transport fails. -/
def serve : Service Script := fun s r =>
  match s.replies with
  | [] => (.failed "script exhausted", { s with requests := s.requests ++ [r] })
  | reply :: rest => (reply, ⟨rest, s.requests ++ [r]⟩)

end Script

namespace Reply

/-- The incident of a body that is too deep to be read. -/
def depthIncident (isMap : Bool) : Incident :=
  ⟨"RecursionError", .other, (Json.Fault.tooDeep isMap).message⟩

/-- The datum of an answer, or the failure that the reply is. -/
def content (url : String) : Reply → Except Fault Datum
  | .timeout text => .error (.failure (.network s!"timeout calling {url}: {text}"))
  | .failed text => .error (.failure (.network s!"request to {url} failed: {text}"))
  | .incident i => .error (.incident i)
  | .answer status reason body =>
    if status = 429 then .error (.failure .rateLimit)
    else if status = 401 ∨ status = 403 then
      .error (.failure (.auth s!"{url} returned {status}"))
    else if status = 502 ∨ status = 503 ∨ status = 504 then .error (.failure .unavailable)
    else if 400 ≤ status then
      let reason := reason.getD Scalar.null.written
      .error (.failure (.network s!"{url} returned {status}: {reason}"))
    else
      match Json.read body with
      | .ok d => .ok d
      | .error (.tooDeep isMap) => .error (.incident (depthIncident isMap))
      | .error f => .error (.failure (.format s!"invalid JSON from {url}: {f.message}"))

end Reply
end FeeWatch.Source
