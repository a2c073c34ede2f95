/-! Failures of a source of fee points.

A source fails in one of a closed set of ways; each carries at most a message, so
a failure can be kept and reported any number of times. -/
namespace FeeWatch.Source

inductive Failure where
  /-- The transport failed. -/
  | network (message : String)
  /-- The answer does not have the expected shape. -/
  | format (message : String)
  /-- The source refused the credentials. -/
  | auth (message : String)
  /-- Too many requests were made. -/
  | rateLimit
  /-- The source is out of service. -/
  | unavailable
  /-- A failure of no particular kind. -/
  | general (message : Option String)
deriving DecidableEq, Repr, Inhabited

namespace Failure

/-- The tag of a failure's kind. -/
def tag : Failure → String
  | .network _ => "network_error"
  | .format _ => "format_error"
  | .auth _ => "auth_error"
  | .rateLimit => "rate_limit_exceeded"
  | .unavailable => "service_unavailable"
  | .general _ => "provider_error"

def message? : Failure → Option String
  | .network m => some m
  | .format m => some m
  | .auth m => some m
  | .general m => m
  | _ => none

/-- The line that reports a failure. -/
def text (f : Failure) : String :=
  match f.message? with
  | none => f.tag
  | some m => s!"{f.tag}: {m}"

end Failure
end FeeWatch.Source
