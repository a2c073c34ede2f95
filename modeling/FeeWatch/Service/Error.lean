import FeeWatch.Datum.Basic
import FeeWatch.Source.Failure

/-! Errors as the serving layer reports them: a kind, which decides the status of
the answer, and a message. -/
namespace FeeWatch.Service

inductive Kind where
  | config
  | network
  | parse
  | unknown
deriving DecidableEq, Repr, Inhabited

def Kind.word : Kind → String
  | .config => "Config"
  | .network => "Network"
  | .parse => "Parse"
  | .unknown => "Unknown"

/-- The status code of an answer that reports an error of a kind. -/
def Kind.status : Kind → Nat
  | .config => 500
  | .network => 502
  | .parse => 422
  | .unknown => 500

structure Error where
  kind : Kind
  message : String
deriving DecidableEq, Repr, Inhabited

namespace Error

/-- The line that reports an error. -/
def text (e : Error) : String := s!"{e.kind.word} error: {e.message}"

/-- The answer that reports an error. -/
def response (e : Error) : Datum := .record [("error", .text e.text)]

/-- A source's failure: a misshapen answer could not be parsed, all else is the network's. -/
def ofFailure (f : Source.Failure) : Error :=
  match f with
  | .format _ => ⟨.parse, f.text⟩
  | _ => ⟨.network, f.text⟩

end Error
end FeeWatch.Service
