import FeeWatch.Command.Wire
import FeeWatch.Json.Reader

/-! The feed of a run: what the transport hands to the command, in lines of JSON.

The first line is the time as a text. Every further line is a reply of the ledger
service: a map with the status, the reason and the body of an answer, or with the
text of a timeout or of a failure. A line may carry a signal by its number. -/
namespace FeeWatch.Command

/-- What the transport hands to the command. -/
structure Feed where
  now : Calendar.Instant
  events : List Event
deriving Inhabited

namespace Feed

def textOf (d : Datum) (key : String) : Option String :=
  match d.get? key with
  | some (.scalar (.text s)) => some s
  | _ => none

/-- The whole number of a key, if it has one. -/
def intOf (d : Datum) (key : String) : Option Int :=
  match d.get? key with
  | some (.scalar (.int n)) => some n
  | _ => none

def reply (d : Datum) : Source.Reply :=
  match textOf d "timeout", textOf d "failed" with
  | some text, _ => .timeout text
  | none, some text => .failed text
  | none, none =>
    .answer ((intOf d "status").getD 200) (textOf d "reason") ((textOf d "body").getD "")

def signal? (n : Int) : Option Signal :=
  [Signal.interrupt, .terminate].find? fun s => (s.number : Int) == n

def event (d : Datum) : Event := ⟨reply d, (intOf d "signal").bind signal?⟩

/-- The feed of lines, if each of them is JSON and the first names a time. -/
def ofLines? (lines : List String) : Option Feed :=
  match lines.mapM fun line => (Json.read line).toOption with
  | some (time :: rest) => (time.instant.toOption).map fun now => ⟨now, rest.map event⟩
  | _ => none

end Feed
end FeeWatch.Command
