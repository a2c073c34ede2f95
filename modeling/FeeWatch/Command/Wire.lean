import FeeWatch.Source.Request

/-! The line to the ledger service, as the command sees it.

What comes over the line is a list of replies, and with any of them a signal may
arrive that asks the program to end; the reply is delivered all the same. -/
namespace FeeWatch.Command

/-- A signal that asks the program to end. -/
inductive Signal where
  | interrupt
  | terminate
deriving DecidableEq, Repr, Inhabited

def Signal.number : Signal → Nat
  | .interrupt => 2
  | .terminate => 15

/-- A reply, and the signal that arrives while it is awaited. -/
structure Event where
  reply : Source.Reply
  signal : Option Signal
deriving DecidableEq, Repr, Inhabited

/-- A line with what is still to come over it, the requests that were made and the signals that
arrived. -/
structure Wire where
  events : List Event
  requests : List Source.Request
  signals : List Signal
deriving DecidableEq, Repr, Inhabited

namespace Wire

/-- Replies by the events; after their end the transport fails as at the end of a script. -/
def serve : Source.Service Wire := fun w r =>
  match w.events with
  | [] =>
    let (reply, _) := Source.Script.serve ⟨[], []⟩ r
    (reply, { w with requests := w.requests ++ [r] })
  | e :: rest => (e.reply, ⟨rest, w.requests ++ [r], w.signals ++ e.signal.toList⟩)

end Wire
end FeeWatch.Command
