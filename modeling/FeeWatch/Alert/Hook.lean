import FeeWatch.Alert.Address
import FeeWatch.Alert.Name
import FeeWatch.Incident
import FeeWatch.Json.Writer
import FeeWatch.Log

/-! Posting alerts to a web address.

A hook posts each message over a connection of its own. What the other side does
is a list of replies, one for each connection that is made; when the list ends,
every message is accepted. A connection that fails in a way that connections may
fail is logged, and so is an answer that reports an error. An address that names
no host to connect to is a fault of its own. -/
namespace FeeWatch.Alert

/-- What happens to one connection. -/
inductive Reply where
  /-- An answer with a status and a reason. -/
  | answer (status : Int) (reason : String)
  /-- The connection fails. -/
  | failure (i : Incident)
deriving DecidableEq, Repr, Inhabited

/-- A message that was handed to a connection. -/
structure Post where
  address : Address
  body : String
deriving DecidableEq, Repr, Inhabited

/-- A message as a datum: where it goes and how. -/
def Post.report (p : Post) : Datum :=
  .record [("scheme", .text (if p.address.secure then "https" else "http")),
    ("host", .text p.address.host), ("port", .int p.address.port), ("method", .text "POST"),
    ("path", .text p.address.target), ("body", .text p.body),
    ("headers", .record [("Content-Type", .text "application/json")])]

/-- A web address to post to, with what was posted so far. -/
structure Hook where
  /-- The address as it was set; nothing is posted to an empty one. -/
  target : Datum
  /-- What will happen to the connections to come. -/
  replies : List Reply
  /-- How many messages were sent, posted or not. -/
  sent : Nat
  posts : List Post
deriving Repr, Inhabited

namespace Hook

/-- Why posting did not return. -/
inductive Fault where
  | address (f : Address.Fault)
  | misfit (m : Datum.Misfit)
  /-- An address in octets has one outside ASCII at a place. -/
  | octet (value place : Nat)
  /-- An incident that connections are not expected to have. -/
  | incident (i : Incident)
deriving DecidableEq, Repr, Inhabited

def Fault.message : Fault → String
  | .address f => f.message
  | .misfit m => m.message
  | .octet value place =>
    s!"{Datum.named codec} codec can{mark}t decode byte 0x{shown value} in position {place}: ordinal not in range(128)"
  | .incident i => i.text
where
  codec : String := "ascii"
  mark : Char := Text.apostrophe
  /-- The number of an octet. -/
  shown (value : Nat) : String := String.ofList (Nat.toDigits 16 value)

def say (level : Level) (text : String) : Log := [⟨level, .alerts, text⟩]

/-- The record of a message that was not posted. -/
def failed (reason : String) : Log := say .error s!"Failed to post webhook: {reason}"

/-- Whether an incident is one that connections are expected to have. -/
def isExpected (i : Incident) : Bool :=
  match i.nature with
  | .system => true
  | .protocol => true
  | .value => true
  | _ => false

/-- The characters outside ASCII that come first in a row, and their place in the request. -/
def outsideAscii (target : List Char) : Option (List Char × Nat) :=
  let start := "POST ".length + (target.takeWhile fun c => c.toNat < 0x80).length
  let run := (target.dropWhile fun c => c.toNat < 0x80).takeWhile fun c => 0x80 ≤ c.toNat
  if run.isEmpty then none else some (run, start)

/-- The complaint about characters outside ASCII. -/
def asciiMessage (run : List Char) (start : Nat) : String :=
  let which := match run with
    | [c] => s!"character {Datum.named (String.ofList (Text.escapeCode c))} in position {start}"
    | _ => s!"characters in position {start}-{start + run.length - 1}"
  s!"{Datum.named codec} codec can{mark}t encode {which}: ordinal not in range(128)"
where
  codec : String := "ascii"
  mark : Char := Text.apostrophe

/-- The complaint about a name of a host. -/
def nameMessage (f : Name.Fault) : String :=
  s!"encoding with {Datum.named codec} codec failed (UnicodeError: {f.message})"
where
  codec : String := "idna"

/-- What keeps an address from being asked, in words. -/
def complaint? (a : Address) : Option String :=
  match a.target.toList.find? Address.isBlank with
  | some c => some (Address.blankMessage a.target c)
  | none =>
    match outsideAscii a.target.toList, Name.check a.host with
    | some (run, start), _ => some (asciiMessage run start)
    | none, .error f => some (nameMessage f)
    | none, .ok () => none

def head (status : Int) (reason : String) : String := s!"HTTP/1.1 {status} {reason}\r\n"

/-- What follows the head of an answer. -/
def rest : String := "ok"

/-- What of an answer is not understood: a status must have three digits, and after a status that
only asks to go on the head of another answer must follow. -/
def misread? (status : Int) (reason : String) : Option String :=
  if status = 100 then some rest
  else if status < 100 ∨ 999 < status then some (head status reason)
  else none

/-- What is logged of a reply, unless it is an incident that is not expected. -/
def receive (body : String) : Reply → Except Fault Log
  | .answer status reason =>
    match misread? status reason with
    | some line => .ok (failed line)
    | none =>
      if 400 ≤ status then
        let reason := String.ofList (Text.trim Text.isBlank reason.toList)
        .ok (say .warning s!"Webhook returned status {status}: {reason}")
      else .ok (say .debug s!"Webhook posted successfully: {body}")
  | .failure i => if isExpected i then .ok (failed i.text) else .error (.incident i)

def nextReply : List Reply → Reply × List Reply
  | [] => (.answer 200 "OK", [])
  | r :: rest => (r, rest)

/-- Posts to an address. -/
def deliver (h : Hook) (address : Address) (body : String) : Except Fault Unit × Hook × Log :=
  let h := { h with posts := h.posts ++ [⟨address, body⟩] }
  match complaint? address with
  | some reason => (.ok (), h, failed reason)
  | none =>
    let (reply, replies) := nextReply h.replies
    let h := { h with replies }
    match receive body reply with
    | .ok log => (.ok (), h, log)
    | .error f => (.error f, h, [])

/-- Why nothing can be posted to an address in octets: they are read as ASCII, but the host is
looked for among characters. -/
def octetFault (octets : List Nat) : Fault :=
  match octets.findIdx? (0x80 ≤ ·) with
  | some i => .octet (octets.getD i 0) i
  | none =>
    match Address.read (Datum.octetText octets) with
    | .error (.portText shown) => .address (.portText ("b" ++ shown))
    | .error (.blank ..) => .misfit .octetAddress
    | .error f => .address f
    | .ok _ => .misfit .octetAddress

/-- Sends a message. -/
def post (h : Hook) (payload : Datum) : Except Fault Unit × Hook × Log :=
  let h := { h with sent := h.sent + 1 }
  let body := Json.write .ascii payload
  if !h.target.isSome then (.ok (), h, say .debug s!"No webhook configured, payload: {body}")
  else
    match h.target with
    | .scalar (.text url) =>
      match Address.read url with
      | .ok address => h.deliver address body
      | .error f => (.error (.address f), h, [])
    | .scalar (.bytes octets) => (.error (octetFault octets), h, [])
    | d => (.error (.misfit (.lacks d.kind "decode")), h, [])

end Hook
end FeeWatch.Alert
