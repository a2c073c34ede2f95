import FeeWatch.Alert.Host
import FeeWatch.Datum.Access
import FeeWatch.Text.Case

/-! Web addresses: which host to connect to, and what to ask of it.

An address is a scheme, a host with an optional port, a path and a query. Names
and passwords before the host, parameters of the last part of the path, and a
fragment at the end are ignored. Every scheme but `https` is spoken in plain. -/
namespace FeeWatch.Alert

/-- Where a message goes. -/
structure Address where
  secure : Bool
  host : String
  port : Nat
  /-- The path with the query. -/
  target : String
deriving DecidableEq, Repr, Inhabited

namespace Address

/-- Why a text is no address to connect to. -/
inductive Fault where
  /-- A bracket stands alone, or something stands beside the brackets. -/
  | bracket
  /-- A host between brackets that starts with `v` has no known shape. -/
  | laterVersion
  /-- A host between brackets is no numeric address. -/
  | noNumeric (host : String)
  /-- A version 4 address stands between brackets. -/
  | bracketedFour
  /-- A character of the host stands for a mark of the address's own. -/
  | ambiguous (location : String)
  /-- A port, as it is shown, is no number. -/
  | portText (shown : String)
  | portNumber (f : Number.Fault)
  | portRange
  /-- There is no host. -/
  | noHost
  /-- The host holds a blank or a control character. -/
  | blank (host : String) (found : Char)
deriving DecidableEq, Repr, Inhabited

/-- The complaint about a blank or a control character. -/
def blankMessage (text : String) (found : Char) : String :=
  s!"URL can{mark}t contain control characters. {Text.quoted text} (found at least {Text.quoted found.toString})"
where
  mark : Char := Text.apostrophe

def Fault.message : Fault → String
  | .bracket => "Invalid IPv6 URL"
  | .laterVersion => "IPvFuture address is invalid"
  | .noNumeric host => s!"{Text.quoted host} does not appear to be an IPv4 or IPv6 address"
  | .bracketedFour => "An IPv4 address cannot be in brackets"
  | .ambiguous location =>
    s!"netloc {Datum.named location} contains invalid characters under NFKC normalization"
  | .portText shown => s!"Port could not be cast to integer value as {shown}"
  | .portNumber f => f.message
  | .portRange => "Port out of range 0-65535"
  | .noHost => s!"expected string or bytes-like object, got {Datum.named nothing}"
  | .blank host found => blankMessage host found
where
  nothing : String := Scalar.kind .null

/-! ### Parts -/

/-- What comes before a character, and what comes after it if it occurs. -/
def cut (mark : Char) (cs : List Char) : List Char × Option (List Char) :=
  match cs.span (· != mark) with
  | (before, _ :: after) => (before, some after)
  | (before, []) => (before, none)

/-- What comes after the last occurrence of a character. -/
def afterLast (mark : Char) (cs : List Char) : List Char :=
  (cs.reverse.takeWhile (· != mark)).reverse

/-- Whether a character may stand in a scheme. -/
def isSchemeChar (c : Char) : Bool := c.isAlphanum || c == '+' || c == '-' || c == '.'

/-- The scheme, in lower case, and the rest; without one the scheme is empty. -/
def splitScheme (cs : List Char) : List Char × List Char :=
  match cs, cut ':' cs with
  | c :: _, (scheme, some rest) =>
    if c.isAlpha && scheme.all isSchemeChar then (scheme.map Char.toLower, rest) else ([], cs)
  | _, _ => ([], cs)

/-- The location after two slashes, if there is one, and the rest. -/
def splitLocation (cs : List Char) : List Char × List Char :=
  match cs with
  | '/' :: '/' :: rest => rest.span fun c => c != '/' && c != '?' && c != '#'
  | _ => ([], cs)

/-- Schemes whose paths may have parameters. -/
def parameterSchemes : List String :=
  ["", "ftp", "hdl", "prospero", "http", "imap", "https", "shttp", "rtsp", "rtspu", "sip", "sips",
    "mms", "sftp", "tel"]

/-- A path without the parameters of its last part. -/
def dropParameters (scheme path : List Char) : List Char :=
  if parameterSchemes.contains (String.ofList scheme) then
    let last := afterLast '/' path
    path.take (path.length - last.length) ++ (cut ';' last).1
  else path

/-- Characters whose compatibility form holds a mark of an address. -/
def ambiguous : List Nat :=
  [0x2047, 0x2048, 0x2049, 0x2100, 0x2101, 0x2105, 0x2106, 0x2a74, 0xfe13, 0xfe16, 0xfe55, 0xfe56,
    0xfe5f, 0xfe6b, 0xff03, 0xff0f, 0xff1a, 0xff1f, 0xff20]

def checkNumeric (host : List Char) : Except Fault Unit :=
  if host.head? = some 'v' then if Host.isLater host then .ok () else .error .laterVersion
  else if Host.isFour host then .error .bracketedFour
  else if Host.isSix host then .ok ()
  else .error (.noNumeric (String.ofList host))

/-- Checks the brackets of a location: a host stands in them alone, and is numeric. In a location
with brackets the host must be numeric even if it stands outside of them. -/
def checkLocation (location : List Char) : Except Fault Unit :=
  if location.contains '[' != location.contains ']' then .error .bracket
  else if location.contains '[' then
    let info := afterLast '@' location
    match cut '[' info with
    | (before, some bracketed) =>
      let (host, after) := cut ']' bracketed
      if before.isEmpty && (after.getD []).head?.all (· == ':') then checkNumeric host
      else .error .bracket
    | (_, none) => checkNumeric (cut ':' info).1
  else .ok ()

/-- Checks that no character of a location stands for a mark of the address's own. -/
def checkCharacters (location : List Char) : Except Fault Unit :=
  if location.any fun c => ambiguous.contains c.toNat then
    .error (.ambiguous (String.ofList location))
  else .ok ()

/-- The host and the text of the port in a location. -/
def hostAndPort (location : List Char) : List Char × List Char :=
  let info := afterLast '@' location
  match cut '[' info with
  | (_, some bracketed) =>
    let (host, rest) := cut ']' bracketed
    (host, (cut ':' (rest.getD [])).2.getD [])
  | (_, none) =>
    let (host, port) := cut ':' info
    (host, port.getD [])

/-- A host in lower case, but for a zone after a percent sign. -/
def lowerHost (host : List Char) : String :=
  let zone := host.dropWhile (· != '%')
  Text.lower (String.ofList (host.take (host.length - zone.length))) ++ String.ofList zone

/-- The number of a port; zero and a missing one give the default. -/
def readPort (default : Nat) (text : List Char) : Except Fault Nat :=
  if text.isEmpty then .ok default
  else if text.all Char.isDigit then
    match Number.readInt (String.ofList text) with
    | .error f => .error (.portNumber f)
    | .ok n =>
      if 65535 < n then .error .portRange else .ok (if n = 0 then default else n.toNat)
  else .error (.portText (Text.quoted (String.ofList text)))

/-- Blanks and control characters. -/
def isBlank (c : Char) : Bool := c.toNat ≤ 0x20 || c.toNat = 0x7f

/-- Checks that a host is given and holds no blank. -/
def checkHost (host : List Char) : Except Fault String :=
  if host.isEmpty then .error .noHost
  else
    let host := lowerHost host
    match host.toList.find? isBlank with
    | some c => .error (.blank host c)
    | none => .ok host

/-- The address that a text names. -/
def read (s : String) : Except Fault Address := do
  let cs := s.toList.dropWhile fun c => c.toNat ≤ 0x20
  let cs := cs.filter fun c => c != '\t' && c != '\r' && c != '\n'
  let (scheme, rest) := splitScheme cs
  let (location, rest) := splitLocation rest
  checkLocation location
  let (rest, _) := cut '#' rest
  let (path, query) := cut '?' rest
  checkCharacters location
  let path := dropParameters scheme path
  let secure := scheme == "https".toList
  let (host, port) := hostAndPort location
  let port ← readPort (if secure then 443 else 80) port
  let host ← checkHost host
  let path := if path.isEmpty then ['/'] else path
  let query := query.getD []
  let target := if query.isEmpty then path else path ++ '?' :: query
  .ok ⟨secure, host, port, String.ofList target⟩

end Address
end FeeWatch.Alert
