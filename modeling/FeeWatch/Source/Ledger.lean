import FeeWatch.Log
import FeeWatch.Source.Request

/-! Fee points from a ledger service.

The first fetch reads the newest page of transactions. Later ones go forward from
a cursor, the paging token of the last transaction that was read, through full
pages up to a limit; what remains is left to the next fetch. The cursor moves only
when every page of a fetch was read, so nothing is skipped after a failure. -/
namespace FeeWatch.Source

open FeeWatch.Fee (Point)

/-- A reader of a ledger service. -/
structure Ledger where
  /-- The address of the service, without a slash at its end. -/
  base : String
  /-- How long to wait for an answer, in seconds. -/
  timeout : Number
  /-- Transactions of a page. -/
  batch : Int
  /-- The most pages of a fetch. -/
  maxPages : Nat
  /-- The paging token of the last transaction that was read. -/
  cursor : Option String
deriving DecidableEq, Repr, Inhabited

namespace Ledger

def name : String := "Horizon"

/-- The most transactions that the service puts on a page. -/
def pageLimit : Nat := 200

def metadata : Metadata := ⟨true, pageLimit, some 60, 6⟩

/-- A reader that has read nothing yet. -/
def make (base : String) (timeout : Number) (batch : Int) (maxPages : Int) : Ledger :=
  { base := String.ofList (base.toList.reverse.dropWhile (· == '/')).reverse
    timeout
    batch := min batch pageLimit
    maxPages := (max 1 maxPages).toNat
    cursor := none }

/-- A reader's settings as a datum, with the kind of answer that it asks for. -/
def describe (l : Ledger) : Datum :=
  .record [("name", .text name), ("metadata", metadata.report), ("base_url", .text l.base),
    ("timeout_secs", Datum.ofNumber l.timeout), ("batch_size", .int l.batch),
    ("max_pages", .int l.maxPages),
    ("headers", .record [("accept", .text "application/hal+json")])]

/-! ### Pages -/

/-- What a page of transactions holds. -/
structure Page where
  points : List Point
  /-- The paging token of the last transaction. -/
  token : Option String
  /-- How many transactions there are. -/
  size : Nat
deriving DecidableEq, Repr, Inhabited

/-- A failure to read an answer. -/
def misshapen (message : String) : Fault := .failure (.format message)

/-- What is reported of a transaction that is no point. Values out of range are not recognised. -/
def malformed (f : Point.Fault) : Fault :=
  match f with
  | .misfit m =>
    match m.family with
    | .key => misshapen s!"transaction record missing field {m.message}"
    | .range => .misfit m
    | _ => misshapen s!"malformed transaction record: {m.message}"
  | f => misshapen s!"malformed transaction record: {f.message}"

def readTransaction (d : Datum) : Except Fault Point :=
  match d with
  | .map _ => (Point.ofParts "fee_charged" "created_at" "hash" "ledger" d).mapError malformed
  | d => .error (misshapen s!"transaction record is not an object: {d.shown}")

/-- The paging token of a transaction. -/
def readToken (d : Datum) : Except Fault String :=
  match d.get? "paging_token" with
  | some token =>
    if token.isSome then .ok token.written
    else .error (misshapen "transaction record missing paging_token")
  | none => .error (misshapen "transaction record missing paging_token")

/-- The transactions of an answer. -/
def transactions (body : Datum) : Except Fault (List Datum) :=
  match (body.part "_embedded").bind (Datum.part "records") with
  | .error _ => .error (misshapen "response has no _embedded.records list")
  | .ok (.list items) => .ok items
  | .ok _ => .error (misshapen "_embedded.records is not a list")

/-- The page of an answer; the newest page is turned round. -/
def readPage (query : Query) (body : Datum) : Except Fault Page := do
  let items ← transactions body
  let items := match query with
    | .newest _ => items.reverse
    | .after .. => items
  let points ← items.mapM readTransaction
  match items.getLast? with
  | none => .ok ⟨points, none, items.length⟩
  | some last =>
    let token ← readToken last
    .ok ⟨points, some token, items.length⟩

/-! ### Requests -/

section Requests
variable {σ : Type} (serve : Service σ) (l : Ledger)

/-- Asks for a resource. -/
def get (path : String) (query : Option Query) (s : σ) : Except Fault Datum × σ :=
  let url := l.base ++ path
  let (reply, s) := serve s ⟨url, query, l.timeout⟩
  (reply.content url, s)

/-- Asks for a page. -/
def page (query : Query) (s : σ) : Except Fault Page × σ :=
  let (body, s) := l.get serve "/transactions" (some query) s
  (body.bind (readPage query), s)

/-- Goes forward from a cursor through at most a number of pages. The flag tells whether all
of them were full. -/
def forward : Nat → String → List Point → σ → Except Fault (List Point × String × Bool) × σ
  | 0, cursor, points, s => (.ok (points, cursor, true), s)
  | left + 1, cursor, points, s =>
    match l.page serve (.after cursor l.batch) s with
    | (.error f, s) => (.error f, s)
    | (.ok p, s) =>
      let points := points ++ p.points
      let cursor := p.token.getD cursor
      if (p.size : Int) < l.batch then (.ok (points, cursor, false), s)
      else forward left cursor points s

/-- What a fetch reads: the points, the new cursor, and whether some may be left. -/
def collect (s : σ) : Except Fault (List Point × Option String × Bool) × σ :=
  match l.cursor with
  | none =>
    match l.page serve (.newest l.batch) s with
    | (.error f, s) => (.error f, s)
    | (.ok p, s) => (.ok (p.points, p.token, false), s)
  | some cursor =>
    match l.forward serve l.maxPages cursor [] s with
    | (.error f, s) => (.error f, s)
    | (.ok (points, cursor, deferred), s) => (.ok (points, some cursor, deferred), s)

/-- What is logged of a fetch. -/
def report (count : Nat) (cursor : Option String) (deferred : Bool) : Log :=
  let notice := s!"Read {l.maxPages} full pages from {l.base}; deferring remaining backlog to the next fetch"
  let shown := cursor.getD Scalar.null.written
  (if deferred then [⟨.warning, .ledger, notice⟩] else []) ++
    [⟨.debug, .ledger, s!"Fetched {count} fee samples from {l.base} (cursor={shown})"⟩]

/-- Asks for the points since the last fetch. -/
def fetch (s : σ) : Except Fault (List Point) × Ledger × σ × Log :=
  match l.collect serve s with
  | (.error f, s) => (.error f, l, s, [])
  | (.ok (points, cursor, deferred), s) =>
    let cursor := cursor.or l.cursor
    (.ok points, { l with cursor }, s, l.report points.length cursor deferred)

/-- Asks whether the service can be reached. -/
def health (s : σ) : Except Fault Unit × σ :=
  match l.get serve "/" none s with
  | (.error f, s) => (.error f, s)
  | (.ok (.map _), s) => (.ok (), s)
  | (.ok _, s) => (.error (misshapen "Horizon root response is not an object"), s)

end Requests
end Ledger
end FeeWatch.Source
