import FeeWatch.Json.Writer
import FeeWatch.Proofs.Source.Journal

/-! What a reader delivers, fetch after fetch.

A reader that has read anything has read one stretch of the journal, from the newest
page of its first good answer up to its cursor, and has delivered the points of that
stretch in the journal's order (`Progress`). A failed fetch changes neither the cursor
nor what was delivered, a good one goes on where the one before it ended
(`Progress.next`), so `delivers_stretch` holds after any number of fetches. -/
namespace FeeWatch.Source

open FeeWatch.Fee (Point)
open Ledger (pageLimit Page readTransaction transactions)

/-- A reader at work, and the points that its fetches returned. -/
structure Delivery (σ : Type) where
  reader : Ledger
  server : σ
  points : List Point

namespace Ledger
variable {σ : Type} {serve : Service σ} {r : Ledger} {s s' : σ}

theorem collect_of_none (hcursor : r.cursor = none) {result : Except Fault Page}
    (h : r.page serve (.newest r.batch) s = (result, s')) :
    r.collect serve s = (result.map fun p => (p.points, p.token, false), s') := by
  simp only [collect, hcursor, h]
  cases result <;> rfl

theorem collect_of_some {cursor : String} (hcursor : r.cursor = some cursor)
    {result : Except Fault (List Point × String × Bool)}
    (h : r.forward serve r.maxPages cursor [] s = (result, s')) :
    r.collect serve s = (result.map fun read => (read.1, some read.2.1, read.2.2), s') := by
  simp only [collect, hcursor, h]
  cases result <;> rfl

end Ledger

namespace Delivery
variable {σ : Type}

/-- A reader that has not fetched yet. -/
def begin (l : Ledger) (s : σ) : Delivery σ := ⟨l, s, []⟩

/-- The points that the next fetch returns, or its fault. -/
def outcome (serve : Service σ) (d : Delivery σ) : Except Fault (List Point) :=
  (d.reader.fetch serve d.server).1

/-- The reader after its next fetch. -/
def fetch (serve : Service σ) (d : Delivery σ) : Delivery σ :=
  match d.reader.fetch serve d.server with
  | (.ok points, reader, server, _) => ⟨reader, server, d.points ++ points⟩
  | (.error _, reader, server, _) => ⟨reader, server, d.points⟩

/-- The reader after a number of fetches. -/
def fetches (serve : Service σ) (d : Delivery σ) : Nat → Delivery σ
  | 0 => d
  | n + 1 => (d.fetches serve n).fetch serve

theorem fetch_of_error {serve : Service σ} {d : Delivery σ} {f : Fault} {s : σ}
    (h : d.reader.collect serve d.server = (.error f, s)) :
    d.outcome serve = .error f ∧ d.fetch serve = ⟨d.reader, s, d.points⟩ := by
  rw [outcome, fetch, Ledger.fetch, h]
  exact ⟨rfl, rfl⟩

theorem fetch_of_ok {serve : Service σ} {d : Delivery σ} {points : List Point}
    {cursor : Option String} {deferred : Bool} {s : σ}
    (h : d.reader.collect serve d.server = (.ok (points, cursor, deferred), s)) :
    d.outcome serve = .ok points ∧
      d.fetch serve =
        ⟨{ d.reader with cursor := cursor.or d.reader.cursor }, s, d.points ++ points⟩ := by
  rw [outcome, fetch, Ledger.fetch, h]
  exact ⟨rfl, rfl⟩

end Delivery

variable {σ : Type} {url : String}

/-- How far a reader has come: what it delivered is a stretch of the journal, and its cursor is the
token at the end of the stretch. -/
structure Progress (J : Journal σ url) (l : Ledger) (d : Delivery σ)
    (before stretch after : List Transaction) : Prop where
  entries : J.entries d.server = before ++ stretch ++ after
  points : d.points = stretch.map Transaction.point
  reader : d.reader = { l with cursor := stretch.getLast?.map Transaction.token }

section Steps
variable {J : Journal σ url} {l : Ledger} {d : Delivery σ} {before stretch after : List Transaction}

theorem Progress.suited (h : Progress J l d before stretch after) (hl : Suited url l) :
    Suited url d.reader := by
  rw [h.reader]
  exact ⟨hl.address, hl.least, hl.most⟩

/-- Nothing changes for a reader when only the journal grows. -/
theorem Progress.stay (h : Progress J l d before stretch after) {s : σ}
    (hgrows : J.entries d.server <+: J.entries s) :
    ∃ after', Progress J l ⟨d.reader, s, d.points⟩ before stretch after' := by
  obtain ⟨more, hmore⟩ := hgrows
  refine ⟨after ++ more, ?_, h.points, h.reader⟩
  rw [← hmore, h.entries, List.append_assoc _ after]

/-- A good answer to a reader without a cursor brings the newest transactions, if there are any. -/
theorem Progress.first (hl : Suited url l) (h : Progress J l d before [] after) :
    (∃ after', Progress J l (d.fetch J.serve) before [] after') ∨
      ∃ before' page, page ≠ [] ∧ page = (before' ++ page).rtake l.batch.toNat ∧
        Progress J l (d.fetch J.serve) before' page [] := by
  have hcursor : d.reader.cursor = none := by rw [h.reader]; rfl
  have hbatch : d.reader.batch = l.batch := by rw [h.reader]
  have hgrows := page_grows J (l := d.reader) (.newest l.batch) d.server
  have hread := page_cases J (h.suited hl) (.newest l.batch) d.server ⟨hl.least, hl.most⟩
  cases hpage : d.reader.page J.serve (.newest l.batch) d.server with
  | mk result s =>
    have hcollect := Ledger.collect_of_none hcursor (hbatch.symm ▸ hpage)
    rw [hpage] at hgrows hread
    rw [select_newest] at hread
    rcases hread with ⟨f, hf⟩ | hp
    · obtain rfl : result = .error f := hf
      rw [(Delivery.fetch_of_error hcollect).2]
      exact .inl (h.stay hgrows)
    · replace hp : result = .ok (.ofTransactions ((J.entries s).rtake l.batch.toNat)) := hp
      subst hp
      rw [(Delivery.fetch_of_ok hcollect).2, hcursor, Option.or_none]
      by_cases hempty : (J.entries s).rtake l.batch.toNat = []
      · refine .inl ?_
        rw [hempty, Page.ofTransactions, List.map_nil, List.append_nil]
        have hsame : { d.reader with cursor := none } = d.reader := by
          rw [← hcursor]
        show ∃ after', Progress J l ⟨{ d.reader with cursor := none }, s, d.points⟩ before [] after'
        rw [hsame]
        exact h.stay hgrows
      · have hsplit : (J.entries s).take ((J.entries s).length - l.batch.toNat) ++
            (J.entries s).rtake l.batch.toNat = J.entries s := List.take_append_drop _ _
        refine .inr ⟨_, _, hempty, by rw [hsplit], ?_, ?_, ?_⟩
        · rw [hsplit, List.append_nil]
        · rw [h.points]
          rfl
        · rw [h.reader]
          rfl

/-- The cursor of a reader that has come so far. -/
theorem Progress.stands (h : Progress J l d before stretch after) (hbegun : stretch ≠ []) :
    ∃ cursor, d.reader.cursor = some cursor ∧
      Stands J d.server cursor (before ++ stretch) after := by
  have hlast := List.getLast?_eq_some_getLast hbegun
  refine ⟨(stretch.getLast hbegun).token, ?_, h.entries, ?_⟩
  · rw [h.reader, hlast]
    rfl
  · rw [List.getLast?_append_of_ne_nil _ hbegun, hlast]
    rfl

/-- A reader with a cursor goes on behind its stretch, and to the end of the journal if a good
answer holds less than full pages. -/
theorem Progress.next (hl : Suited url l) (h : Progress J l d before stretch after)
    (hbegun : stretch ≠ []) :
    ∃ read after', Progress J l (d.fetch J.serve) before (stretch ++ read) after' ∧
      ∀ points, d.outcome J.serve = .ok points →
        (points.length : Int) < l.maxPages * l.batch → after' = [] := by
  obtain ⟨cursor, hcursor, hstands⟩ := h.stands hbegun
  have hbatch : d.reader.batch = l.batch := by rw [h.reader]
  have hpages : d.reader.maxPages = l.maxPages := by rw [h.reader]
  have hgrows := forward_grows J (l := d.reader) l.maxPages cursor [] d.server
  cases hforward : d.reader.forward J.serve l.maxPages cursor [] d.server with
  | mk result s =>
    have hcollect := Ledger.collect_of_some hcursor (hpages.symm ▸ hforward)
    rw [hforward] at hgrows
    cases result with
    | error f =>
      obtain ⟨houtcome, hfetch⟩ := Delivery.fetch_of_error hcollect
      obtain ⟨after', hstay⟩ := h.stay hgrows
      rw [hfetch, houtcome]
      refine ⟨[], after', ?_, fun _ hok => by cases hok⟩
      rw [List.append_nil]
      exact hstay
    | ok read =>
      obtain ⟨points, last, deferred⟩ := read
      obtain ⟨houtcome, hfetch⟩ := Delivery.fetch_of_ok hcollect
      obtain ⟨read, left, hpoints, hlast, hend⟩ :=
        forward_reads J (h.suited hl) hstands hforward
      rw [hfetch, houtcome]
      refine ⟨read, left, ⟨?_, ?_, ?_⟩, fun _ hok hfew => hend ?_⟩
      · rw [← List.append_assoc before]
        exact hlast.entries
      · rw [h.points, hpoints, List.map_append]
        rfl
      · have htoken := hlast.token
        rw [List.append_assoc, List.getLast?_append_of_ne_nil _ (by simp [hbegun])] at htoken
        rw [h.reader, htoken]
        rfl
      · cases hok
        rw [hpoints, List.nil_append, List.length_map] at hfew
        rw [hbatch]
        exact hfew

end Steps

/-! ### Runs -/

/-- A reader's stretch begins with the newest page of the journal at the first of its fetches that
returned any points. -/
def Begun (J : Journal σ url) (l : Ledger) (s : σ) (n : Nat) (before stretch : List Transaction) :
    Prop :=
  ∃ k < n, ∃ page rest, stretch = page ++ rest ∧ page ≠ [] ∧
    ((Delivery.begin l s).fetches J.serve k).points = [] ∧
    Progress J l ((Delivery.begin l s).fetches J.serve (k + 1)) before page [] ∧
    page = (before ++ page).rtake l.batch.toNat

/-- What holds of a reader after any number of fetches. -/
theorem fetches_progress {J : Journal σ url} {l : Ledger} (hl : Suited url l)
    (hnew : l.cursor = none) (s : σ) (n : Nat) :
    ∃ before stretch after,
      Progress J l ((Delivery.begin l s).fetches J.serve n) before stretch after ∧
        (stretch = [] ∨ Begun J l s n before stretch) := by
  induction n with
  | zero =>
    refine ⟨[], [], J.entries s, ⟨rfl, rfl, ?_⟩, .inl rfl⟩
    show l = { l with cursor := none }
    rw [← hnew]
  | succ n ih =>
    obtain ⟨before, stretch, after, hprogress, hbegun⟩ := ih
    by_cases hempty : stretch = []
    · subst hempty
      rcases hprogress.first hl with ⟨after', h⟩ | ⟨before', page, hne, hnewest, h⟩
      · exact ⟨before, [], after', h, .inl rfl⟩
      · exact ⟨before', page, [], h, .inr ⟨n, n.lt_succ_self, page, [], (List.append_nil _).symm,
          hne, hprogress.points, h, hnewest⟩⟩
    · obtain ⟨k, hk, page, rest, rfl, hpage⟩ := hbegun.resolve_left hempty
      obtain ⟨read, after', h, _⟩ := hprogress.next hl hempty
      exact ⟨before, _, after', h, .inr ⟨k, Nat.lt_succ_of_lt hk, page, rest ++ read,
        List.append_assoc page rest read, hpage⟩⟩

/-- **What a reader delivers is one stretch of the journal**, whatever fetches failed and however
the journal grew: from the newest page at its first good answer to the transaction at its cursor,
nothing left out, repeated or moved. A fetch with a cursor that returns less than all pages full
has come to the end of the journal. -/
theorem delivers_stretch (base : String) (timeout : Number) {batch : Int} (maxPages : Int)
    (hbatch : 1 ≤ batch)
    (J : Journal σ ((Ledger.make base timeout batch maxPages).base ++ "/transactions")) (s : σ)
    (n : Nat) :
    let l := Ledger.make base timeout batch maxPages
    let d := (Delivery.begin l s).fetches J.serve n
    (∃ before stretch after, Progress J l d before stretch after ∧
      (stretch = [] ∨ Begun J l s n before stretch)) ∧
    ∀ points, d.reader.cursor ≠ none → d.outcome J.serve = .ok points →
      (points.length : Int) < l.maxPages * l.batch →
      ∃ before stretch, stretch ≠ [] ∧ Progress J l (d.fetch J.serve) before stretch [] := by
  intro l d
  have hleast : 1 ≤ l.batch := by
    have : (1 : Int) ≤ pageLimit := by decide
    show 1 ≤ min batch pageLimit
    omega
  have hl : Suited (l.base ++ "/transactions") l := ⟨rfl, hleast, Int.min_le_right batch pageLimit⟩
  have hd := fetches_progress (J := J) hl rfl s n
  refine ⟨hd, fun points hcursor houtcome hfew => ?_⟩
  obtain ⟨before, stretch, after, hprogress, _⟩ := hd
  have hne : stretch ≠ [] := by
    rintro rfl
    refine hcursor ?_
    rw [hprogress.reader]
    rfl
  obtain ⟨read, after', h, hend⟩ := hprogress.next hl hne
  obtain rfl := hend points houtcome hfew
  exact ⟨before, stretch ++ read, by simp [hne], h⟩

/-! ### A journal of two transactions -/

namespace Sample

/-- The text of a page of transactions with given tokens. -/
def pageText (tokens : List String) : String :=
  let item (token : String) : Datum := .record [("paging_token", .text token),
    ("fee_charged", .int 7), ("created_at", .text "0001-01-01"), ("hash", .text token),
    ("ledger", .int 1)]
  Json.write .ascii (.record [("_embedded", .record [("records", .list (tokens.map item))])])

/-- The transactions of a page. -/
def items? (tokens : List String) : Option (List Datum) :=
  (Json.read (pageText tokens)).toOption.bind fun body => (transactions body).toOption

/-- The transaction of a page that has one. -/
@[irreducible] def record (token : String) : Datum := ((items? [token]).getD []).headD .null

def point (token : String) : Point := ⟨7, .earliest, token, 1⟩

/-- Whether the transaction of a page is read as it was written. -/
def isRead (token : String) : Bool :=
  match items? [token] with
  | some [d] =>
    decide (readTransaction d = .ok (point token)) &&
      decide ((d.get? "paging_token").bind Datum.text? = some token)
  | _ => false

theorem items?_of_isRead {token : String} (h : isRead token = true) :
    items? [token] = some [record token] ∧ readTransaction (record token) = .ok (point token) ∧
      ((record token).get? "paging_token").bind Datum.text? = some token := by
  unfold isRead at h
  split at h
  · rename_i d hd
    have hrecord : record token = d := by
      unfold record
      simp only [hd]
      rfl
    simp only [Bool.and_eq_true, decide_eq_true_eq] at h
    rw [hrecord]
    exact ⟨hd, h⟩
  · cases h

theorem content_pageText {tokens : List String} (url : String) {items : List Datum}
    (h : items? tokens = some items) :
    ∃ body, (Reply.answer 200 none (pageText tokens)).content url = .ok body ∧
      transactions body = .ok items := by
  obtain ⟨body, hbody, hitems⟩ := Option.bind_eq_some_iff.mp h
  cases hread : Json.read (pageText tokens) with
  | error f => rw [hread] at hbody; cases hbody
  | ok d =>
    rw [hread] at hbody
    cases hbody
    refine ⟨body, by simp [Reply.content, hread], ?_⟩
    cases htx : transactions body with
    | error f => rw [htx] at hitems; cases hitems
    | ok its => rw [htx] at hitems; cases hitems; rfl

/-- A transaction that is read as it was written. -/
def transaction (token : String) (h : isRead token = true) (named : token ≠ "") : Transaction :=
  ⟨record token, point token, token, (items?_of_isRead h).2.1, (items?_of_isRead h).2.2, named⟩

theorem items?_transaction {token : String} (h : isRead token = true) (named : token ≠ "") :
    items? [token] = some ([transaction token h named].map Transaction.record) :=
  (items?_of_isRead h).1

theorem isRead_first : isRead "a" = true := by decide +kernel

theorem isRead_second : isRead "b" = true := by decide +kernel

def first : Transaction := transaction "a" isRead_first (by decide)

def second : Transaction := transaction "b" isRead_second (by decide)

theorem items?_nil : items? [] = some [] := by
  have h : (items? []).map List.length = some 0 := by decide +kernel
  obtain ⟨items, hitems, hlength⟩ := Option.map_eq_some_iff.mp h
  rw [hitems, List.length_eq_zero_iff.mp hlength]

theorem take_singleton {β : Type} (x : β) {limit : Int} (h : 1 ≤ limit) :
    [x].take limit.toNat = [x] := by
  refine List.take_of_length_le ?_
  rw [List.length_singleton]
  omega

/-- The first transaction is there at once, then a request fails, then the second one comes. -/
def reply : Nat → Query → Reply
  | 0, .newest _ => .answer 200 none (pageText ["a"])
  | _ + 2, .after "a" _ => .answer 200 none (pageText ["b"])
  | _ + 2, .after _ _ => .answer 200 none (pageText [])
  | _, _ => .timeout "no answer"

/-- What the journal holds after a number of requests. -/
def entries : Nat → List Transaction
  | 0 => []
  | 1 | 2 => [first]
  | _ + 3 => [first, second]

theorem reply_answers (url : String) (n : Nat) (query : Query)
    (h : query.Proper (entries (n + 1))) :
    (∃ f, ((reply n query).content url).bind (Ledger.readPage query) = .error f) ∨
      ∃ body, (reply n query).content url = .ok body ∧
        transactions body = .ok ((query.select (entries (n + 1))).map Transaction.record) := by
  match n, query with
  | 0, .newest limit =>
    show _ ∨ ∃ body, _ ∧
      transactions body = .ok (([first].take limit.toNat).map Transaction.record)
    rw [take_singleton first h.1]
    exact .inr (content_pageText url (items?_transaction isRead_first (by decide)))
  | n + 2, .after cursor limit =>
    have hcursor : cursor = "a" ∨ cursor = "b" := by
      simpa [entries, first, second, transaction] using h.2.2
    rcases hcursor with rfl | rfl
    · show _ ∨ ∃ body, _ ∧
        transactions body = .ok (([second].take limit.toNat).map Transaction.record)
      rw [take_singleton second h.1]
      exact .inr (content_pageText url (items?_transaction isRead_second (by decide)))
    · show _ ∨ ∃ body, _ ∧
        transactions body = .ok ((([] : List Transaction).take limit.toNat).map Transaction.record)
      rw [List.take_nil]
      exact .inr (content_pageText url items?_nil)
  | 0, .after .. | 1, .newest _ | 1, .after .. | n + 2, .newest _ => exact .inl ⟨_, rfl⟩

def journal (url : String) : Journal Nat url where
  serve n r := (r.query.elim (.timeout "no answer") (reply n), n + 1)
  entries := entries
  distinct n := by
    match n with
    | 0 => exact .nil
    | 1 | 2 | _ + 3 => simp [entries, first, second, transaction]
  grows n _ := by
    match n with
    | 0 | 1 | 2 | _ + 3 => exact ⟨_, rfl⟩
  answers n query _ h := reply_answers url n query h

end Sample

/-- A transaction, a failed fetch, and the transaction that came after it. -/
theorem delivers_stretch_resumed :
    let l := Ledger.make "https://h/" 10 1 2
    let J := Sample.journal (l.base ++ "/transactions")
    let d := (Delivery.begin l 0).fetches J.serve 2
    (d.reader.cursor = some "a" ∧ d.outcome J.serve = .ok [Sample.point "b"] ∧
      (d.fetch J.serve).points = [Sample.point "a", Sample.point "b"]) ∧
      ∃ before stretch, stretch ≠ [] ∧ Progress J l (d.fetch J.serve) before stretch [] := by
  have hend := (@delivers_stretch Nat "https://h/" 10 1 2 (by decide) (Sample.journal _) 0 2).2
  refine (fun h => ⟨h, hend _ (fun hnone => ?_) h.2.1 (by decide +kernel)⟩) (by decide +kernel)
  cases hnone.symm.trans h.1

end FeeWatch.Source
