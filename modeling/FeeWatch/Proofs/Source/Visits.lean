import FeeWatch.Proofs.Source.Delivery

/-! What one fetch does to a service, whatever the service answers.

A fetch visits the service page by page: it makes a request, and what comes of it either is a page
or ends the fetch with a fault. Nothing is assumed of the service here; its answers may be of any
shape, and pages may be empty, too long or repeat tokens. `Course` says what the visits of a fetch
have in common: each asks for what comes behind the pages before it, and none follows a page that
is not full. `forward_course` follows the loop through the pages, one step lemma for each way that
a visit goes on (`Course.cons`) or ends (`Course.last`, `Course.failed`, `Course.nil`).
`fetch_all_or_nothing` joins this with what a fetch returns: the points of all pages that were
read, or a fault that leaves the reader as it was. -/
namespace FeeWatch

/-- Items that were read one after the other, item by item. -/
theorem mapM_eq_ok {ε α β : Type} {read : α → Except ε β} {items : List α} {values : List β} :
    items.mapM read = .ok values ↔
      List.Forall₂ (fun item value => read item = .ok value) items values := by
  induction items generalizing values with
  | nil =>
    constructor
    · intro h
      cases h
      exact .nil
    · rintro ⟨⟩
      rfl
  | cons item items ih =>
    rw [List.mapM_cons, bind_eq_ok]
    constructor
    · rintro ⟨value, hvalue, h⟩
      obtain ⟨rest, hrest, h⟩ := bind_eq_ok.mp h
      cases h
      exact .cons hvalue (ih.mp hrest)
    · rintro (_ | ⟨hvalue, hrest⟩)
      exact ⟨_, hvalue, bind_eq_ok.mpr ⟨_, ih.mpr hrest, rfl⟩⟩

namespace Source

open FeeWatch.Fee (Point)
open Ledger (Page readTransaction readToken transactions readPage)

/-! ### Pages -/

theorem readToken_eq_ok {d : Datum} {text : String} :
    readToken d = .ok text ↔
      ∃ token, d.get? "paging_token" = some token ∧ token.isSome = true ∧ token.written = text := by
  rw [readToken]
  cases d.get? "paging_token" with
  | none => simp
  | some token =>
    dsimp only
    split <;> simp [*]

/-- A page holds the points of transactions and the text of the last one's paging token. -/
structure Ledger.Page.Holds (p : Page) (items : List Datum) : Prop where
  points : List.Forall₂ (fun item point => readTransaction item = .ok point) items p.points
  size : p.size = items.length
  unpaged : items = [] → p.token = none
  paged : ∀ last, items.getLast? = some last →
    ∃ token, last.get? "paging_token" = some token ∧ token.isSome = true ∧
      p.token = some token.written

theorem ofItems_eq_ok {items : List Datum} {p : Page} :
    Page.ofItems items = .ok p ↔ p.Holds items := by
  rw [Page.ofItems, bind_eq_ok]
  constructor
  · rintro ⟨points, hpoints, h⟩
    have hread := mapM_eq_ok.mp hpoints
    cases hlast : items.getLast? with
    | none =>
      rw [hlast] at h
      cases h
      exact ⟨hread, rfl, fun _ => rfl, fun _ h => by rw [hlast] at h; cases h⟩
    | some last =>
      rw [hlast] at h
      obtain ⟨text, htext, h⟩ := bind_eq_ok.mp h
      cases h
      obtain ⟨token, hget, hsome, rfl⟩ := readToken_eq_ok.mp htext
      refine ⟨hread, rfl, fun hnil => ?_, fun _ h => ?_⟩
      · rw [hnil] at hlast
        cases hlast
      · cases hlast.symm.trans h
        exact ⟨token, hget, hsome, rfl⟩
  · intro h
    obtain ⟨points, token, size⟩ := p
    obtain ⟨hread, hsize, hunpaged, hpaged⟩ := h
    obtain rfl : size = items.length := hsize
    refine ⟨points, mapM_eq_ok.mpr hread, ?_⟩
    cases hlast : items.getLast? with
    | none =>
      obtain rfl : token = none := hunpaged (List.getLast?_eq_none_iff.mp hlast)
      rfl
    | some last =>
      obtain ⟨paging, hget, hsome, htoken⟩ := hpaged last hlast
      obtain rfl : token = some paging.written := htoken
      exact bind_eq_ok.mpr ⟨_, readToken_eq_ok.mpr ⟨paging, hget, hsome, rfl⟩, rfl⟩

/-- The token at which pages end: that of the last page that has one. -/
def lastToken (pages : List Page) : Option String := (pages.filterMap Page.token).getLast?

theorem lastToken_cons (p : Page) (pages : List Page) :
    lastToken (p :: pages) = (lastToken pages).or p.token := by
  rw [lastToken, lastToken, List.filterMap_cons]
  cases p.token with
  | none => rw [Option.or_none]
  | some token =>
    rw [List.getLast?_cons]
    cases (pages.filterMap Page.token).getLast? <;> rfl

/-! ### Visits -/

/-- A request, and what came of it. -/
structure Visit where
  request : Request
  reply : Reply

/-- A service that notes its visits, the latest last. -/
def noting {σ : Type} (serve : Service σ) : Service (σ × List Visit) := fun s r =>
  ((serve s.1 r).1, (serve s.1 r).2, s.2 ++ [⟨r, (serve s.1 r).1⟩])

namespace Visit

/-- A visit brings a page: that of the transactions of the answer, the oldest first. -/
def Brings (v : Visit) (p : Page) : Prop :=
  ∃ query body items, v.request.query = some query ∧ v.reply.content v.request.url = .ok body ∧
    transactions body = .ok items ∧ p.Holds (query.ordered items)

/-- A visit fails: there is no answer, or no page can be read from it. -/
def Fails (v : Visit) (f : Fault) : Prop :=
  ∃ query, v.request.query = some query ∧
    (v.reply.content v.request.url).bind (readPage query) = .error f

theorem brings_iff {v : Visit} {p : Page} :
    v.Brings p ↔ ∃ query, v.request.query = some query ∧
      (v.reply.content v.request.url).bind (readPage query) = .ok p := by
  refine exists_congr fun query => ⟨?_, ?_⟩
  · rintro ⟨body, items, hquery, hbody, hitems, hp⟩
    refine ⟨hquery, bind_eq_ok.mpr ⟨body, hbody, ?_⟩⟩
    rw [readPage_eq, hitems]
    exact ofItems_eq_ok.mpr hp
  · rintro ⟨hquery, h⟩
    obtain ⟨body, hbody, h⟩ := bind_eq_ok.mp h
    rw [readPage_eq] at h
    obtain ⟨items, hitems, h⟩ := bind_eq_ok.mp h
    exact ⟨body, items, hquery, hbody, hitems, ofItems_eq_ok.mp h⟩

/-- No visit that fails brings a page. -/
theorem Brings.not_fails {v : Visit} {p : Page} (h : v.Brings p) (f : Fault) : ¬ v.Fails f := by
  rintro ⟨query, hquery, hfault⟩
  obtain ⟨query', hquery', hpage⟩ := brings_iff.mp h
  cases hquery.symm.trans hquery'
  cases hpage.symm.trans hfault

theorem Fails.unique {v : Visit} {f g : Fault} (hf : v.Fails f) (hg : v.Fails g) : f = g := by
  obtain ⟨query, hquery, hf⟩ := hf
  obtain ⟨query', hquery', hg⟩ := hg
  cases hquery.symm.trans hquery'
  exact Except.error.inj (hf.symm.trans hg)

end Visit

/-! ### Courses of visits -/

namespace Ledger

def request (l : Ledger) (query : Query) : Request := ⟨l.base ++ "/transactions", some query, l.timeout⟩

/-- What is asked for behind pages that were read from a cursor on. -/
def following (l : Ledger) (cursor : String) (pages : List Page) : Query :=
  .after ((lastToken pages).getD cursor) l.batch

/-- Behind a page and others is behind the others, read on from the page. -/
theorem following_cons (l : Ledger) (cursor : String) (p : Page) (pages : List Page) :
    l.following cursor (p :: pages) = l.following (p.token.getD cursor) pages := by
  rw [following, following, lastToken_cons, Option.getD_or]

/-- What a fetch asks for when it has read pages. -/
def query (l : Ledger) (pages : List Page) : Query :=
  match l.cursor with
  | none => .newest l.batch
  | some cursor => l.following cursor pages

/-- A course of visits, at most a number of them, and the pages that they brought. All visits
brought pages, but for the last one if the course ends with a fault. -/
structure Course (l : Ledger) (ask : List Page → Query) (limit : Nat) (visits : List Visit)
    (pages : List Page) (fault : Option Fault) : Prop where
  /-- Each visit asks for what comes behind the pages before it. -/
  asked : ∀ (i : Nat) v, visits[i]? = some v → v.request = l.request (ask (pages.take i))
  brought : ∀ (i : Nat) (v : Visit) p, visits[i]? = some v → pages[i]? = some p → v.Brings p
  /-- No visit follows a page that is not full. -/
  short : ∀ (i : Nat) p, pages[i]? = some p → (p.size : Int) < l.batch → visits.length = i + 1
  most : visits.length ≤ limit
  complete : fault = none → visits.length = pages.length
  ended : ∀ f, fault = some f → visits.length = pages.length + 1 ∧
    ∃ v, visits.getLast? = some v ∧ v.Fails f

theorem eq_of_getElem?_singleton {α : Type} {a b : α} {i : Nat} (h : [a][i]? = some b) :
    i = 0 ∧ b = a := by
  cases i with
  | zero => exact ⟨rfl, (Option.some.inj h).symm⟩
  | succ i => cases h

section Steps
variable {l : Ledger} {ask : List Page → Query} {limit : Nat} {v : Visit} {p : Page}

theorem Course.nil : l.Course ask limit [] [] none where
  asked i v h := by cases h
  brought i v p h := by cases h
  short i p h := by cases h
  most := Nat.zero_le limit
  complete _ := rfl
  ended f h := by cases h

/-- The course that ends with its first page. -/
theorem Course.last (hasked : v.request = l.request (ask [])) (hbrings : v.Brings p) :
    l.Course ask (limit + 1) [v] [p] none where
  asked i w hw := by
    obtain ⟨rfl, rfl⟩ := eq_of_getElem?_singleton hw
    exact hasked
  brought i w q hw hq := by
    obtain ⟨rfl, rfl⟩ := eq_of_getElem?_singleton hw
    obtain ⟨_, rfl⟩ := eq_of_getElem?_singleton hq
    exact hbrings
  short i q hq _ := by
    obtain ⟨rfl, _⟩ := eq_of_getElem?_singleton hq
    rfl
  most := Nat.le_add_left 1 limit
  complete _ := rfl
  ended f h := by cases h

/-- The course whose first visit fails. -/
theorem Course.failed {f : Fault} (hasked : v.request = l.request (ask [])) (hfails : v.Fails f) :
    l.Course ask (limit + 1) [v] [] (some f) where
  asked i w hw := by
    obtain ⟨rfl, rfl⟩ := eq_of_getElem?_singleton hw
    exact hasked
  brought i w q _ hq := by cases hq
  short i p h := by cases h
  most := Nat.le_add_left 1 limit
  complete h := by cases h
  ended g hg := by
    cases hg
    exact ⟨rfl, v, rfl, hfails⟩

/-- A full page goes before the course that follows it. -/
theorem Course.cons {visits : List Visit} {pages : List Page} {fault : Option Fault}
    (hasked : v.request = l.request (ask [])) (hbrings : v.Brings p)
    (hfull : ¬ (p.size : Int) < l.batch)
    (h : l.Course (fun pages => ask (p :: pages)) limit visits pages fault) :
    l.Course ask (limit + 1) (v :: visits) (p :: pages) fault where
  asked i w hw := by
    cases i with
    | zero =>
      cases hw
      exact hasked
    | succ i => exact h.asked i w hw
  brought i w q hw hq := by
    cases i with
    | zero =>
      cases hw
      cases hq
      exact hbrings
    | succ i => exact h.brought i w q hw hq
  short i q hq hshort := by
    cases i with
    | zero =>
      cases hq
      exact absurd hshort hfull
    | succ i => exact congrArg Nat.succ (h.short i q hq hshort)
  most := Nat.succ_le_succ h.most
  complete hnone := congrArg Nat.succ (h.complete hnone)
  ended f hf := by
    obtain ⟨hlength, w, hw, hfails⟩ := h.ended f hf
    refine ⟨congrArg Nat.succ hlength, w, ?_, hfails⟩
    rw [List.getLast?_cons, hw]
    rfl

/-- The last visit of a course without a fault does not fail. -/
theorem Course.last_not_fails {visits : List Visit} {pages : List Page}
    (h : l.Course ask limit visits pages none) (hlast : visits.getLast? = some v) (f : Fault) :
    ¬ v.Fails f := by
  rw [List.getLast?_eq_getElem?] at hlast
  obtain ⟨hlt, _⟩ := List.getElem?_eq_some_iff.mp hlast
  have hpage : visits.length - 1 < pages.length := h.complete rfl ▸ hlt
  exact (h.brought _ v _ hlast (List.getElem?_eq_getElem hpage)).not_fails f

end Steps

/-! ### The visits of a fetch -/

section Visits
variable {σ : Type} (serve : Service σ) (l : Ledger)

/-- The visit by which a page is asked for. -/
def visit (query : Query) (s : σ) : Visit := ⟨l.request query, (serve s (l.request query)).1⟩

theorem page_noting (query : Query) (s : σ) (notes : List Visit) :
    l.page (noting serve) query (s, notes) =
      ((l.page serve query s).1, (l.page serve query s).2, notes ++ [l.visit serve query s]) := rfl

variable {serve l} in
theorem visit_brings {query : Query} {s s' : σ} {p : Page}
    (h : l.page serve query s = (.ok p, s')) : (l.visit serve query s).Brings p :=
  Visit.brings_iff.mpr ⟨query, rfl, congrArg Prod.fst h⟩

variable {serve l} in
theorem visit_fails {query : Query} {s s' : σ} {f : Fault}
    (h : l.page serve query s = (.error f, s')) : (l.visit serve query s).Fails f :=
  ⟨query, rfl, congrArg Prod.fst h⟩

/-- Going forward takes a course of visits. It comes to the points of all pages behind those that
there were, and to the token at which the pages end. -/
theorem forward_course (limit : Nat) (cursor : String) (points : List Point) (s : σ)
    (notes : List Visit) :
    ∃ visits pages,
      l.forward (noting serve) limit cursor points (s, notes) =
        ((l.forward serve limit cursor points s).1, (l.forward serve limit cursor points s).2,
          notes ++ visits) ∧
      ((∃ full, (l.forward serve limit cursor points s).1 =
          .ok (points ++ pages.flatMap Page.points, (lastToken pages).getD cursor, full) ∧
          l.Course (l.following cursor) limit visits pages none) ∨
        ∃ f, (l.forward serve limit cursor points s).1 = .error f ∧
          l.Course (l.following cursor) limit visits pages (some f)) := by
  induction limit generalizing cursor points s notes with
  | zero =>
    refine ⟨[], [], ?_, .inl ⟨true, ?_, .nil⟩⟩
    · rw [List.append_nil]
      rfl
    · rw [List.flatMap_nil, List.append_nil]
      rfl
  | succ limit ih =>
    rw [forward, forward, page_noting]
    cases hpage : l.page serve (.after cursor l.batch) s with
    | mk result s' =>
      cases result with
      | error f => exact ⟨[_], [], rfl, .inr ⟨f, rfl, .failed rfl (visit_fails hpage)⟩⟩
      | ok p =>
        dsimp only
        by_cases hshort : (p.size : Int) < l.batch
        · rw [if_pos hshort, if_pos hshort]
          refine ⟨[_], [p], rfl, .inl ⟨false, ?_, .last rfl (visit_brings hpage)⟩⟩
          rw [List.flatMap_cons, List.flatMap_nil, List.append_nil, lastToken_cons]
          rfl
        · rw [if_neg hshort, if_neg hshort]
          obtain ⟨visits, pages, hnotes, hends⟩ := ih (p.token.getD cursor) (points ++ p.points) s'
            (notes ++ [l.visit serve (.after cursor l.batch) s])
          have hcons {fault : Option Fault}
              (h : l.Course (l.following (p.token.getD cursor)) limit visits pages fault) :
              l.Course (l.following cursor) (limit + 1)
                (l.visit serve (.after cursor l.batch) s :: visits) (p :: pages) fault := by
            refine .cons rfl (visit_brings hpage) hshort ?_
            have hask : (fun pages => l.following cursor (p :: pages)) =
                l.following (p.token.getD cursor) := funext (l.following_cons cursor p)
            rw [hask]
            exact h
          refine ⟨l.visit serve (.after cursor l.batch) s :: visits, p :: pages, ?_,
            hends.imp ?_ ?_⟩
          · rw [hnotes, List.append_assoc]
            rfl
          · rintro ⟨full, hresult, hcourse⟩
            refine ⟨full, ?_, hcons hcourse⟩
            rw [hresult, List.flatMap_cons, List.append_assoc, lastToken_cons, Option.getD_or]
          · rintro ⟨f, hresult, hcourse⟩
            exact ⟨f, hresult, hcons hcourse⟩

/-- A fetch takes a course of visits, too. -/
theorem collect_course (hpages : 1 ≤ l.maxPages) (s : σ) (notes : List Visit) :
    ∃ visits pages,
      l.collect (noting serve) (s, notes) =
        ((l.collect serve s).1, (l.collect serve s).2, notes ++ visits) ∧
      ((∃ cursor deferred,
          (l.collect serve s).1 = .ok (pages.flatMap Page.points, cursor, deferred) ∧
          cursor.or l.cursor = (lastToken pages).or l.cursor ∧
          l.Course l.query l.maxPages visits pages none) ∨
        ∃ f, (l.collect serve s).1 = .error f ∧
          l.Course l.query l.maxPages visits pages (some f)) := by
  cases hcursor : l.cursor with
  | none =>
    obtain ⟨limit, hlimit⟩ : ∃ limit, l.maxPages = limit + 1 := ⟨_, (Nat.sub_add_cancel hpages).symm⟩
    have hasked : (l.visit serve (.newest l.batch) s).request = l.request (l.query []) := by
      rw [query, hcursor]
      rfl
    rw [hlimit]
    cases hpage : l.page serve (.newest l.batch) s with
    | mk result s' =>
      have hnoted := page_noting serve l (.newest l.batch) s notes
      rw [hpage] at hnoted
      rw [collect_of_none hcursor hpage, collect_of_none hcursor hnoted]
      cases result with
      | error f => exact ⟨[_], [], rfl, .inr ⟨f, rfl, .failed hasked (visit_fails hpage)⟩⟩
      | ok p =>
        refine ⟨[_], [p], rfl, .inl ⟨p.token, false, ?_, ?_, .last hasked (visit_brings hpage)⟩⟩
        · rw [List.flatMap_cons, List.flatMap_nil, List.append_nil]
          rfl
        · rw [lastToken_cons]
          rfl
  | some cursor =>
    have hquery : l.query = l.following cursor := by
      funext pages
      rw [query, hcursor]
    obtain ⟨visits, pages, hnoted, hends⟩ :=
      forward_course serve l l.maxPages cursor [] s notes
    refine ⟨visits, pages, ?_, ?_⟩
    · rw [collect_of_some hcursor hnoted, collect_of_some hcursor rfl]
    · rw [collect_of_some hcursor rfl, hquery]
      refine hends.imp ?_ ?_
      · rintro ⟨full, hresult, hcourse⟩
        refine ⟨some ((lastToken pages).getD cursor), full, ?_, ?_, hcourse⟩
        · rw [hresult]
          rfl
        · cases lastToken pages <;> rfl
      · rintro ⟨f, hresult, hcourse⟩
        refine ⟨f, ?_, hcourse⟩
        rw [hresult]
        rfl

def visits (s : σ) : List Visit := (l.fetch (noting serve) (s, [])).2.2.1.2

/-- A fetch takes a course of visits. That they are noted changes nothing else. -/
theorem fetch_course (hpages : 1 ≤ l.maxPages) (s : σ) :
    l.fetch (noting serve) (s, []) =
        ((l.fetch serve s).1, (l.fetch serve s).2.1, ((l.fetch serve s).2.2.1, l.visits serve s),
          (l.fetch serve s).2.2.2) ∧
      ((∃ pages, l.Course l.query l.maxPages (l.visits serve s) pages none ∧
          (l.fetch serve s).1 = .ok (pages.flatMap Page.points) ∧
          (l.fetch serve s).2.1 = { l with cursor := (lastToken pages).or l.cursor }) ∨
        ∃ f pages, l.Course l.query l.maxPages (l.visits serve s) pages (some f) ∧
          (l.fetch serve s).1 = .error f ∧ (l.fetch serve s).2.1 = l) := by
  obtain ⟨visits, pages, hnoted, hends⟩ := collect_course serve l hpages s []
  rw [List.nil_append] at hnoted
  cases hcollect : l.collect serve s with
  | mk result s' =>
    rw [hcollect] at hnoted hends
    rcases hends with ⟨cursor, deferred, hresult, hcursor, hcourse⟩ | ⟨f, hresult, hcourse⟩
    · obtain rfl : result = .ok (pages.flatMap Page.points, cursor, deferred) := hresult
      have hvisits : l.visits serve s = visits := by
        rw [Ledger.visits, fetch, hnoted]
      rw [hvisits, fetch, fetch, hnoted, hcollect]
      exact ⟨rfl, .inl ⟨pages, hcourse, rfl, congrArg (fun cursor => { l with cursor }) hcursor⟩⟩
    · obtain rfl : result = .error f := hresult
      have hvisits : l.visits serve s = visits := by
        rw [Ledger.visits, fetch, hnoted]
      rw [hvisits, fetch, fetch, hnoted, hcollect]
      exact ⟨rfl, .inr ⟨f, pages, hcourse, rfl, rfl⟩⟩

variable {serve l} in
/-- A fetch ends with a fault just when its last visit does. -/
theorem fetch_fault_iff (hpages : 1 ≤ l.maxPages) {s : σ} {f : Fault} :
    (l.fetch serve s).1 = .error f ↔
      ∃ v, (l.visits serve s).getLast? = some v ∧ v.Fails f := by
  rcases (fetch_course serve l hpages s).2 with
    ⟨pages, hcourse, hresult, _⟩ | ⟨g, pages, hcourse, hresult, _⟩
  · rw [hresult]
    exact ⟨nofun, fun ⟨v, hlast, hfails⟩ => (hcourse.last_not_fails hlast f hfails).elim⟩
  · rw [hresult]
    obtain ⟨_, v, hlast, hfails⟩ := hcourse.ended g rfl
    constructor
    · rintro ⟨⟩
      exact ⟨v, hlast, hfails⟩
    · rintro ⟨w, hw, hfault⟩
      cases hlast.symm.trans hw
      rw [hfails.unique hfault]

end Visits

/-- **A fetch is all or nothing**, whatever the service answers. A fetch that returns has read
the page of each visit, and returns the points of all transactions of these pages in their order;
the cursor moves to the token at which they end, if any of them has one. A fault, on whichever
page, leaves the reader as it was. -/
theorem fetch_all_or_nothing {σ : Type} (serve : Service σ) (l : Ledger)
    (hpages : 1 ≤ l.maxPages) (s : σ) :
    (∀ points, (l.fetch serve s).1 = .ok points →
      ∃ pages, l.Course l.query l.maxPages (l.visits serve s) pages none ∧
        points = pages.flatMap Page.points ∧
        (l.fetch serve s).2.1 = { l with cursor := (lastToken pages).or l.cursor }) ∧
      ∀ f, (l.fetch serve s).1 = .error f →
        (∃ pages, l.Course l.query l.maxPages (l.visits serve s) pages (some f)) ∧
          (l.fetch serve s).2.1 = l := by
  rcases (fetch_course serve l hpages s).2 with
    ⟨pages, hcourse, hresult, hreader⟩ | ⟨g, pages, hcourse, hresult, hreader⟩
  · rw [hresult]
    refine ⟨fun points h => ?_, nofun⟩
    cases h
    exact ⟨pages, hcourse, rfl, hreader⟩
  · rw [hresult]
    refine ⟨nofun, fun f h => ?_⟩
    cases h
    exact ⟨⟨pages, hcourse⟩, hreader⟩

/-- Two full pages, and a fetch that is cut off behind the first of them. -/
theorem fetch_all_or_nothing_twoPages :
    let l : Ledger := { Ledger.make "https://h" 10 1 2 with cursor := some "0" }
    let page (token : String) : Reply := .answer 200 none (Sample.pageText [token])
    let whole : Script := ⟨[page "a", page "b"], []⟩
    let cut : Script := ⟨[page "a", .timeout "no answer"], []⟩
    (1 ≤ l.maxPages ∧
      (l.fetch Script.serve whole).1 = .ok [Sample.point "a", Sample.point "b"] ∧
      (l.fetch Script.serve cut).1 =
        .error (.failure (.network "timeout calling https://h/transactions: no answer"))) ∧
      (∃ pages, l.Course l.query l.maxPages (l.visits Script.serve whole) pages none ∧
        [Sample.point "a", Sample.point "b"] = pages.flatMap Page.points ∧
        (l.fetch Script.serve whole).2.1 = { l with cursor := (lastToken pages).or l.cursor }) ∧
      (l.fetch Script.serve cut).2.1 = l := by
  intro l page whole cut
  have hrun : 1 ≤ l.maxPages ∧
      (l.fetch Script.serve whole).1 = .ok [Sample.point "a", Sample.point "b"] ∧
      (l.fetch Script.serve cut).1 =
        .error (.failure (.network "timeout calling https://h/transactions: no answer")) := by
    decide +kernel
  obtain ⟨hpages, hwhole, hcut⟩ := hrun
  exact ⟨⟨hpages, hwhole, hcut⟩,
    (fetch_all_or_nothing Script.serve l hpages whole).1 _ hwhole,
    ((fetch_all_or_nothing Script.serve l hpages cut).2 _ hcut).2⟩

end Ledger
end Source
end FeeWatch
