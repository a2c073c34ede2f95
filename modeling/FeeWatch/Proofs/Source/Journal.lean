import FeeWatch.Proofs.Setting
import FeeWatch.Source.Ledger
import Mathlib.Data.List.DropRight

/-! What a reader gets from a service that keeps a journal.

A journal only grows, by transactions that are put at its end at any time. Each has a
paging token of its own, so a cursor names one place (`select_after`). A request for a
page fails, or it brings the transactions that it asks for out of those which the
journal holds when the service answers; `page_cases` tells what the reader makes of
that. `forward_reads` follows the cursor through the pages of one fetch while the
journal grows under it. -/
namespace FeeWatch.Source

open FeeWatch.Fee (Point)
open Ledger (pageLimit readTransaction readToken transactions readPage Page)

/-! ### Journals -/

structure Transaction where
  record : Datum
  point : Point
  token : String
  readable : readTransaction record = .ok point
  paged : (record.get? "paging_token").bind Datum.text? = some token
  named : token ≠ ""

namespace Query

/-- The transactions that a query asks for, in the order in which it asks for them. -/
def select (query : Query) (entries : List Transaction) : List Transaction :=
  match query with
  | .newest limit => entries.reverse.take limit.toNat
  | .after cursor limit => ((entries.dropWhile (·.token != cursor)).drop 1).take limit.toNat

/-- Whether a query can be answered: it asks for as many transactions as fit on a page, and its
cursor is a token. -/
def Proper (query : Query) (entries : List Transaction) : Prop :=
  match query with
  | .newest limit => 1 ≤ limit ∧ limit ≤ pageLimit
  | .after cursor limit =>
    1 ≤ limit ∧ limit ≤ pageLimit ∧ cursor ∈ entries.map Transaction.token

/-- The transactions of an answer, oldest first. -/
def ordered {β : Type} : Query → List β → List β
  | .newest _, items => items.reverse
  | .after .., items => items

end Query

/-- A service that keeps a journal of transactions at an address. What is put into the journal
between two requests counts with the later one. -/
structure Journal (σ : Type) (url : String) where
  serve : Service σ
  entries : σ → List Transaction
  distinct : ∀ s, ((entries s).map Transaction.token).Nodup
  grows : ∀ s r, entries s <+: entries (serve s r).2
  /-- A request fails, or its answer holds the transactions that it asks for. -/
  answers : ∀ s query timeout,
    let (reply, s') := serve s ⟨url, some query, timeout⟩
    query.Proper (entries s') →
      (∃ f, (reply.content url).bind (readPage query) = .error f) ∨
        ∃ body, reply.content url = .ok body ∧
          transactions body = .ok ((query.select (entries s')).map Transaction.record)

/-- A reader of the service at an address, which asks for pages as large as the service gives. -/
structure Suited (url : String) (l : Ledger) : Prop where
  address : l.base ++ "/transactions" = url
  least : 1 ≤ l.batch
  most : l.batch ≤ pageLimit

/-! ### Pages -/

/-- The page of transactions, oldest first. -/
def Ledger.Page.ofItems (items : List Datum) : Except Fault Page := do
  let points ← items.mapM readTransaction
  match items.getLast? with
  | none => .ok ⟨points, none, items.length⟩
  | some last =>
    let token ← readToken last
    .ok ⟨points, some token, items.length⟩

/-- The page of transactions that can be read. -/
def Ledger.Page.ofTransactions (txs : List Transaction) : Page :=
  ⟨txs.map Transaction.point, txs.getLast?.map Transaction.token, txs.length⟩

theorem readPage_eq (query : Query) (body : Datum) :
    readPage query body = transactions body >>= fun items => Page.ofItems (query.ordered items) := by
  cases query <;> rfl

theorem text?_eq_some {d : Datum} {s : String} (h : d.text? = some s) : d = .text s := by
  unfold Datum.text? at h
  split at h
  · rw [Option.some.inj h]
    rfl
  · cases h

theorem Transaction.readToken_eq (tx : Transaction) : readToken tx.record = .ok tx.token := by
  obtain ⟨d, hget, htext⟩ := Option.bind_eq_some_iff.mp tx.paged
  rw [text?_eq_some htext] at hget
  have hsome : (Datum.text tx.token).isSome = true := by
    simpa [Datum.isSome, Datum.text, Scalar.isSome] using tx.named
  rw [readToken, hget]
  simp only [hsome, if_true]
  rfl

theorem mapM_readTransaction (txs : List Transaction) :
    (txs.map Transaction.record).mapM readTransaction = .ok (txs.map Transaction.point) :=
  mapM_map_of_ok fun tx _ => tx.readable

theorem ofItems_map (txs : List Transaction) :
    Page.ofItems (txs.map Transaction.record) = .ok (.ofTransactions txs) := by
  rw [Page.ofItems, mapM_readTransaction, List.getLast?_map, List.length_map, Page.ofTransactions]
  cases txs.getLast? with
  | none => rfl
  | some tx =>
    show (readToken tx.record >>= _) = _
    rw [tx.readToken_eq]
    rfl

theorem Query.ordered_map {β γ : Type} (query : Query) (f : β → γ) (items : List β) :
    query.ordered (items.map f) = (query.ordered items).map f := by
  cases query with
  | newest limit => exact List.map_reverse.symm
  | after cursor limit => rfl

/-! ### Cursors -/

theorem select_newest (limit : Int) (entries : List Transaction) :
    (Query.newest limit).ordered ((Query.newest limit).select entries) =
      entries.rtake limit.toNat :=
  (List.rtake_eq_reverse_take_reverse entries limit.toNat).symm

/-- After the token of the last transaction that was seen come those that were not. -/
theorem select_after {seen rest : List Transaction} {cursor : String} (limit : Int)
    (hdistinct : ((seen ++ rest).map Transaction.token).Nodup)
    (hcursor : seen.getLast?.map Transaction.token = some cursor) :
    (Query.after cursor limit).select (seen ++ rest) = rest.take limit.toNat := by
  obtain ⟨tx, hlast, rfl⟩ := Option.map_eq_some_iff.mp hcursor
  obtain ⟨init, rfl⟩ := List.getLast?_eq_some_iff.mp hlast
  have hbefore : ∀ t ∈ init, (t.token != tx.token) = true := by
    intro t ht
    rw [List.append_assoc, List.map_append, List.nodup_append] at hdistinct
    have := hdistinct.2.2 t.token (List.mem_map_of_mem ht) tx.token (by simp)
    simpa using this
  rw [Query.select, List.append_assoc, List.dropWhile_append_of_pos hbefore]
  simp

/-- Where a cursor stands: behind the transactions that were seen. -/
structure Stands {σ : Type} {url : String} (J : Journal σ url) (s : σ) (cursor : String)
    (seen rest : List Transaction) : Prop where
  entries : J.entries s = seen ++ rest
  token : seen.getLast?.map Transaction.token = some cursor

section Stands
variable {σ : Type} {url : String} {J : Journal σ url} {s s' : σ} {cursor : String}
variable {seen rest : List Transaction}

theorem Stands.known (h : Stands J s cursor seen rest) :
    cursor ∈ (J.entries s).map Transaction.token := by
  have htoken := h.token
  rw [← List.getLast?_map] at htoken
  rw [h.entries, List.map_append]
  exact List.mem_append_left _ (List.mem_of_getLast? htoken)

theorem Stands.grow (h : Stands J s cursor seen rest) (hgrows : J.entries s <+: J.entries s') :
    ∃ more, Stands J s' cursor seen (rest ++ more) := by
  obtain ⟨more, hmore⟩ := hgrows
  refine ⟨more, ?_, h.token⟩
  rw [← hmore, h.entries, List.append_assoc]

/-- The cursor behind what is read moves along. -/
theorem Stands.advance {read left : List Transaction} (h : Stands J s cursor seen (read ++ left)) :
    Stands J s ((read.getLast?.map Transaction.token).getD cursor) (seen ++ read) left := by
  refine ⟨by rw [h.entries, List.append_assoc], ?_⟩
  rw [List.getLast?_append]
  cases read.getLast? with
  | none => exact h.token
  | some tx => rfl

theorem Stands.select (h : Stands J s cursor seen rest) (limit : Int) :
    (Query.after cursor limit).select (J.entries s) = rest.take limit.toNat := by
  have hdistinct := J.distinct s
  rw [h.entries] at hdistinct ⊢
  exact select_after limit hdistinct h.token

end Stands

/-! ### Requests -/

section Requests
variable {σ : Type} {url : String} (J : Journal σ url) {l : Ledger}

theorem page_grows (query : Query) (s : σ) :
    J.entries s <+: J.entries (l.page J.serve query s).2 :=
  J.grows s _

/-- What a reader makes of a proper request: a failure, or the page of what it asked for. -/
theorem page_cases (hl : Suited url l) (query : Query) (s : σ)
    (hproper : query.Proper (J.entries (l.page J.serve query s).2)) :
    (∃ f, (l.page J.serve query s).1 = .error f) ∨
      (l.page J.serve query s).1 =
        .ok (.ofTransactions (query.ordered
          (query.select (J.entries (l.page J.serve query s).2)))) := by
  obtain rfl := hl.address
  rcases J.answers s query l.timeout hproper with hf | ⟨body, hbody, hitems⟩
  · exact .inl hf
  · refine .inr ?_
    show (((J.serve s _).1.content _).bind (readPage query)) = _
    rw [hbody]
    show readPage query body = _
    rw [readPage_eq, hitems]
    show Page.ofItems (query.ordered _) = _
    rw [query.ordered_map, ofItems_map]
    rfl

/-- The page after a cursor holds what comes next in the journal, all of it if it is not full. -/
theorem page_after (hl : Suited url l) {cursor : String} {s s' : σ} {p : Page}
    {seen rest : List Transaction} (h : Stands J s cursor seen rest)
    (hpage : l.page J.serve (.after cursor l.batch) s = (.ok p, s')) :
    ∃ read left, p = .ofTransactions read ∧ Stands J s' (p.token.getD cursor) (seen ++ read) left ∧
      ((p.size : Int) < l.batch → left = []) := by
  have hgrows := page_grows J (l := l) (.after cursor l.batch) s
  have hread := page_cases J hl (.after cursor l.batch) s
  rw [hpage] at hgrows hread
  obtain ⟨more, h'⟩ := h.grow hgrows
  have hp : p = .ofTransactions ((rest ++ more).take l.batch.toNat) := by
    rw [← h'.select]
    rcases hread ⟨hl.least, hl.most, h'.known⟩ with ⟨f, hf⟩ | hp
    · cases hf
    · exact Except.ok.inj hp
  rw [← List.take_append_drop l.batch.toNat (rest ++ more)] at h'
  rw [hp]
  refine ⟨_, _, rfl, h'.advance, fun hsize => List.drop_of_length_le ?_⟩
  have hsize : (((rest ++ more).take l.batch.toNat).length : Int) < l.batch := hsize
  rw [List.length_take] at hsize
  omega

theorem forward_grows (pages : Nat) (cursor : String) (points : List Point) (s : σ) :
    J.entries s <+: J.entries (l.forward J.serve pages cursor points s).2 := by
  induction pages generalizing cursor points s with
  | zero => exact List.prefix_rfl
  | succ left ih =>
    have hpage := page_grows J (l := l) (.after cursor l.batch) s
    rw [Ledger.forward]
    split
    · rename_i h
      rw [h] at hpage
      exact hpage
    · rename_i h
      rw [h] at hpage
      split
      · exact hpage
      · exact hpage.trans (ih _ _ _)

/-- **What a reader goes through is what comes next in the journal**, without gaps; if it is less
than full pages, nothing is left. -/
theorem forward_reads (hl : Suited url l) {pages : Nat} {cursor : String} {points : List Point}
    {s : σ} {seen rest : List Transaction} (h : Stands J s cursor seen rest)
    {all : List Point} {last : String} {full : Bool} {s' : σ}
    (hforward : l.forward J.serve pages cursor points s = (.ok (all, last, full), s')) :
    ∃ read left, all = points ++ read.map Transaction.point ∧
      Stands J s' last (seen ++ read) left ∧
      ((read.length : Int) < pages * l.batch → left = []) := by
  induction pages generalizing cursor points s seen rest with
  | zero =>
    cases hforward
    refine ⟨[], rest, by rw [List.map_nil, List.append_nil], ?_, fun hlt => ?_⟩
    · rw [List.append_nil]
      exact h
    · simp at hlt
  | succ pages ih =>
    rw [Ledger.forward] at hforward
    split at hforward
    · cases hforward
    · rename_i p s₁ hpage
      obtain ⟨read, left, rfl, hstands, hend⟩ := page_after J hl h hpage
      split at hforward
      · rename_i hsize
        cases hforward
        exact ⟨read, left, rfl, hstands, fun _ => hend hsize⟩
      · rename_i hsize
        have hfull : l.batch ≤ (read.length : Int) := Int.not_lt.mp hsize
        obtain ⟨more, left', hall, hlast, hend'⟩ := ih hstands hforward
        refine ⟨read ++ more, left', ?_, ?_, fun hlt => hend' ?_⟩
        · rw [hall, List.map_append, List.append_assoc]
          rfl
        · rw [← List.append_assoc]
          exact hlast
        · rw [List.length_append] at hlt
          push_cast at hlt
          rw [Int.add_mul] at hlt
          omega

end Requests

end FeeWatch.Source
