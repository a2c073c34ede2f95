import FeeWatch.Proofs.Datum.Reading
import FeeWatch.Proofs.Source.Visits

/-! What a reader fails with.

A source is meant to fail in one of five particular ways, whatever it is answered. A reader does
so but for values that are too great for their places, which it does not recognise: an infinite
double where a whole number belongs, and an instant outside the calendar. They end a fetch as the
misfits that they are. A page is refused at the first transaction that cannot be read, so what
ends a fetch so is one transaction (`Overreaches`, `readPage_misfit_iff`) of its last visit.
`fault_particular_or_overreaches` says that there are no other faults, and
`infinite_fee_is_unforeseen` is a fetch with such a misfit. -/
namespace FeeWatch

/-- Items that are read one after the other fail with the first that cannot be read. -/
theorem mapM_eq_error {ε α β : Type} {read : α → Except ε β} {items : List α} {e : ε} :
    items.mapM read = .error e ↔
      ∃ before item after values, items = before ++ item :: after ∧
        List.Forall₂ (fun item value => read item = .ok value) before values ∧
        read item = .error e := by
  induction items with
  | nil =>
    constructor
    · intro h
      cases h
    · rintro ⟨before, item, after, values, h, _⟩
      exact absurd h.symm (List.append_ne_nil_of_right_ne_nil before (List.cons_ne_nil item after))
  | cons first items ih =>
    rw [List.mapM_cons, bind_eq_error]
    constructor
    · rintro (h | ⟨value, hvalue, h⟩)
      · exact ⟨[], first, items, [], rfl, .nil, h⟩
      · have hrest : items.mapM read = .error e := by
          rcases bind_eq_error.mp h with h | ⟨_, _, h⟩
          · exact h
          · cases h
        obtain ⟨before, item, after, values, rfl, hread, hitem⟩ := ih.mp hrest
        exact ⟨first :: before, item, after, value :: values, rfl, .cons hvalue hread, hitem⟩
    · rintro ⟨before, item, after, values, hitems, hread, hitem⟩
      cases hread with
      | nil =>
        obtain ⟨rfl, -⟩ := List.cons.inj hitems
        exact .inl hitem
      | cons hvalue hread =>
        obtain ⟨rfl, hrest⟩ := List.cons.inj hitems
        have hfails := ih.mpr ⟨_, item, after, _, hrest, hread, hitem⟩
        exact .inr ⟨_, hvalue, bind_eq_error.mpr (.inl hfails)⟩

/-! ### Misfits by range -/

namespace Datum

theorem part_eq_ok {d value : Datum} {key : String} :
    d.part key = .ok value ↔ d.get? key = some value := by
  unfold part get?
  split
  · split <;> simp [*]
  all_goals simp

theorem part_family {d : Datum} {key : String} {m : Misfit} (h : d.part key = .error m) :
    m.family ≠ .range := by
  unfold part at h
  split at h
  · split at h
    · cases h
    · cases h
      simp [Misfit.family]
  all_goals
    cases h
    simp [Misfit.family]

/-- Only infinite doubles are too great for whole numbers. -/
theorem whole_range_iff {d : Datum} {m : Misfit} :
    d.whole = .error m ∧ m.family = .range ↔
      m = .number .infinityToInteger ∧ ∃ negative, d = .float (.infinite negative) := by
  constructor
  · rintro ⟨h, hrange⟩
    refine (whole_failsOnly d m h).resolve_left fun hplain => ?_
    rcases hplain with hvalue | hkind
    · cases hrange.symm.trans hvalue
    · cases hrange.symm.trans hkind
  · rintro ⟨rfl, negative, rfl⟩
    exact ⟨rfl, rfl⟩

/-- Only moments outside the calendar are too great for instants. -/
theorem instant_range_iff {d : Datum} {m : Misfit} :
    d.instant = .error m ∧ m.family = .range ↔
      m = .calendar .outOfRange ∧
        ∃ text, d = .text text ∧ Calendar.readInstant text = .error .outOfRange := by
  constructor
  · rintro ⟨h, hrange⟩
    unfold instant at h
    split at h
    · rename_i text
      obtain ⟨f, hf, rfl⟩ := mapError_eq_error.mp h
      cases f with
      | outOfRange => exact ⟨rfl, text, rfl, hf⟩
      | _ => cases hrange
    · cases h
      cases hrange
  · rintro ⟨rfl, text, rfl, h⟩
    exact ⟨mapError_eq_error.mpr ⟨_, h, rfl⟩, rfl⟩

/-- What a key stands for is too great just when it is there and its value is. -/
theorem read_range_iff {α : Type} {read : Datum → Except Misfit α} {d : Datum} {key : String}
    {m : Misfit} :
    (d.part key).bind read = .error m ∧ m.family = .range ↔
      ∃ value, d.get? key = some value ∧ read value = .error m ∧ m.family = .range := by
  constructor
  · rintro ⟨h, hrange⟩
    rcases bind_eq_error.mp h with h | ⟨value, hvalue, h⟩
    · exact absurd hrange (part_family h)
    · exact ⟨value, part_eq_ok.mp hvalue, h, hrange⟩
  · rintro ⟨value, hvalue, h, hrange⟩
    exact ⟨bind_eq_error.mpr (.inr ⟨value, part_eq_ok.mpr hvalue, h⟩), hrange⟩

end Datum

namespace Source

open FeeWatch.Fee (Point)
open Ledger (readTransaction readToken transactions readPage malformed misshapen)

/-- Whether a fault is a failure of one of the five particular kinds. -/
def Fault.isParticular : Fault → Bool
  | .failure (.general _) => false
  | .failure _ => true
  | .misfit _ => false
  | .incident _ => false

/-- Whether a reply is one that transports are meant to give, with a body that is read or is no
JSON. -/
def Reply.isMannered : Reply → Bool
  | .incident _ => false
  | .answer _ _ body =>
    match Json.read body with
    | .error (.tooDeep _) => false
    | _ => true
  | _ => true

/-! ### Transactions -/

/-- A transaction has a value that is too great for its place, and what is read before it fits. -/
inductive Overreaches (d : Datum) : Datum.Misfit → Prop
  | fee {negative : Bool} (hfee : d.get? "fee_charged" = some (.float (.infinite negative))) :
    Overreaches d (.number .infinityToInteger)
  | time {fee : Int} {text : String} (hfee : (d.part "fee_charged").bind Datum.whole = .ok fee)
      (htime : d.get? "created_at" = some (.text text))
      (houtside : Calendar.readInstant text = .error .outOfRange) :
    Overreaches d (.calendar .outOfRange)
  | ledger {fee : Int} {time : Calendar.Instant} {hash : Datum} {negative : Bool}
      (hfee : (d.part "fee_charged").bind Datum.whole = .ok fee)
      (htime : (d.part "created_at").bind Datum.instant = .ok time)
      (hhash : d.get? "hash" = some hash)
      (hledger : d.get? "ledger" = some (.float (.infinite negative))) :
    Overreaches d (.number .infinityToInteger)

theorem make_ne_misfit {fee ledger : Int} {time : Calendar.Instant} {hash : String}
    {m : Datum.Misfit} : Point.make fee time hash ledger ≠ .error (.misfit m) := by
  unfold Point.make
  split
  · simp
  · split <;> simp

theorem misfit_eq_error {α : Type} {x : Except Datum.Misfit α} {m : Datum.Misfit} :
    x.mapError Point.Fault.misfit = .error (.misfit m) ↔ x = .error m := by
  rw [mapError_eq_error]
  simp

theorem ofParts_range_iff {d : Datum} {m : Datum.Misfit} :
    Point.ofParts "fee_charged" "created_at" "hash" "ledger" d = .error (.misfit m) ∧
        m.family = .range ↔ Overreaches d m := by
  constructor
  · rintro ⟨h, hrange⟩
    rcases bind_eq_error.mp h with h | ⟨fee, hfee, h⟩
    · obtain ⟨value, hvalue, h⟩ := Datum.read_range_iff.mp ⟨misfit_eq_error.mp h, hrange⟩
      obtain ⟨rfl, negative, rfl⟩ := Datum.whole_range_iff.mp h
      exact .fee hvalue
    replace hfee := mapError_eq_ok.mp hfee
    rcases bind_eq_error.mp h with h | ⟨time, htime, h⟩
    · obtain ⟨value, hvalue, h⟩ := Datum.read_range_iff.mp ⟨misfit_eq_error.mp h, hrange⟩
      obtain ⟨rfl, text, rfl, houtside⟩ := Datum.instant_range_iff.mp h
      exact .time hfee hvalue houtside
    replace htime := mapError_eq_ok.mp htime
    rcases bind_eq_error.mp h with h | ⟨hash, hhash, h⟩
    · exact absurd hrange (Datum.part_family (misfit_eq_error.mp h))
    replace hhash := Datum.part_eq_ok.mp (mapError_eq_ok.mp hhash)
    rcases bind_eq_error.mp h with h | ⟨ledger, _, h⟩
    · obtain ⟨value, hvalue, h⟩ := Datum.read_range_iff.mp ⟨misfit_eq_error.mp h, hrange⟩
      obtain ⟨rfl, negative, rfl⟩ := Datum.whole_range_iff.mp h
      exact .ledger hfee htime hhash hvalue
    exact absurd h make_ne_misfit
  · intro h
    cases h with
    | fee hfee =>
      obtain ⟨h, hrange⟩ := Datum.read_range_iff.mpr
        ⟨_, hfee, Datum.whole_range_iff.mpr ⟨rfl, _, rfl⟩⟩
      exact ⟨bind_eq_error.mpr (.inl (misfit_eq_error.mpr h)), hrange⟩
    | time hfee htime houtside =>
      obtain ⟨h, hrange⟩ := Datum.read_range_iff.mpr
        ⟨_, htime, Datum.instant_range_iff.mpr ⟨rfl, _, rfl, houtside⟩⟩
      refine ⟨bind_eq_error.mpr (.inr ⟨_, mapError_eq_ok.mpr hfee, ?_⟩), hrange⟩
      exact bind_eq_error.mpr (.inl (misfit_eq_error.mpr h))
    | ledger hfee htime hhash hledger =>
      obtain ⟨h, hrange⟩ := Datum.read_range_iff.mpr
        ⟨_, hledger, Datum.whole_range_iff.mpr ⟨rfl, _, rfl⟩⟩
      refine ⟨bind_eq_error.mpr (.inr ⟨_, mapError_eq_ok.mpr hfee, ?_⟩), hrange⟩
      refine bind_eq_error.mpr (.inr ⟨_, mapError_eq_ok.mpr htime, ?_⟩)
      refine bind_eq_error.mpr (.inr ⟨_, mapError_eq_ok.mpr (Datum.part_eq_ok.mpr hhash), ?_⟩)
      exact bind_eq_error.mpr (.inl (misfit_eq_error.mpr h))

/-- Only misfits by range are left as they are. -/
theorem malformed_eq_misfit {f : Point.Fault} {m : Datum.Misfit} :
    malformed f = .misfit m ↔ f = .misfit m ∧ m.family = .range := by
  cases f with
  | misfit n =>
    rw [malformed]
    cases hfamily : n.family with
    | range =>
      constructor
      · rintro ⟨⟩
        exact ⟨rfl, hfamily⟩
      · rintro ⟨⟨⟩, _⟩
        rfl
    | _ =>
      constructor
      · rintro ⟨⟩
      · rintro ⟨⟨⟩, hrange⟩
        cases hfamily.symm.trans hrange
  | _ => simp [malformed, misshapen]

/-- The others are reported as failures of a particular kind. -/
theorem malformed_isParticular (f : Point.Fault) :
    (malformed f).isParticular = true ∨ ∃ m, malformed f = .misfit m := by
  cases f with
  | misfit n =>
    rw [malformed]
    cases n.family <;> simp [misshapen, Fault.isParticular]
  | _ => exact .inl rfl

theorem readTransaction_misfit_iff {d : Datum} {m : Datum.Misfit} :
    readTransaction d = .error (.misfit m) ↔ Overreaches d m := by
  cases d with
  | map entries =>
    rw [readTransaction, mapError_eq_error, ← ofParts_range_iff]
    constructor
    · rintro ⟨f, h, hf⟩
      obtain ⟨rfl, hrange⟩ := malformed_eq_misfit.mp hf
      exact ⟨h, hrange⟩
    · rintro ⟨h, hrange⟩
      exact ⟨_, h, malformed_eq_misfit.mpr ⟨rfl, hrange⟩⟩
  | _ =>
    constructor
    · intro h
      cases h
    · rintro (h | ⟨_, h, _⟩ | ⟨_, _, _, h⟩) <;> cases h

/-- What is no transaction is reported as a failure of a particular kind, or left as a misfit. -/
theorem readTransaction_fault {d : Datum} {f : Fault} (h : readTransaction d = .error f) :
    f.isParticular = true ∨ ∃ m, f = .misfit m := by
  cases d with
  | map entries =>
    obtain ⟨g, _, rfl⟩ := mapError_eq_error.mp h
    exact malformed_isParticular g
  | _ =>
    cases h
    exact .inl rfl

/-! ### Pages -/

theorem readToken_fault {d : Datum} {f : Fault} (h : readToken d = .error f) :
    f.isParticular = true := by
  unfold readToken at h
  split at h
  · split at h
    · cases h
    · cases h
      rfl
  · cases h
    rfl

theorem transactions_fault {body : Datum} {f : Fault} (h : transactions body = .error f) :
    f.isParticular = true := by
  unfold transactions at h
  split at h
  · cases h
    rfl
  · cases h
  · cases h
    rfl

/-- Items are no page if one of them is no transaction, or the last one has no token. -/
theorem ofItems_fault {items : List Datum} {f : Fault} (h : Ledger.Page.ofItems items = .error f) :
    items.mapM readTransaction = .error f ∨ f.isParticular = true := by
  rcases bind_eq_error.mp h with h | ⟨points, _, h⟩
  · exact .inl h
  · split at h
    · cases h
    · rcases bind_eq_error.mp h with h | ⟨token, _, h⟩
      · exact .inr (readToken_fault h)
      · cases h

theorem readPage_fault {query : Query} {body : Datum} {f : Fault}
    (h : readPage query body = .error f) : f.isParticular = true ∨ ∃ m, f = .misfit m := by
  rw [readPage_eq] at h
  rcases bind_eq_error.mp h with h | ⟨items, _, h⟩
  · exact .inl (transactions_fault h)
  · rcases ofItems_fault h with h | h
    · obtain ⟨_, item, _, _, _, _, hitem⟩ := mapM_eq_error.mp h
      exact readTransaction_fault hitem
    · exact .inl h

/-- A page ends with a misfit just when the first transaction that cannot be read overreaches. -/
theorem readPage_misfit_iff {query : Query} {body : Datum} {m : Datum.Misfit} :
    readPage query body = .error (.misfit m) ↔
      ∃ items before item after points, transactions body = .ok items ∧
        query.ordered items = before ++ item :: after ∧
        List.Forall₂ (fun item point => readTransaction item = .ok point) before points ∧
        Overreaches item m := by
  rw [readPage_eq]
  constructor
  · intro h
    rcases bind_eq_error.mp h with h | ⟨items, hitems, h⟩
    · cases transactions_fault h
    · rcases ofItems_fault h with h | h
      · obtain ⟨before, item, after, points, hsplit, hread, hitem⟩ := mapM_eq_error.mp h
        exact ⟨items, before, item, after, points, hitems, hsplit, hread,
          readTransaction_misfit_iff.mp hitem⟩
      · cases h
  · rintro ⟨items, before, item, after, points, hitems, hsplit, hread, hitem⟩
    refine bind_eq_error.mpr (.inr ⟨items, hitems, bind_eq_error.mpr (.inl ?_)⟩)
    exact mapM_eq_error.mpr ⟨before, item, after, points, hsplit, hread,
      readTransaction_misfit_iff.mpr hitem⟩

/-! ### Visits -/

/-- A reply without content is a failure of a particular kind, or an incident. -/
theorem content_fault {url : String} {reply : Reply} {f : Fault}
    (h : reply.content url = .error f) :
    f.isParticular = true ∨ reply.isMannered = false ∧ ∃ i, f = .incident i := by
  cases reply with
  | timeout text =>
    cases h
    exact .inl rfl
  | failed text =>
    cases h
    exact .inl rfl
  | incident i =>
    cases h
    exact .inr ⟨rfl, i, rfl⟩
  | answer status reason body =>
    rw [Reply.content] at h
    split_ifs at h
    case neg =>
      cases hread : Json.read body with
      | ok d =>
        rw [hread] at h
        cases h
      | error g =>
        rw [hread] at h
        cases g with
        | tooDeep isMap =>
          cases h
          exact .inr ⟨by rw [Reply.isMannered, hread], _, rfl⟩
        | _ =>
          cases h
          exact .inl rfl
    all_goals
      cases h
      exact .inl rfl

/-- What is read of a reply is a failure of a particular kind, or a misfit. -/
theorem reading_fault {url : String} {reply : Reply} {query : Query} {f : Fault}
    (hreply : reply.isMannered = true) (h : (reply.content url).bind (readPage query) = .error f) :
    f.isParticular = true ∨ ∃ m, f = .misfit m := by
  rcases bind_eq_error.mp h with h | ⟨body, _, h⟩
  · rcases content_fault h with h | ⟨hnot, _⟩
    · exact .inl h
    · rw [hreply] at hnot
      cases hnot
  · exact readPage_fault h

/-- The first transaction of a visit's answer that cannot be read overreaches. -/
def Visit.Overreaches (v : Visit) (m : Datum.Misfit) : Prop :=
  ∃ query body items before item after points, v.request.query = some query ∧
    v.reply.content v.request.url = .ok body ∧ transactions body = .ok items ∧
    query.ordered items = before ++ item :: after ∧
    List.Forall₂ (fun item point => readTransaction item = .ok point) before points ∧
    Source.Overreaches item m

theorem Visit.fails_misfit_iff {v : Visit} {m : Datum.Misfit} :
    v.Fails (.misfit m) ↔ v.Overreaches m := by
  constructor
  · rintro ⟨query, hquery, h⟩
    rcases bind_eq_error.mp h with h | ⟨body, hbody, h⟩
    · rcases content_fault h with h | ⟨_, i, h⟩ <;> cases h
    · obtain ⟨items, before, item, after, points, h⟩ := readPage_misfit_iff.mp h
      exact ⟨query, body, items, before, item, after, points, hquery, hbody, h⟩
  · rintro ⟨query, body, items, before, item, after, points, hquery, hbody, h⟩
    have hpage := readPage_misfit_iff.mpr ⟨items, before, item, after, points, h⟩
    exact ⟨query, hquery, bind_eq_error.mpr (.inr ⟨body, hbody, hpage⟩)⟩

namespace Ledger
variable {σ : Type} {serve : Service σ} {l : Ledger}

theorem forward_fault {limit : Nat} {cursor : String} {points : List Point} {s : σ} {f : Fault}
    (h : (l.forward serve limit cursor points s).1 = .error f) :
    ∃ query s', (l.page serve query s').1 = .error f := by
  induction limit generalizing cursor points s with
  | zero => cases h
  | succ limit ih =>
    rw [forward] at h
    cases hpage : l.page serve (.after cursor l.batch) s with
    | mk result s' =>
      rw [hpage] at h
      cases result with
      | error g =>
        cases h
        exact ⟨_, s, congrArg Prod.fst hpage⟩
      | ok p =>
        dsimp only at h
        split at h
        · cases h
        · exact ih h

/-- A fetch ends with the fault of a page. -/
theorem fetch_fault {s : σ} {f : Fault} (h : (l.fetch serve s).1 = .error f) :
    ∃ query s', (l.page serve query s').1 = .error f := by
  have hcollect : (l.collect serve s).1 = .error f := by
    rw [fetch] at h
    cases hresult : l.collect serve s with
    | mk result s' =>
      rw [hresult] at h
      cases result with
      | ok read => cases h
      | error g =>
        cases h
        rfl
  cases hcursor : l.cursor with
  | none =>
    rw [collect_of_none hcursor rfl] at hcollect
    exact ⟨_, s, map_eq_error.mp hcollect⟩
  | some cursor =>
    rw [collect_of_some hcursor rfl] at hcollect
    exact forward_fault (map_eq_error.mp hcollect)

/-- Asking for the health of a service that is mannered fails in a particular way. -/
theorem health_fault {s : σ} {f : Fault} (hserve : ∀ s r, (serve s r).1.isMannered = true)
    (h : (l.health serve s).1 = .error f) : f.isParticular = true := by
  rw [health] at h
  cases hget : l.get serve "/" none s with
  | mk result s' =>
    rw [hget] at h
    cases result with
    | ok body =>
      cases body with
      | map entries => cases h
      | _ =>
        cases h
        rfl
    | error g =>
      cases h
      rcases content_fault (congrArg Prod.fst hget) with hf | ⟨hnot, _⟩
      · exact hf
      · rw [hserve] at hnot
        cases hnot

end Ledger

namespace Sample

/-- An answer with one transaction. -/
def single (fee : Datum) (time : String) : Reply :=
  let item : Datum := .record [("paging_token", .text "a"), ("fee_charged", fee),
    ("created_at", .text time), ("hash", .text "a"), ("ledger", .int 1)]
  .answer 200 none
    (Json.write .ascii (.record [("_embedded", .record [("records", .list [item])])]))

/-- A service that always replies the same. -/
def constant (reply : Reply) : Service Unit := fun _ _ => (reply, ())

end Sample

/-- **A reader fails in a particular way, or with a value that is too great.** Whatever the service
answers, asking for its health fails in one of the five particular ways only, and a fetch does so
or ends with a misfit. It ends with a misfit just when its last visit overreaches: the first
transaction there that cannot be read has an infinite fee or ledger, or a moment outside the
calendar. -/
theorem fault_particular_or_overreaches {σ : Type} (serve : Service σ)
    (hserve : ∀ s r, (serve s r).1.isMannered = true) (l : Ledger) (hpages : 1 ≤ l.maxPages)
    (s : σ) :
    (∀ f, (l.health serve s).1 = .error f → f.isParticular = true) ∧
      (∀ f, (l.fetch serve s).1 = .error f → f.isParticular = true ∨ ∃ m, f = .misfit m) ∧
      ∀ m, (l.fetch serve s).1 = .error (.misfit m) ↔
        ∃ v, (l.visits serve s).getLast? = some v ∧ v.Overreaches m := by
  refine ⟨fun f => Ledger.health_fault hserve, fun f h => ?_, fun m => ?_⟩
  · obtain ⟨query, s', hpage⟩ := Ledger.fetch_fault h
    exact reading_fault (hserve _ _) hpage
  · rw [Ledger.fetch_fault_iff hpages]
    simp only [Visit.fails_misfit_iff]

/-- The first hour of the calendar, as it is told where clocks are ahead. -/
theorem fault_particular_or_overreaches_firstHour :
    let reply := Sample.single (.int 7) "0001-01-01T00:30:00+01:00"
    let serve := Sample.constant reply
    let l := Ledger.make "https://h" 10 200 5
    ((∀ s r, (serve s r).1.isMannered = true) ∧ 1 ≤ l.maxPages ∧
      (l.fetch serve ()).1 = .error (.misfit (.calendar .outOfRange))) ∧
      ∃ v, (l.visits serve ()).getLast? = some v ∧ v.Overreaches (.calendar .outOfRange) := by
  intro reply serve l
  have hrun : reply.isMannered = true ∧ 1 ≤ l.maxPages ∧
      (l.fetch serve ()).1 = .error (.misfit (.calendar .outOfRange)) := by decide +kernel
  obtain ⟨hreply, hpages, hfetch⟩ := hrun
  have hserve : ∀ s r, (serve s r).1.isMannered = true := fun _ _ => hreply
  exact ⟨⟨hserve, hpages, hfetch⟩,
    ((fault_particular_or_overreaches serve hserve l hpages ()).2.2 _).mp hfetch⟩

/-- An infinite fee in an answer that is read: the fetch fails in no particular way. -/
theorem infinite_fee_is_unforeseen :
    let reply := Sample.single (.float (.infinite false)) "2024-01-01T00:00:05Z"
    let l := Ledger.make "https://h" 10 200 5
    reply.isMannered = true ∧
      (l.fetch (Sample.constant reply) ()).1 = .error (.misfit (.number .infinityToInteger)) ∧
      (Fault.misfit (.number .infinityToInteger)).isParticular = false := by
  decide +kernel

end Source
end FeeWatch
