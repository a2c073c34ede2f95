import FeeWatch.Proofs.Datum.Shared
import FeeWatch.Proofs.Setting
import FeeWatch.Yaml.Library

/-! The maps of a document have distinct keys.

A map is filled from its entries, of which a later one replaces an earlier one with the same key.
The steps that build a document's data change no collection in another way (`Builder.Keeps`). So the
maps of the data of a text have distinct keys (`read_isKeyed`), which is what loading asks of a
library (`Library.IsKeyed`). -/
namespace FeeWatch

open FeeWatch.Datum (Part Cell)

namespace Yaml.Builder
variable {α β : Type} {P : α → Prop} {Q : β → Prop}

/-- The keys of each map that was filled are distinct. -/
def IsKeyed (b : Builder) : Prop := ∀ cell ∈ b.cells, cell.IsKeyed

/-- A step keeps the keys of maps distinct, and what it returns has a property. -/
def Yields (P : α → Prop) (m : Build α) : Prop :=
  ∀ b a b', m.run b = .ok (a, b') → b.IsKeyed → b'.IsKeyed ∧ P a

/-- A step keeps the keys of maps distinct. -/
abbrev Keeps (m : Build α) : Prop := Yields (fun _ => True) m

namespace Yields

theorem pure {a : α} (h : P a) : Yields P (Pure.pure a) := by
  intro b a' b' hrun hb
  cases hrun
  exact ⟨hb, h⟩

theorem throw (f : Fault) : Yields P (MonadExcept.throw f : Build α) := by
  intro b a' b' hrun
  cases hrun

theorem bind {m : Build α} {k : α → Build β} (hm : Yields P m) (hk : ∀ a, P a → Yields Q (k a)) :
    Yields Q (m >>= k) := by
  intro b c b' hrun hb
  rw [StateT.run_bind] at hrun
  obtain ⟨⟨a, between⟩, ha, hrest⟩ := bind_eq_ok.mp hrun
  obtain ⟨hbetween, hP⟩ := hm b a between ha hb
  exact hk a hP between c b' hrest hbetween

/-- A step after one of whose result nothing is known. -/
theorem after {m : Build α} {k : α → Build β} (hm : Keeps m) (hk : ∀ a, Yields Q (k a)) :
    Yields Q (m >>= k) :=
  hm.bind fun a _ => hk a

theorem map {m : Build α} {f : α → β} (hm : Yields P m) (hf : ∀ a, P a → Q (f a)) :
    Yields Q (f <$> m) := by
  rw [map_eq_pure_bind]
  exact hm.bind fun a ha => pure (hf a ha)

theorem get : Keeps (MonadState.get : Build Builder) := by
  intro b a b' hrun hb
  cases hrun
  exact ⟨hb, trivial⟩

theorem update {f : Builder → Builder} (h : ∀ b, b.IsKeyed → (f b).IsKeyed) :
    Keeps (modify f : Build PUnit) := by
  intro b a b' hrun hb
  cases hrun
  exact ⟨h b hb, trivial⟩

/-- A step that reads something without the builder. -/
theorem lift (x : Except Fault α) : Keeps (liftM x : Build α) := by
  intro b a b' hrun hb
  cases x with
  | error e => cases hrun
  | ok a =>
    cases hrun
    exact ⟨hb, trivial⟩

theorem mapM {γ : Type} {f : γ → Build α} {items : List γ}
    (h : ∀ item ∈ items, Keeps (f item)) :
    Keeps (items.mapM f) := by
  induction items with
  | nil => exact pure trivial
  | cons item items ih =>
    rw [List.mapM_cons]
    exact (h item List.mem_cons_self).after fun _ =>
      (ih fun x hx => h x (List.mem_cons_of_mem _ hx)).after fun _ => pure trivial

theorem forIn {γ : Type} {f : γ → PUnit → Build (ForInStep PUnit)} {items : List γ}
    (h : ∀ item ∈ items, ∀ u, Keeps (f item u)) (u : PUnit) :
    Keeps (ForIn.forIn items u f) := by
  induction items with
  | nil => exact pure trivial
  | cons item items ih =>
    rw [List.forIn_cons]
    refine (h item List.mem_cons_self u).after fun step => ?_
    cases step with
    | done u => exact pure trivial
    | yield u => exact ih fun x hx => h x (List.mem_cons_of_mem _ hx)

end Yields

/-- A collection with distinct keys in the place of another one. -/
theorem IsKeyed.set {b : Builder} (hb : b.IsKeyed) {cell : Cell} (h : cell.IsKeyed) (n : Nat) :
    ∀ c ∈ b.cells.set! n cell, c.IsKeyed := by
  intro c hc
  rcases Array.mem_or_eq_of_mem_setIfInBounds hc with hc | rfl
  · exact hb c hc
  · exact h

theorem keeps_node (n : Nat) : Keeps (node n) :=
  .map .get fun _ _ => trivial

theorem keeps_entries (n : Nat) : Keeps (entries n) := by
  unfold entries
  refine (keeps_node n).after fun node => ?_
  split
  · exact .pure trivial
  · exact .throw _

theorem keeps_change (n : Nat) (f : Node → Node) : Keeps (change n f) :=
  .update fun _ hb => hb

theorem keeps_flatten (fuel n index : Nat) (merged : List (Nat × Nat)) :
    Keeps (flatten fuel n index merged) := by
  induction fuel generalizing n index merged with
  | zero => exact .throw _
  | succ fuel ih =>
    unfold flatten
    refine (keeps_entries n).after fun es => ?_
    split
    · split
      · exact .pure trivial
      · exact keeps_change _ _
    · refine (keeps_node _).after fun kind => ?_
      split
      · refine (keeps_change _ _).after fun _ => (keeps_node _).after fun value => ?_
        have hrest : ∀ maps : List Nat, Keeps (do
            let taken ← maps.mapM fun m => do
              let _ ← entries m
              flatten fuel m 0 []
              entries m
            flatten fuel n index (merged ++ taken.reverse.flatten)) := fun maps =>
          (Yields.mapM fun m _ => (keeps_entries m).after fun _ => (ih m 0 []).after fun _ =>
            keeps_entries m).after fun _ => ih _ _ _
        dsimp only
        split
        · exact .after (.pure trivial) hrest
        · exact .after (.pure trivial) hrest
        · exact .after (.throw _) hrest
      · exact (keeps_change _ _).after fun _ => ih _ _ _
      · exact ih _ _ _

theorem keeps_flatEntries (n : Nat) : Keeps (flatEntries n) :=
  (keeps_entries n).after fun _ => Yields.get.after fun _ =>
    (keeps_flatten _ _ _ _).after fun _ => keeps_entries n

theorem isKeyed_empty? {kind : Kind} {cell : Cell} (h : empty? kind = some cell) :
    cell.IsKeyed := by
  cases kind <;> cases h <;> first | exact trivial | exact Entries.distinct_nil

theorem keeps_part (n : Nat) : Keeps (part n) := by
  unfold part
  refine Yields.get.after fun b => ?_
  split
  · exact .pure trivial
  · have hset : ∀ p, Keeps (do
        modify fun b => { b with parts := b.parts.set! n (some p) }
        pure p) := by
      refine fun p => .after (.update ?_) fun _ => .pure trivial
      exact fun _ hb => hb
    dsimp only
    split
    · next cell hempty =>
      refine .after (.update ?_) fun _ => .after (.pure trivial) hset
      exact fun b hb => hb.set (isKeyed_empty? hempty) n
    · split
      · exact .after ((Yields.lift _).map fun _ _ => trivial) hset
      · exact .after (.throw _) hset

theorem keeps_key (n : Nat) : Keeps (key n) := by
  refine (keeps_part n).after fun p => ?_
  split
  · exact .pure trivial
  · exact .throw _

theorem keeps_entry (e : Nat × Nat) : Keeps (entry e) :=
  (keeps_key e.1).after fun _ => (keeps_part e.2).after fun _ => .pure trivial

theorem keeps_pair (n : Nat) : Keeps (pair n) := by
  unfold pair
  refine (keeps_entries n).after fun es => ?_
  split
  · refine (keeps_part _).after fun first => (keeps_part _).after fun second =>
      Yields.get.after fun b => (Yields.update fun b hb c hc => ?_).after fun _ => .pure trivial
    rcases Array.mem_push.mp hc with hc | rfl
    · exact hb c hc
    · trivial
  · exact .throw _

/-- **What a collection is filled with has distinct keys.** -/
theorem keeps_collection (n : Nat) : Yields Datum.Cell.IsKeyed (collection n) := by
  unfold collection
  refine (keeps_node n).after fun node => ?_
  split
  · exact .map (.mapM fun _ _ => keeps_part _) fun _ _ => trivial
  · exact (keeps_flatEntries n).after fun _ => (Yields.mapM fun _ _ => keeps_entry _).after fun _ =>
      .pure (Entries.distinct_ofList _)
  · exact (keeps_flatEntries n).after fun _ => (Yields.mapM fun _ _ => keeps_entry _).after fun _ =>
      .pure trivial
  · exact .map (.mapM fun _ _ => keeps_pair _) fun _ _ => trivial
  · exact .map (.mapM fun _ _ => keeps_pair _) fun _ _ => trivial
  · exact .throw _

theorem keeps_fillAll (fuel : Nat) : Keeps (fillAll fuel) := by
  induction fuel with
  | zero => exact .pure trivial
  | succ fuel ih =>
    unfold fillAll
    refine Yields.get.after fun b => ?_
    split
    · exact .pure trivial
    · refine .after (.update ?_) fun _ => ?_
      · exact fun _ hb => hb
      refine .after (.forIn (fun n _ _ => ?_) _) fun _ => ih
      refine (keeps_collection n).bind fun cell hcell => .after (.update ?_) fun _ => .pure trivial
      exact fun b hb => hb.set hcell n

end Yaml.Builder

namespace Yaml

/-- **The maps of the data of a text have distinct keys.** -/
theorem read_isKeyed {text : String} {s : Shared} (h : read text = .ok s) : s.IsKeyed := by
  obtain ⟨⟨root, g⟩, -, h⟩ := bind_eq_ok.mp h
  cases root with
  | none =>
    cases h
    exact nofun
  | some root =>
    obtain ⟨⟨part, b⟩, hrun, h⟩ := bind_eq_ok.mp h
    cases h
    have hbuild : Builder.Keeps (do
        let root ← Builder.part root
        Builder.fillAll (g.size + 1)
        pure root) :=
      .after (Builder.keeps_part root) fun _ => .after (Builder.keeps_fillAll _) fun _ =>
        .pure trivial
    refine (hbuild _ _ _ hrun fun cell hcell => ?_).1
    obtain ⟨-, rfl⟩ := Array.mem_replicate.mp hcell
    exact Entries.distinct_nil

/-- The maps of what a library reads have distinct keys. -/
def Library.IsKeyed (y : Library) : Prop := ∀ text s, y.read text = .ok s → s.IsKeyed

theorem library_isKeyed : library.IsKeyed := fun _ _ => read_isKeyed

end Yaml
end FeeWatch
