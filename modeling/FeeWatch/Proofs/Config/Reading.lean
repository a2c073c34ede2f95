import FeeWatch.Proofs.Config.Environment
import FeeWatch.Proofs.Datum.Reading
import FeeWatch.Proofs.Monitor.Acceptance

/-! Reading the monitor's settings.

A setting is read in two steps: it is looked up in its group, and what is found is made a number or
a text. Most values that do not fit are faults of the settings. What is not is a group that is no
map, an infinity where a whole number is asked for, and a whole number too great for a double
(`readMonitor_failsOnly`). What was read has the kinds that the settings are declared with
(`readMonitor_eq_ok`). -/
namespace FeeWatch.Config

open FeeWatch.Datum (Misfit whole real)

/-- The settings that are whole numbers and belong to the monitor. -/
def wholeSettings : List (String × String) :=
  [("polling", "window_max_points"), ("congestion", "base_fee"), ("congestion", "absolute_ceiling"),
    ("congestion", "max_fee_ceiling"), ("congestion", "enter_cycles"),
    ("polling", "failure_threshold")]

/-- The settings that are doubles and belong to the monitor. -/
def realSettings : List (String × String) :=
  [("polling", "poll_secs"), ("polling", "window_max_age_secs"), ("polling", "shutdown_grace_secs")]

/-- The settings that count for the ledger service. -/
def countSettings : List (String × String) :=
  [("horizon", "batch_size"), ("horizon", "max_pages")]

/-- The groups that a load looks into. -/
def loadedGroups : List String := ["polling", "congestion", "storage", "horizon"]

/-- Why settings that were laid over each other end a load with a misfit. -/
inductive Escapes (entries : List (Scalar × Datum)) : Misfit → Prop
  /-- A group that the load looks into is no map. -/
  | group {name : String} (hname : name ∈ loadedGroups) (h : ¬ IsGroup entries name) :
    Escapes entries (.lacks (group entries name).kind "get")
  /-- A setting that is a whole number is an infinity. -/
  | infinite {name key : String} {negative : Bool} (hmem : (name, key) ∈ wholeSettings)
    (h : setting entries name key = .ok (.float (.infinite negative))) :
    Escapes entries (.number .infinityToInteger)
  /-- A setting that is a double is a whole number too great for one. -/
  | vast {name key : String} {n : Int} {negative : Bool} (hmem : (name, key) ∈ realSettings)
    (h : setting entries name key = .ok (.int n))
    (hn : Number.Binary.ofInt n = .infinite negative) : Escapes entries (.number .integerToFloat)
  /-- A whole number below its range has too many digits to be written. -/
  | long {name key : String} {d : Datum} {n : Int}
    (hmem : (name, key) ∈ wholeSettings ++ countSettings) (h : setting entries name key = .ok d)
    (hn : d.whole = .ok n) (hle : n ≤ 0) (hlong : Number.isOverlong n = true) :
    Escapes entries (.number .unwritable)
  /-- What is no store cannot be written. -/
  | store {d : Datum} (h : setting entries "storage" "backend" = .ok d) (hd : d.isOverlong = true) :
    Escapes entries (.number .unwritable)
  /-- A setting that counts for the ledger service gives no whole number. -/
  | count {name key : String} {d : Datum} {m : Misfit} (hmem : (name, key) ∈ countSettings)
    (h : setting entries name key = .ok d) (hm : d.whole = .error m) : Escapes entries m

/-- A fault of reading that is one of the settings, or a misfit of which something holds. -/
def ReadFault.IsOr (Q : Misfit → Prop) : ReadFault → Prop
  | .setting _ => True
  | .misfit m => Q m

theorem ofMisfit_isOr {m : Misfit} {Q : Misfit → Prop} (h : m.IsPlain ∨ Q m) :
    (ReadFault.ofMisfit m).IsOr Q := by
  unfold ReadFault.ofMisfit
  split
  · trivial
  · trivial
  · next hvalue hkind => exact h.resolve_left fun hplain => hplain.elim hvalue hkind

/-- A setting cannot be looked up in what is no map. -/
theorem setting_failsOnly (entries : List (Scalar × Datum)) (name key : String) :
    FailsOnly (fun m => ¬ IsGroup entries name ∧ m = .lacks (group entries name).kind "get")
      (setting entries name key) := by
  unfold setting IsGroup
  cases group entries name with
  | map es => exact .ok _
  | _ => exact .error ⟨by simp, rfl⟩

section Reading
variable {α : Type} {entries : List (Scalar × Datum)} {name key : String}

theorem setting_escapes (hname : name ∈ loadedGroups) :
    FailsOnly (Escapes entries) (setting entries name key) := by
  refine (setting_failsOnly entries name key).mono ?_
  rintro m ⟨hgroup, rfl⟩
  exact .group hname hgroup

theorem read_failsOnly {kind : Datum → Except Misfit α} (hname : name ∈ loadedGroups)
    (hkind : ∀ d, setting entries name key = .ok d →
      FailsOnly (fun m => m.IsPlain ∨ Escapes entries m) (kind d)) :
    FailsOnly (ReadFault.IsOr (Escapes entries))
      (((setting entries name key).bind kind).mapError .ofMisfit) :=
  FailsOnly.mapError (FailsOnly.mono (fun _ => ofMisfit_isOr)
    (FailsOnly.bind ((setting_escapes hname).mono fun _ => .inr) hkind))

theorem optional_failsOnly {P : Misfit → Prop} {kind : Datum → Except Misfit α} {d : Datum}
    (h : FailsOnly P (kind d)) : FailsOnly P (optional kind d) := by
  unfold optional
  split
  · exact .ok _
  · exact .ok _
  · exact fun m hm => h m (map_eq_error.mp hm)

theorem whole_escapes (hmem : (name, key) ∈ wholeSettings) {d : Datum}
    (hd : setting entries name key = .ok d) :
    FailsOnly (fun m => m.IsPlain ∨ Escapes entries m) d.whole := by
  refine (Datum.whole_failsOnly d).mono fun m hm => hm.imp_right ?_
  rintro ⟨rfl, negative, rfl⟩
  exact .infinite hmem hd

theorem real_escapes (hmem : (name, key) ∈ realSettings) {d : Datum}
    (hd : setting entries name key = .ok d) :
    FailsOnly (fun m => m.IsPlain ∨ Escapes entries m) d.real := by
  refine (Datum.real_failsOnly d).mono fun m hm => hm.imp_right ?_
  rintro ⟨rfl, n, negative, rfl, hn⟩
  exact .vast hmem hd hn

theorem written_isPlain (d : Datum) :
    FailsOnly (fun m => m.IsPlain ∨ Escapes entries m) d.written? := by
  refine (Datum.written?_failsOnly d).mono ?_
  rintro m ⟨rfl, -⟩
  exact .inl (.inl rfl)

theorem isLoaded_of_whole (hmem : (name, key) ∈ wholeSettings) : name ∈ loadedGroups :=
  (by decide : ∀ at_ ∈ wholeSettings, at_.1 ∈ loadedGroups) _ hmem

theorem isLoaded_of_real (hmem : (name, key) ∈ realSettings) : name ∈ loadedGroups :=
  (by decide : ∀ at_ ∈ realSettings, at_.1 ∈ loadedGroups) _ hmem

theorem isLoaded_of_count (hmem : (name, key) ∈ countSettings) : name ∈ loadedGroups :=
  (by decide : ∀ at_ ∈ countSettings, at_.1 ∈ loadedGroups) _ hmem

theorem readWhole_failsOnly (hmem : (name, key) ∈ wholeSettings) :
    FailsOnly (ReadFault.IsOr (Escapes entries))
      (((setting entries name key).bind whole).mapError .ofMisfit) :=
  read_failsOnly (isLoaded_of_whole hmem) fun _ hd => whole_escapes hmem hd

theorem readWhole?_failsOnly (hmem : (name, key) ∈ wholeSettings) :
    FailsOnly (ReadFault.IsOr (Escapes entries))
      (((setting entries name key).bind (optional whole)).mapError .ofMisfit) :=
  read_failsOnly (isLoaded_of_whole hmem) fun _ hd =>
    optional_failsOnly (whole_escapes hmem hd)

theorem readReal_failsOnly (hmem : (name, key) ∈ realSettings) :
    FailsOnly (ReadFault.IsOr (Escapes entries))
      (((setting entries name key).bind real).mapError .ofMisfit) :=
  read_failsOnly (isLoaded_of_real hmem) fun _ hd => real_escapes hmem hd

theorem readReal?_failsOnly (hmem : (name, key) ∈ realSettings) :
    FailsOnly (ReadFault.IsOr (Escapes entries))
      (((setting entries name key).bind (optional real)).mapError .ofMisfit) :=
  read_failsOnly (isLoaded_of_real hmem) fun _ hd =>
    optional_failsOnly (real_escapes hmem hd)

theorem readText_failsOnly (hname : name ∈ loadedGroups) :
    FailsOnly (ReadFault.IsOr (Escapes entries))
      (((setting entries name key).bind Datum.written?).mapError .ofMisfit) :=
  read_failsOnly hname fun d _ => written_isPlain d

theorem readPolicy_failsOnly (entries : List (Scalar × Datum)) :
    FailsOnly (ReadFault.IsOr (Escapes entries)) (readPolicy entries) := by
  refine FailsOnly.bind (FailsOnly.mapError (FailsOnly.mono (fun _ h => ofMisfit_isOr (.inr h))
    (setting_escapes (by decide)))) fun d _ => ?_
  refine FailsOnly.bind (FailsOnly.mapError (FailsOnly.mono (fun _ h => ofMisfit_isOr h)
    (written_isPlain d))) fun text _ => ?_
  dsimp only
  split
  · exact .ok _
  · exact .error trivial

/-- **The monitor's settings are not read because one of them is at fault, or for one of a few
reasons that are not taken for faults of settings.** -/
theorem readMonitor_failsOnly (entries : List (Scalar × Datum)) :
    FailsOnly (ReadFault.IsOr (Escapes entries)) (readMonitor entries) := by
  unfold readMonitor
  refine .bind (readPolicy_failsOnly entries) fun policy _ => ?_
  extract_lets read
  refine .bind (readReal_failsOnly (by decide)) fun _ _ => ?_
  refine .bind (readWhole?_failsOnly (by decide)) fun _ _ => ?_
  refine .bind (readReal?_failsOnly (by decide)) fun _ _ => ?_
  refine .bind (readWhole_failsOnly (by decide)) fun _ _ => ?_
  refine .bind (readText_failsOnly (by decide)) fun _ _ => ?_
  refine .bind (readWhole?_failsOnly (by decide)) fun _ _ => ?_
  refine .bind (readWhole?_failsOnly (by decide)) fun _ _ => ?_
  refine .bind (readText_failsOnly (by decide)) fun _ _ => ?_
  refine .bind (readWhole_failsOnly (by decide)) fun _ _ => ?_
  refine .bind (readWhole_failsOnly (by decide)) fun _ _ => ?_
  exact .bind (readReal_failsOnly (by decide)) fun _ _ => .ok _

end Reading

/-! ### What was read -/

/-- What a setting is read as. -/
def reading {α : Type} (entries : List (Scalar × Datum)) (kind : Datum → Except Misfit α)
    (name key : String) : Except Misfit α :=
  (setting entries name key).bind kind

/-- The monitor's settings are what a document's settings are read as. -/
structure Reads (entries : List (Scalar × Datum)) (d : Monitor.Declared) : Prop where
  policy : readPolicy entries = .ok d.policy
  interval : ∃ x, reading entries real "polling" "poll_secs" = .ok x ∧ d.interval = .float x
  maxPoints : ∃ x, reading entries (optional whole) "polling" "window_max_points" = .ok x ∧
    d.maxPoints = x.map .int
  maxAge : ∃ x, reading entries (optional real) "polling" "window_max_age_secs" = .ok x ∧
    d.maxAge = x.map .float
  baseFee : ∃ x, reading entries whole "congestion" "base_fee" = .ok x ∧ d.baseFee = .int x
  multiplier : reading entries Datum.written? "congestion" "avg_multiplier" = .ok d.multiplier
  ceiling : ∃ x, reading entries (optional whole) "congestion" "absolute_ceiling" = .ok x ∧
    d.ceiling = x.map .int
  maxFeeCeiling : ∃ x, reading entries (optional whole) "congestion" "max_fee_ceiling" = .ok x ∧
    d.maxFeeCeiling = x.map .int
  margin : reading entries Datum.written? "congestion" "hysteresis_margin" = .ok d.margin
  enterCycles : ∃ x, reading entries whole "congestion" "enter_cycles" = .ok x ∧
    d.enterCycles = .int x
  failureThreshold : ∃ x, reading entries whole "polling" "failure_threshold" = .ok x ∧
    d.failureThreshold = .int x
  grace : ∃ x, reading entries real "polling" "shutdown_grace_secs" = .ok x ∧ d.grace = .float x

theorem limit_eq_ofNumber? {α : Type} (make : α → Number) (x : Option α) :
    readMonitor.limit (fun a => Datum.ofNumber (make a)) x = .ofNumber? (x.map make) := by
  cases x <;> rfl

/-- **What was read has the kinds that the settings are declared with.** -/
theorem readMonitor_eq_ok {entries : List (Scalar × Datum)} {s : Monitor.Settings}
    (h : readMonitor entries = .ok s) :
    ∃ d : Monitor.Declared, d.settings = s ∧ Reads entries d := by
  unfold readMonitor at h
  obtain ⟨policy, hpolicy, h⟩ := bind_eq_ok.mp h
  extract_lets read at h
  obtain ⟨interval, hinterval, h⟩ := bind_eq_ok.mp h
  obtain ⟨maxPoints, hmaxPoints, h⟩ := bind_eq_ok.mp h
  obtain ⟨maxAge, hmaxAge, h⟩ := bind_eq_ok.mp h
  obtain ⟨baseFee, hbaseFee, h⟩ := bind_eq_ok.mp h
  obtain ⟨multiplier, hmultiplier, h⟩ := bind_eq_ok.mp h
  obtain ⟨ceiling, hceiling, h⟩ := bind_eq_ok.mp h
  obtain ⟨maxFeeCeiling, hmaxFeeCeiling, h⟩ := bind_eq_ok.mp h
  obtain ⟨margin, hmargin, h⟩ := bind_eq_ok.mp h
  obtain ⟨enterCycles, henterCycles, h⟩ := bind_eq_ok.mp h
  obtain ⟨failureThreshold, hfailureThreshold, h⟩ := bind_eq_ok.mp h
  obtain ⟨grace, hgrace, h⟩ := bind_eq_ok.mp h
  refine ⟨{
    interval := .float interval
    maxPoints := maxPoints.map .int
    maxAge := maxAge.map .float
    baseFee := .int baseFee
    multiplier := multiplier
    ceiling := ceiling.map .int
    maxFeeCeiling := maxFeeCeiling.map .int
    margin := margin
    enterCycles := .int enterCycles
    policy := policy
    failureThreshold := .int failureThreshold
    grace := .float grace }, ?_, ?_⟩
  · rw [← Except.ok.inj h]
    simp only [Monitor.Declared.settings, ← limit_eq_ofNumber?]
    rfl
  · exact {
      policy := hpolicy
      interval := ⟨interval, mapError_eq_ok.mp hinterval, rfl⟩
      maxPoints := ⟨maxPoints, mapError_eq_ok.mp hmaxPoints, rfl⟩
      maxAge := ⟨maxAge, mapError_eq_ok.mp hmaxAge, rfl⟩
      baseFee := ⟨baseFee, mapError_eq_ok.mp hbaseFee, rfl⟩
      multiplier := mapError_eq_ok.mp hmultiplier
      ceiling := ⟨ceiling, mapError_eq_ok.mp hceiling, rfl⟩
      maxFeeCeiling := ⟨maxFeeCeiling, mapError_eq_ok.mp hmaxFeeCeiling, rfl⟩
      margin := mapError_eq_ok.mp hmargin
      enterCycles := ⟨enterCycles, mapError_eq_ok.mp henterCycles, rfl⟩
      failureThreshold := ⟨failureThreshold, mapError_eq_ok.mp hfailureThreshold, rfl⟩
      grace := ⟨grace, mapError_eq_ok.mp hgrace, rfl⟩ }

theorem reading_eq_ok {α : Type} {entries : List (Scalar × Datum)} {kind : Datum → Except Misfit α}
    {name key : String} {a : α} :
    reading entries kind name key = .ok a ↔
      ∃ d, setting entries name key = .ok d ∧ kind d = .ok a := bind_eq_ok

section Optional
variable {α : Type} {kind : Datum → Except Misfit α} {d : Datum} {a : α}

/-- A reading that takes neither null nor the empty text. -/
def IsStrict (kind : Datum → Except Misfit α) : Prop :=
  ∀ a, kind (.scalar .null) ≠ .ok a ∧ kind (.scalar (.text "")) ≠ .ok a

theorem whole_isStrict : IsStrict whole := fun _ => ⟨nofun, nofun⟩

theorem real_isStrict : IsStrict real := fun _ => ⟨nofun, nofun⟩

theorem optional_of_ok (hkind : IsStrict kind) (h : kind d = .ok a) :
    optional kind d = .ok (some a) := by
  unfold optional
  split
  · exact absurd h (hkind a).1
  · exact absurd h (hkind a).2
  · rw [h]
    rfl

theorem optional_eq_some (h : optional kind d = .ok (some a)) : kind d = .ok a := by
  unfold optional at h
  split at h
  · cases h
  · cases h
  · cases hd : kind d with
    | error e => rw [hd] at h; cases h
    | ok b => rw [hd] at h; cases h; rfl

end Optional

/-! ### Numbers and where they are read -/

section Numbers
variable (d : Monitor.Declared)

/-- The monitor's settings that are whole numbers, by where they are read. -/
def wholes : List ((String × String) × Option Number) :=
  [(("polling", "window_max_points"), d.maxPoints), (("congestion", "base_fee"), some d.baseFee),
    (("congestion", "absolute_ceiling"), d.ceiling),
    (("congestion", "max_fee_ceiling"), d.maxFeeCeiling),
    (("congestion", "enter_cycles"), some d.enterCycles),
    (("polling", "failure_threshold"), some d.failureThreshold)]

/-- The monitor's settings that are doubles, by where they are read. -/
def reals : List ((String × String) × Option Number) :=
  [(("polling", "poll_secs"), some d.interval), (("polling", "window_max_age_secs"), d.maxAge),
    (("polling", "shutdown_grace_secs"), some d.grace)]

theorem wholes_fst : (wholes d).map Prod.fst = wholeSettings := rfl

theorem reals_fst : (reals d).map Prod.fst = realSettings := rfl

theorem mem_numbers {x : Number} (h : x ∈ d.numbers) :
    ∃ at_, (at_, some x) ∈ wholes d ++ reals d := by
  simp only [Monitor.Declared.numbers, List.mem_append, List.mem_cons, Option.mem_toList,
    List.not_mem_nil, or_false] at h
  simp only [wholes, reals, List.cons_append, List.nil_append, List.mem_cons, Prod.mk.injEq,
    List.not_mem_nil, or_false, Option.some.injEq, exists_or, exists_eq_left]
  rcases h with (((((h | h | h | h | h) | h) | h) | h) | h) <;> simp only [h, true_or, or_true]

end Numbers

namespace Reads
variable {entries : List (Scalar × Datum)} {d : Monitor.Declared} {α : Type}
  {kind : Datum → Except Misfit α} {make : α → Number} {name key : String}

theorem of_some (hkind : IsStrict kind) {x : Number}
    (h : ∃ a, reading entries kind name key = .ok a ∧ x = make a) :
    ∃ a, reading entries (optional kind) name key = .ok a ∧ some x = a.map make := by
  obtain ⟨a, ha, rfl⟩ := h
  obtain ⟨v, hv, ha⟩ := reading_eq_ok.mp ha
  exact ⟨some a, reading_eq_ok.mpr ⟨v, hv, optional_of_ok hkind ha⟩, rfl⟩

/-- Each whole number of the settings was read where it is read, if it was not left out. -/
theorem of_wholes (h : Reads entries d) {x? : Option Number} (hmem : ((name, key), x?) ∈ wholes d) :
    ∃ y?, reading entries (optional whole) name key = .ok y? ∧ x? = y?.map .int := by
  simp only [wholes, List.mem_cons, Prod.mk.injEq, List.not_mem_nil, or_false] at hmem
  rcases hmem with ⟨⟨rfl, rfl⟩, rfl⟩ | ⟨⟨rfl, rfl⟩, rfl⟩ | ⟨⟨rfl, rfl⟩, rfl⟩ | ⟨⟨rfl, rfl⟩, rfl⟩ |
    ⟨⟨rfl, rfl⟩, rfl⟩ | ⟨⟨rfl, rfl⟩, rfl⟩
  · exact h.maxPoints
  · exact of_some whole_isStrict h.baseFee
  · exact h.ceiling
  · exact h.maxFeeCeiling
  · exact of_some whole_isStrict h.enterCycles
  · exact of_some whole_isStrict h.failureThreshold

/-- Each double of the settings was read where it is read, if it was not left out. -/
theorem of_reals (h : Reads entries d) {x? : Option Number} (hmem : ((name, key), x?) ∈ reals d) :
    ∃ y?, reading entries (optional real) name key = .ok y? ∧ x? = y?.map .float := by
  simp only [reals, List.mem_cons, Prod.mk.injEq, List.not_mem_nil, or_false] at hmem
  rcases hmem with ⟨⟨rfl, rfl⟩, rfl⟩ | ⟨⟨rfl, rfl⟩, rfl⟩ | ⟨⟨rfl, rfl⟩, rfl⟩
  · exact of_some real_isStrict h.interval
  · exact h.maxAge
  · exact of_some real_isStrict h.grace

/-- A whole number among the settings was read from one that is to be a whole number. -/
theorem exists_whole (h : Reads entries d) {n : Int} (hn : .int n ∈ d.numbers) :
    ∃ name key v, (name, key) ∈ wholeSettings ∧ setting entries name key = .ok v ∧
      v.whole = .ok n := by
  obtain ⟨⟨name, key⟩, hmem⟩ := mem_numbers d hn
  rcases List.mem_append.mp hmem with hmem | hmem
  · obtain ⟨y?, hread, hy⟩ := h.of_wholes hmem
    obtain ⟨v, hv, hwhole⟩ := reading_eq_ok.mp hread
    cases y? with
    | none => cases hy
    | some m =>
      cases hy
      exact ⟨name, key, v, wholes_fst d ▸ List.mem_map_of_mem hmem, hv, optional_eq_some hwhole⟩
  · obtain ⟨y?, -, hy⟩ := h.of_reals hmem
    cases y? <;> cases hy

end Reads

end FeeWatch.Config
