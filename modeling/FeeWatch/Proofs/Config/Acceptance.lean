import FeeWatch.Proofs.Config.Checks
import FeeWatch.Proofs.Config.Reading

/-! Which settings a load accepts.

The settings that come of the documents and the environment are read, checked and, as far as a load
looks at them, known to be right when it returns. A fault of the settings is meant for those who give
them (`Fault.IsContained`); the reasons for other faults are a few (`Fault.IsEscape`), and none of
them is there when settings are accepted (`IsAccepted.not_isEscape`). What was accepted answers for
the settings that were looked at, and for others under conditions of their own (`Answers`). -/
namespace FeeWatch.Config

open FeeWatch.Datum (Misfit whole real at?)
open FeeWatch.Number (Decimal)

/-! ### Settings that were laid over each other -/

/-- A decimal setting that the check compares is not a number, and so has no order. -/
inductive HasNoOrder (entries : List (Scalar × Datum)) : Prop
  | margin {text : String} {x : Decimal}
    (h : reading entries Datum.written? "congestion" "hysteresis_margin" = .ok text)
    (hx : Decimal.ofText text = some x) (hnumber : ¬ x.IsNumber)
  | multiplier {text : String} {x : Decimal}
    (hceiling : reading entries (optional whole) "congestion" "absolute_ceiling" = .ok none)
    (h : reading entries Datum.written? "congestion" "avg_multiplier" = .ok text)
    (hx : Decimal.ofText text = some x) (hnumber : ¬ x.IsNumber)

/-- The faults that are meant for those who give the settings: there is no document, or the settings
are at fault. -/
def Fault.IsContained : Fault → Prop
  | .absent _ => True
  | .setting _ => True
  | _ => False

/-- Why settings that were laid over each other end a load with a fault that is not contained. -/
def Fault.IsEscape (entries : List (Scalar × Datum)) : Fault → Prop
  | .misfit m => Escapes entries m
  | .decimal f => f = .invalid ∧ HasNoOrder entries
  | _ => False

theorem storage_failsOnly (c : Config) : FailsOnly (Escapes c.entries) c.storage := by
  unfold storage
  extract_lets get
  have hget : ∀ key, FailsOnly (Escapes c.entries) (get key) := fun key =>
    setting_escapes (by decide)
  exact .bind (hget _) fun _ _ => .bind (hget _) fun _ _ => .bind (hget _) fun _ _ =>
    .bind (hget _) fun _ _ => .ok _

theorem storage_eq_ok {c : Config} {s : Storage} (h : c.storage = .ok s) :
    setting c.entries "storage" "backend" = .ok s.backend := by
  unfold storage at h
  obtain ⟨_, -, h⟩ := bind_eq_ok.mp h
  obtain ⟨backend, hbackend, h⟩ := bind_eq_ok.mp h
  obtain ⟨_, -, h⟩ := bind_eq_ok.mp h
  obtain ⟨_, -, h⟩ := bind_eq_ok.mp h
  cases h
  exact hbackend

theorem check_failsOnly {entries : List (Scalar × Datum)} {s : Monitor.Settings}
    (h : readMonitor entries = .ok s) :
    FailsOnly (fun f => (Fault.ofCheck f).IsContained ∨ (Fault.ofCheck f).IsEscape entries)
      s.check := by
  obtain ⟨d, rfl, hreads⟩ := readMonitor_eq_ok h
  refine (Monitor.Declared.check_failsOnly d).mono fun f hf => ?_
  cases f with
  | setting f => exact .inl trivial
  | decimal f =>
    obtain ⟨rfl, x, hnumber, hmargin | ⟨hceiling, hmultiplier⟩⟩ := hf
    · exact .inr ⟨rfl, .margin hreads.margin hmargin hnumber⟩
    · obtain ⟨x?, hread, hx⟩ := hreads.ceiling
      rw [hceiling] at hx
      cases x? with
      | none => exact .inr ⟨rfl, .multiplier hread hreads.multiplier hmultiplier hnumber⟩
      | some x => cases hx
  | misfit m =>
    obtain ⟨rfl, n, hle, hn, hlong⟩ := hf
    obtain ⟨name, key, v, hmem, hv, hwhole⟩ := hreads.exists_whole hn
    exact .inr (.long (List.mem_append_left _ hmem) hv hwhole hle hlong)

theorem atLeastOne_failsOnly (name : String) (n : Int) :
    FailsOnly (fun f => f.IsContained ∨
      f = .misfit (.number .unwritable) ∧ n ≤ 0 ∧ Number.isOverlong n = true)
      (atLeastOne name n) := by
  refine FailsOnly.mapError ((Setting.refuseIf_failsOnly rfl).mono ?_)
  rintro r (⟨f, rfl⟩ | ⟨rfl, hlt, hlong⟩)
  · exact .inl trivial
  · rw [decide_eq_true_eq] at hlt
    exact .inr ⟨rfl, by omega, (Datum.isOverlong_int n).symm.trans hlong⟩

theorem count_failsOnly {entries : List (Scalar × Datum)} {name key : String}
    (hmem : (name, key) ∈ countSettings) :
    FailsOnly (Escapes entries) ((setting entries name key).bind whole) :=
  .bind (setting_escapes (isLoaded_of_count hmem)) fun _ hd _ hm => .count hmem hd hm

theorem countAtLeastOne_failsOnly {entries : List (Scalar × Datum)} {name key text : String}
    {n : Int} (hmem : (name, key) ∈ countSettings) (h : (setting entries name key).bind whole = .ok n) :
    FailsOnly (fun f => f.IsContained ∨ f.IsEscape entries) (atLeastOne text n) := by
  obtain ⟨d, hd, hwhole⟩ := bind_eq_ok.mp h
  refine (atLeastOne_failsOnly text n).mono fun f hf => hf.imp_right ?_
  rintro ⟨rfl, hle, hlong⟩
  exact .long (List.mem_append_right _ hmem) hd hwhole hle hlong

/-- **Settings that were laid over each other are refused because one of them is at fault, or for
one of the reasons that are not taken for faults of settings.** -/
theorem ofEntries_failsOnly (entries : List (Scalar × Datum)) :
    FailsOnly (fun f => f.IsContained ∨ f.IsEscape entries) (ofEntries entries) := by
  unfold ofEntries
  refine .bind (.mapError ((readMonitor_failsOnly entries).mono fun f hf => ?_)) fun _ hs => ?_
  · cases f with
    | setting f => exact .inl trivial
    | misfit m => exact .inr hf
  refine .bind (.mapError (check_failsOnly (mapError_eq_ok.mp hs))) fun _ _ => ?_
  refine .bind (.mapError ((storage_failsOnly _).mono fun _ => .inr)) fun storage hstorage => ?_
  have hbackend := storage_eq_ok (mapError_eq_ok.mp hstorage)
  extract_lets
  refine .ite (fun _ => ?_) fun _ => ?_
  · refine .bind (.mapError ((Datum.written?_failsOnly _).mono ?_)) fun _ _ => .error (.inl trivial)
    rintro m ⟨rfl, hlong⟩
    exact .inr (.store hbackend hlong)
  refine .bind (.mapError ((count_failsOnly (by decide)).mono fun _ => .inr)) fun batch hbatch => ?_
  refine .bind (countAtLeastOne_failsOnly (by decide) (mapError_eq_ok.mp hbatch)) fun _ _ => ?_
  refine .bind (.mapError ((count_failsOnly (by decide)).mono fun _ => .inr)) fun pages hpages => ?_
  exact .bind (countAtLeastOne_failsOnly (by decide) (mapError_eq_ok.mp hpages)) fun _ _ => .ok _

/-! ### Settings that were accepted -/

theorem isOverlong_zero : Number.isOverlong 0 = false := by
  have hpos : ∀ n, 0 < Number.tenTo n := fun n => Nat.pow_pos (by decide)
  unfold Number.isOverlong
  exact decide_eq_false (Nat.not_le.mpr (hpos Number.digitLimit))

theorem isOverlong_of_isBackend {d : Datum} (h : isBackend d = true) : d.isOverlong = false := by
  cases d with
  | scalar s =>
    cases s with
    | text name => exact Datum.isOverlong_text name
    | _ => cases h
  | _ => cases h

/-- No whole number of settings in range is less than zero. -/
theorem nonneg_of_inRange {d : Monitor.Declared} (hd : d.InRange) {at_ : String × String} {n : Int}
    (h : (at_, some (.int n)) ∈ wholes d) : 0 ≤ n := by
  simp only [wholes, List.mem_cons, Prod.mk.injEq, List.not_mem_nil, or_false,
    Option.some.injEq] at h
  rcases h with ⟨-, h⟩ | ⟨-, h⟩ | ⟨-, h⟩ | ⟨-, h⟩ | ⟨-, h⟩ | ⟨-, h⟩
  · exact Int.le_trans Int.one_pos.le (Number.int_atLeast_iff.mp (hd.maxPoints _ h.symm))
  · exact Number.int_atLeast_iff.mp (h ▸ hd.baseFee)
  · exact (Number.int_exceeds_iff.mp (hd.ceiling _ h.symm)).le
  · exact (Number.int_exceeds_iff.mp (hd.maxFeeCeiling _ h.symm)).le
  · exact Int.le_trans Int.one_pos.le (Number.int_atLeast_iff.mp (h ▸ hd.enterCycles))
  · exact Int.le_trans Int.one_pos.le (Number.int_atLeast_iff.mp (h ▸ hd.failureThreshold))

section Accepted
variable {entries : List (Scalar × Datum)} {d : Monitor.Declared} {name key : String} {v : Datum}

/-- What was read where a whole number is read. -/
theorem Reads.whole_of_mem (h : Reads entries d) (hmem : (name, key) ∈ wholeSettings)
    (hv : setting entries name key = .ok v) :
    ∃ y?, optional whole v = .ok y? ∧ ((name, key), y?.map Number.int) ∈ wholes d := by
  rw [← wholes_fst d] at hmem
  obtain ⟨⟨_, x?⟩, hx, rfl⟩ := List.mem_map.mp hmem
  obtain ⟨y?, hread, rfl⟩ := h.of_wholes hx
  obtain ⟨w, hw, hwhole⟩ := reading_eq_ok.mp hread
  cases hv.symm.trans hw
  exact ⟨y?, hwhole, hx⟩

/-- What was read where a double is read. -/
theorem Reads.real_of_mem (h : Reads entries d) (hmem : (name, key) ∈ realSettings)
    (hv : setting entries name key = .ok v) : ∃ y?, optional real v = .ok y? := by
  rw [← reals_fst d] at hmem
  obtain ⟨⟨_, x?⟩, hx, rfl⟩ := List.mem_map.mp hmem
  obtain ⟨y?, hread, -⟩ := h.of_reals hx
  obtain ⟨w, hw, hreal⟩ := reading_eq_ok.mp hread
  cases hv.symm.trans hw
  exact ⟨y?, hreal⟩

theorem isGroup_of_reading {α : Type} {kind : Datum → Except Misfit α} {a : α}
    (h : reading entries kind name key = .ok a) : IsGroup entries name := by
  obtain ⟨v, hv, -⟩ := reading_eq_ok.mp h
  exact setting_isOk_iff.mp ⟨v, hv⟩

/-- What a load has seen of the settings that it accepted. -/
structure IsAccepted (entries : List (Scalar × Datum)) : Prop where
  declared : ∃ d, Reads entries d ∧ d.InRange
  backend : ∃ v, setting entries "storage" "backend" = .ok v ∧ isBackend v = true
  count : ∀ name key, (name, key) ∈ countSettings →
    ∃ v n, setting entries name key = .ok v ∧ v.whole = .ok n ∧ 1 ≤ n

theorem isAccepted_of_ok {c : Config} (h : ofEntries entries = .ok c) : IsAccepted entries := by
  obtain ⟨rfl, hmonitor, hcheck, ⟨s, hs, hbackend⟩, ⟨batch, hbatch, hbatch'⟩, pages, hpages,
    hpages'⟩ := ofEntries_eq_ok_iff.mp h
  obtain ⟨d, hsettings, hreads⟩ := readMonitor_eq_ok hmonitor
  refine ⟨⟨d, hreads, d.check_eq_ok_iff.mp (hsettings ▸ hcheck)⟩, ⟨_, storage_eq_ok hs, hbackend⟩,
    fun name key hmem => ?_⟩
  simp only [countSettings, List.mem_cons, Prod.mk.injEq, List.not_mem_nil, or_false] at hmem
  rcases hmem with ⟨rfl, rfl⟩ | ⟨rfl, rfl⟩
  · obtain ⟨v, hv, hn⟩ := bind_eq_ok.mp hbatch
    exact ⟨v, batch, hv, hn, hbatch'⟩
  · obtain ⟨v, hv, hn⟩ := bind_eq_ok.mp hpages
    exact ⟨v, pages, hv, hn, hpages'⟩

namespace IsAccepted

/-- The groups that a load looks into are maps. -/
theorem isGroup (h : IsAccepted entries) (hname : name ∈ loadedGroups) : IsGroup entries name := by
  obtain ⟨⟨d, hreads, -⟩, ⟨backend, hbackend, -⟩, hcount⟩ := h
  obtain ⟨_, hinterval, -⟩ := hreads.interval
  obtain ⟨batch, _, hbatch, -⟩ := hcount "horizon" "batch_size" (by decide)
  simp only [loadedGroups, List.mem_cons, List.not_mem_nil, or_false] at hname
  rcases hname with rfl | rfl | rfl | rfl
  · exact isGroup_of_reading hinterval
  · exact isGroup_of_reading hreads.margin
  · exact setting_isOk_iff.mp ⟨_, hbackend⟩
  · exact setting_isOk_iff.mp ⟨_, hbatch⟩

/-- A whole number of the settings is not less than zero. -/
theorem nonneg (h : IsAccepted entries) {n : Int} (hmem : (name, key) ∈ wholeSettings ++ countSettings)
    (hv : setting entries name key = .ok v) (hn : v.whole = .ok n) : 0 ≤ n := by
  obtain ⟨⟨d, hreads, hrange⟩, -, hcount⟩ := h
  rcases List.mem_append.mp hmem with hmem | hmem
  · obtain ⟨y?, hy, hnumber⟩ := hreads.whole_of_mem hmem hv
    cases (optional_of_ok whole_isStrict hn).symm.trans hy
    exact nonneg_of_inRange hrange hnumber
  · obtain ⟨w, m, hw, hm, hone⟩ := hcount name key hmem
    cases hv.symm.trans hw
    cases hn.symm.trans hm
    omega

/-- No misfit keeps accepted settings from being read. -/
theorem not_escapes (h : IsAccepted entries) (m : Misfit) : ¬ Escapes entries m := by
  intro hescape
  obtain ⟨d, hreads, -⟩ := h.declared
  cases hescape with
  | group hname hnone => exact hnone (h.isGroup hname)
  | infinite hmem hv =>
    obtain ⟨y?, hy, -⟩ := hreads.whole_of_mem hmem hv
    cases hy
  | @vast _ _ n _ hmem hv hn =>
    obtain ⟨y?, hy⟩ := hreads.real_of_mem hmem hv
    have hreal : (Number.Binary.ofInt? n).mapError Misfit.number =
        .error (.number .integerToFloat) := by
      rw [Number.Binary.ofInt?, hn]
      rfl
    have hnone : optional real (.int n) = (Except.error (.number .integerToFloat)) :=
      congrArg (Except.map some) hreal
    cases hnone.symm.trans hy
  | @long _ _ _ n hmem hv hwhole hle hlong =>
    have hnonneg := h.nonneg hmem hv hwhole
    obtain rfl : n = 0 := by omega
    rw [isOverlong_zero] at hlong
    cases hlong
  | store hv hlong =>
    obtain ⟨backend, hbackend, his⟩ := h.backend
    cases hv.symm.trans hbackend
    rw [isOverlong_of_isBackend his] at hlong
    cases hlong
  | count hmem hv hm =>
    obtain ⟨w, n, hw, hn, -⟩ := h.count _ _ hmem
    cases hv.symm.trans hw
    cases hm.symm.trans hn

/-- The decimals of accepted settings that are compared have an order. -/
theorem not_hasNoOrder (h : IsAccepted entries) : ¬ HasNoOrder entries := by
  obtain ⟨⟨d, hreads, hrange⟩, -, -⟩ := h
  rintro (⟨hread, hx, hnumber⟩ | ⟨hceiling, hread, hx, hnumber⟩)
  · cases hread.symm.trans hreads.margin
    obtain ⟨y, hy, hle, -⟩ := hrange.margin
    cases hx.symm.trans hy
    exact hnumber (Decimal.isNumber_of_whole_le hle)
  · cases hread.symm.trans hreads.multiplier
    obtain ⟨y, hy, hpositive⟩ := hrange.multiplier
    obtain ⟨x?, hread', hnone⟩ := hreads.ceiling
    cases hx.symm.trans hy
    cases hceiling.symm.trans hread'
    exact hnumber (Decimal.isNumber_of_whole_lt (hpositive hnone))

/-- **None of these reasons is there when settings are accepted.** -/
theorem not_isEscape (h : IsAccepted entries) (f : Fault) : ¬ f.IsEscape entries := by
  intro hescape
  cases f with
  | misfit m => exact h.not_escapes m hescape
  | decimal f => exact h.not_hasNoOrder hescape.2
  | _ => exact hescape

end IsAccepted
end Accepted

/-! ### Settings that are asked for -/

/-- What stands at the path of a setting, or its default. -/
def value (c : Config) (name key : String) : Datum :=
  (at? [.text name, .text key] (.map c.entries)).getD (defaultOf [name, key])

/-- Which of the settings that are not read when they are loaded can be asked for. -/
structure Answers (c : Config) : Prop where
  url : ∃ d, c.ledgerUrl = .ok d
  batch : ∃ n, c.ledgerBatch = .ok n
  pages : ∃ n, c.ledgerPages = .ok n
  storage : ∃ s, c.storage = .ok s
  /-- The time limit was not looked at. -/
  timeout : (∃ x, c.ledgerTimeout = .ok x) ↔ ∃ x, (c.value "horizon" "timeout_secs").real = .ok x
  webhook : (∃ d, c.alertUrl = .ok d) ↔ IsGroup c.entries "alerts"
  quiet : (∃ n, c.alertQuiet = .ok n) ↔
    IsGroup c.entries "alerts" ∧ ∃ n, (c.value "alerts" "min_change_secs").whole = .ok n
  level : (∃ d, c.logLevel = .ok d) ↔ IsGroup c.entries "logging"
  folder : (∃ d, c.logFolder = .ok d) ↔ IsGroup c.entries "logging"
  console : (∃ d, c.consoleLevel = .ok d) ↔ IsGroup c.entries "logging"
  rotation : (∃ r, c.rotation = .ok r) ↔ IsGroup c.entries "logging" ∧ HasRotation c.entries

/-- A setting is read exactly if its group is a map and what is found there is of the kind. -/
theorem reading_isOk_iff {α : Type} {c : Config} {kind : Datum → Except Misfit α}
    {name key : String} : (∃ a, reading c.entries kind name key = .ok a) ↔
      IsGroup c.entries name ∧ ∃ a, kind (c.value name key) = .ok a := by
  constructor
  · rintro ⟨a, ha⟩
    have hgroup := isGroup_of_reading ha
    obtain ⟨v, hv, hkind⟩ := reading_eq_ok.mp ha
    cases (hgroup.setting key).symm.trans hv
    exact ⟨hgroup, a, hkind⟩
  · rintro ⟨hgroup, a, ha⟩
    exact ⟨a, reading_eq_ok.mpr ⟨_, hgroup.setting key, ha⟩⟩

theorem answers_of_accepted {entries : List (Scalar × Datum)} {c : Config}
    (h : ofEntries entries = .ok c) : Answers c := by
  have hledger : IsGroup c.entries "horizon" := by
    rw [(ofEntries_eq_ok_iff.mp h).1]
    exact (isAccepted_of_ok h).isGroup (by decide)
  obtain ⟨-, -, -, ⟨s, hs, -⟩, ⟨batch, hbatch, -⟩, pages, hpages, -⟩ := ofEntries_eq_ok_iff.mp h
  exact {
    url := setting_isOk_iff.mpr hledger
    batch := ⟨batch, hbatch⟩
    pages := ⟨pages, hpages⟩
    storage := ⟨s, hs⟩
    timeout := reading_isOk_iff.trans (and_iff_right hledger)
    webhook := setting_isOk_iff
    quiet := reading_isOk_iff
    level := setting_isOk_iff
    folder := setting_isOk_iff
    console := setting_isOk_iff
    rotation := rotation_isOk_iff }

end FeeWatch.Config
