import FeeWatch.Config.Load
import FeeWatch.Proofs.Setting

/-! What a document's settings passed when they were loaded.

The monitor's settings are read and checked, and of the other settings three are looked at: the
store, and two that count (`ofEntries_eq_ok_iff`). -/
namespace FeeWatch.Config

theorem atLeastOne_eq_ok {name : String} {n : Int} : atLeastOne name n = .ok () ↔ 1 ≤ n := by
  rw [atLeastOne, mapError_eq_ok, Setting.refuseIf_eq_ok_iff, Except.ok.injEq,
    decide_eq_false_iff_not]
  exact Int.not_lt

/-- **Settings are accepted exactly if the monitor's are read and in range, the store is one of
those that there are, and what counts is at least one.** -/
theorem ofEntries_eq_ok_iff {entries : List (Scalar × Datum)} {c : Config} :
    ofEntries entries = .ok c ↔
      c.entries = entries ∧ readMonitor entries = .ok c.monitor ∧ c.monitor.check = .ok () ∧
        (∃ s, c.storage = .ok s ∧ isBackend s.backend = true) ∧
        (∃ n, c.ledgerBatch = .ok n ∧ 1 ≤ n) ∧ ∃ n, c.ledgerPages = .ok n ∧ 1 ≤ n := by
  constructor
  · intro h
    obtain ⟨monitor, hmonitor, h⟩ := bind_eq_ok.mp h
    obtain ⟨hcheck, h⟩ := then_eq_ok.mp h
    obtain ⟨storage, hstorage, h⟩ := bind_eq_ok.mp h
    dsimp only at h
    split at h
    · obtain ⟨_, -, h⟩ := bind_eq_ok.mp h
      cases h
    · next hbackend =>
      obtain ⟨batch, hbatch, h⟩ := bind_eq_ok.mp h
      obtain ⟨hbatch', h⟩ := then_eq_ok.mp h
      obtain ⟨pages, hpages, h⟩ := bind_eq_ok.mp h
      obtain ⟨hpages', h⟩ := then_eq_ok.mp h
      cases h
      simp only [mapError_eq_ok, atLeastOne_eq_ok] at *
      exact ⟨trivial, hmonitor, hcheck, ⟨storage, hstorage, by simpa using hbackend⟩,
        ⟨batch, hbatch, hbatch'⟩, pages, hpages, hpages'⟩
  · rintro ⟨rfl, hmonitor, hcheck, ⟨storage, hstorage, hbackend⟩, ⟨batch, hbatch, hbatch'⟩,
      pages, hpages, hpages'⟩
    refine bind_eq_ok.mpr ⟨c.monitor, mapError_eq_ok.mpr hmonitor, ?_⟩
    refine then_eq_ok.mpr ⟨mapError_eq_ok.mpr hcheck, ?_⟩
    refine bind_eq_ok.mpr ⟨storage, mapError_eq_ok.mpr hstorage, ?_⟩
    dsimp only
    rw [if_neg (by simp [hbackend])]
    refine bind_eq_ok.mpr ⟨batch, mapError_eq_ok.mpr hbatch, ?_⟩
    refine then_eq_ok.mpr ⟨atLeastOne_eq_ok.mpr hbatch', ?_⟩
    refine bind_eq_ok.mpr ⟨pages, mapError_eq_ok.mpr hpages, ?_⟩
    exact then_eq_ok.mpr ⟨atLeastOne_eq_ok.mpr hpages', rfl⟩

end FeeWatch.Config
