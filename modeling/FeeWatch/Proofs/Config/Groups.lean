import FeeWatch.Config.Basic
import FeeWatch.Proofs.Datum.Keys
import FeeWatch.Proofs.Setting

/-! Settings in their groups.

A setting is looked up in its group, which has to be a map or not to be there at all
(`setting_isOk_iff`). What is found is what stands at the setting's path, or the default
(`IsGroup.setting`). The settings for the rotation of log files lie one map deeper
(`rotation_isOk_iff`). -/
namespace FeeWatch.Config

open FeeWatch.Datum (at?)
open FeeWatch.Entries (find?)

/-- Whether a group of settings is a map; one that is not there is an empty one. -/
def IsGroup (entries : List (Scalar × Datum)) (name : String) : Prop :=
  ∃ es, group entries name = .map es

/-- What stands in a group that is a map stands under its keys. -/
theorem at?_group {entries es : List (Scalar × Datum)} {name : String}
    (h : group entries name = .map es) (key : Scalar) (path : List Scalar) :
    at? (.text name :: key :: path) (.map entries) = (find? key es).bind (at? path) := by
  unfold group at h
  rw [Datum.at?_cons_map]
  cases hfind : find? (.text name) entries with
  | none =>
    rw [hfind] at h
    cases h
    rfl
  | some d =>
    rw [hfind] at h
    cases h
    rfl

theorem isGroup_of_find? {entries : List (Scalar × Datum)} {name : String}
    (h : ∀ d, find? (.text name) entries = some d → ∃ es, d = .map es) : IsGroup entries name := by
  unfold IsGroup group
  cases hfind : find? (.text name) entries with
  | none => exact ⟨[], rfl⟩
  | some d => exact h d hfind

theorem IsGroup.find? {entries : List (Scalar × Datum)} {name : String} (h : IsGroup entries name)
    {d : Datum} (hd : find? (.text name) entries = some d) : ∃ es, d = .map es := by
  unfold IsGroup group at h
  rwa [hd] at h

/-- A setting of a group that is a map is what stands at its path, or its default. -/
theorem IsGroup.setting {entries : List (Scalar × Datum)} {name : String}
    (h : IsGroup entries name) (key : String) : setting entries name key =
      .ok ((at? [.text name, .text key] (.map entries)).getD (defaultOf [name, key])) := by
  obtain ⟨es, hes⟩ := h
  rw [at?_group hes, Config.setting, hes]
  cases hfind : Entries.find? (.text key) es <;> simp [Datum.getD, hfind]

theorem setting_isOk_iff {entries : List (Scalar × Datum)} {name key : String} :
    (∃ d, setting entries name key = .ok d) ↔ IsGroup entries name := by
  constructor
  · rintro ⟨d, h⟩
    unfold setting at h
    unfold IsGroup
    cases hgroup : group entries name with
    | map es => exact ⟨es, rfl⟩
    | _ => rw [hgroup] at h; cases h
  · exact fun h => ⟨_, h.setting key⟩

/-! ### The rotation of log files -/

/-- Whether the settings for the rotation of log files are a map, or not there. -/
def HasRotation (entries : List (Scalar × Datum)) : Prop :=
  ∀ d, at? [.text "logging", .text "rotation"] (.map entries) = some d → ∃ es, d = .map es

/-- A part of the settings for the rotation of log files, or its default. -/
def rotationPart (c : Config) (key : String) : Datum :=
  (at? [.text "logging", .text "rotation", .text key] (.map c.entries)).getD
    (defaultOf ["logging", "rotation", key])

/-- What a map has of the settings for the rotation of log files, and the defaults of the others. -/
theorem rotation_of_maps {c : Config} (hlogging : IsGroup c.entries "logging")
    (hrotation : HasRotation c.entries) :
    c.rotation = .ok ⟨rotationPart c "max_bytes", rotationPart c "backup_count",
      rotationPart c "when"⟩ := by
  obtain ⟨es, hes⟩ := hlogging
  unfold HasRotation at hrotation
  rw [at?_group hes] at hrotation
  unfold rotation rotationPart
  simp only [at?_group hes, hes]
  cases hfind : find? (.text "rotation") es with
  | none => simp [Datum.getD, find?, hfind, bind, Except.bind]
  | some d =>
    obtain ⟨rs, rfl⟩ := hrotation d (by rw [hfind]; rfl)
    simp [Datum.getD, hfind, bind, Except.bind]

theorem rotation_isOk_iff {c : Config} :
    (∃ r, c.rotation = .ok r) ↔ IsGroup c.entries "logging" ∧ HasRotation c.entries := by
  constructor
  · rintro ⟨r, h⟩
    obtain ⟨d, hd, h⟩ := bind_eq_ok.mp h
    obtain ⟨part, hpart, -⟩ := bind_eq_ok.mp h
    unfold IsGroup HasRotation
    cases hgroup : group c.entries "logging" with
    | map es =>
      refine ⟨⟨es, rfl⟩, fun value hvalue => ?_⟩
      rw [at?_group hgroup] at hvalue
      rw [hgroup] at hd
      cases hfind : find? (.text "rotation") es with
      | none => rw [hfind] at hvalue; cases hvalue
      | some found =>
        rw [hfind, Option.bind_some, Datum.at?_nil, Option.some.injEq] at hvalue
        subst hvalue
        rw [Datum.getD, hfind] at hd
        cases hd
        cases found with
        | map rs => exact ⟨rs, rfl⟩
        | _ => cases hpart
    | _ => rw [hgroup] at hd; cases hd
  · rintro ⟨hlogging, hrotation⟩
    exact ⟨_, rotation_of_maps hlogging hrotation⟩

end FeeWatch.Config
