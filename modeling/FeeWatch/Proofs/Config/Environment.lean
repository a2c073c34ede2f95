import FeeWatch.Config.Environment
import FeeWatch.Proofs.Config.Groups
import FeeWatch.Proofs.Setting

/-! What the environment sets.

A variable sets the one setting at its path, and makes the group of the setting if there is none. No
two variables have one path, so after all of them are set each setting that a variable gives has the
variable's value, and everything apart from these settings is as it was (`applyEnvironment_at?`). -/
namespace FeeWatch.Config

open FeeWatch.Datum (at?)
open FeeWatch.Entries (find?)

def Variable.path (v : Variable) : List Scalar := [.text v.group, .text v.key]

/-- A path that leads neither to or into the setting of a variable nor to what is around it. -/
def Variable.IsApart (v : Variable) (path : List Scalar) : Prop :=
  ¬ v.path <+: path ∧ ¬ path <+: v.path

def allVariables : List Variable := textVariables ++ [storeSwitch]

def Variable.value (v : Variable) (s : String) : Scalar :=
  if v = storeSwitch then .bool (Text.lower s == "true") else .text s

theorem value_of_mem {v : Variable} (h : v ∈ textVariables) (s : String) : v.value s = .text s := by
  have hne : ∀ w ∈ textVariables, w ≠ storeSwitch := by decide
  exact if_neg (hne v h)

theorem settings_eq (env : Environment) : env.settings =
    allVariables.filterMap fun v => (env.get? v.name).map fun s => (v, v.value s) := by
  have htexts : textVariables.filterMap (fun v => (env.get? v.name).map fun s => (v, .text s)) =
      textVariables.filterMap fun v => (env.get? v.name).map fun s => (v, v.value s) :=
    List.filterMap_congr fun v hv => by simp only [value_of_mem hv]
  unfold Environment.settings allVariables
  rw [List.filterMap_append, htexts]
  cases h : env.get? storeSwitch.name <;> simp [h, Variable.value]

theorem mem_settings {env : Environment} {v : Variable} {value : Scalar} :
    (v, value) ∈ env.settings ↔
      v ∈ allVariables ∧ ∃ s, env.get? v.name = some s ∧ value = v.value s := by
  rw [settings_eq, List.mem_filterMap]
  constructor
  · rintro ⟨w, hw, h⟩
    obtain ⟨s, hs, heq⟩ := Option.map_eq_some_iff.mp h
    cases heq
    exact ⟨hw, s, hs, rfl⟩
  · rintro ⟨hv, s, hs, rfl⟩
    exact ⟨v, hv, by rw [hs]; rfl⟩

/-- No two variables give the same setting. -/
theorem allVariables_pairwise : allVariables.Pairwise fun v w => v.path ≠ w.path := by decide

theorem settings_pairwise (env : Environment) :
    env.settings.Pairwise fun x y => y.1.IsApart x.1.path := by
  rw [settings_eq]
  refine allVariables_pairwise.filterMap _ fun v w hvw x hx y hy => ?_
  obtain ⟨_, -, rfl⟩ := Option.map_eq_some_iff.mp hx
  obtain ⟨_, -, rfl⟩ := Option.map_eq_some_iff.mp hy
  exact ⟨fun h => hvw (h.eq_of_length rfl).symm, fun h => hvw (h.eq_of_length rfl)⟩

/-! ### One setting -/

/-- A setting is set in its group exactly if the group is a map. -/
theorem setSetting_eq_ok {entries entries' : List (Scalar × Datum)} {v : Variable}
    {value : Scalar} : setSetting entries v value = .ok entries' ↔
      ∃ es, group entries v.group = .map es ∧
        entries' = Entries.insert (.text v.group)
          (.map (Entries.insert (.text v.key) (.scalar value) es)) entries := by
  show (setPart v.key (.scalar value) (group entries v.group) >>= _) = _ ↔ _
  cases group entries v.group <;> simp [setPart, bind, Except.bind, eq_comm]

/-- What a setting was set to stands at its path. -/
theorem setSetting_at?_path {entries entries' : List (Scalar × Datum)} {v : Variable}
    {value : Scalar} (h : setSetting entries v value = .ok entries') :
    at? v.path (.map entries') = some (.scalar value) := by
  obtain ⟨es, -, rfl⟩ := setSetting_eq_ok.mp h
  simp [Variable.path]

/-- Setting a setting changes nothing apart from it. -/
theorem setSetting_at?_of_isApart {entries entries' : List (Scalar × Datum)} {v : Variable}
    {value : Scalar} (h : setSetting entries v value = .ok entries') {path : List Scalar}
    (hpath : v.IsApart path) : at? path (.map entries') = at? path (.map entries) := by
  obtain ⟨es, hgroup, rfl⟩ := setSetting_eq_ok.mp h
  cases path with
  | nil => exact absurd List.nil_prefix hpath.2
  | cons first rest =>
    rw [Datum.at?_cons_map, Datum.at?_cons_map, Entries.find?_insert]
    by_cases hfirst : first = .text v.group
    · subst hfirst
      cases rest with
      | nil => exact absurd (List.prefix_append _ [_]) hpath.2
      | cons second rest =>
        have hsecond : ¬ Scalar.sameKey (.text v.key) second = true := fun hsame =>
          hpath.1 (Scalar.sameKey_text_left.mp hsame ▸ List.prefix_append _ rest)
        rw [← Datum.at?_cons_map, at?_group hgroup, if_pos (Scalar.sameKey_self _),
          Option.bind_some, Datum.at?_cons_map, Entries.find?_insert, if_neg hsecond]
    · rw [if_neg fun hsame => hfirst (Scalar.sameKey_text_left.mp hsame)]

/-! ### All settings -/

/-- Settings that are set one after the other, each apart from those before it. -/
theorem foldlM_setSetting {settings : List (Variable × Scalar)}
    (hapart : settings.Pairwise fun x y => y.1.IsApart x.1.path)
    {entries entries' : List (Scalar × Datum)}
    (h : settings.foldlM (fun entries (v, value) => setSetting entries v value) entries =
      .ok entries') :
    (∀ x ∈ settings, at? x.1.path (.map entries') = some (.scalar x.2)) ∧
    ∀ path, (∀ x ∈ settings, x.1.IsApart path) →
      at? path (.map entries') = at? path (.map entries) := by
  induction hapart generalizing entries with
  | nil =>
    cases h
    exact ⟨nofun, fun _ _ => rfl⟩
  | @cons x rest hhead _ ih =>
    rw [List.foldlM_cons] at h
    obtain ⟨between, hset, hrest⟩ := bind_eq_ok.mp h
    obtain ⟨hmem, hframe⟩ := ih hrest
    refine ⟨fun y hy => ?_, fun path hpath => ?_⟩
    · rcases List.mem_cons.mp hy with rfl | hy
      · rw [hframe _ hhead, setSetting_at?_path hset]
      · exact hmem y hy
    · rw [hframe path fun y hy => hpath y (List.mem_cons_of_mem _ hy),
        setSetting_at?_of_isApart hset (hpath x List.mem_cons_self)]

/-- **The environment sets the settings of its variables, and nothing apart from them.** -/
theorem applyEnvironment_at? {env : Environment} {entries entries' : List (Scalar × Datum)}
    (h : applyEnvironment env entries = .ok entries') :
    (∀ v ∈ allVariables, ∀ s, env.get? v.name = some s →
      at? v.path (.map entries') = some (.scalar (v.value s))) ∧
    ∀ path, (∀ v ∈ allVariables, (env.get? v.name).isSome → v.IsApart path) →
      at? path (.map entries') = at? path (.map entries) := by
  obtain ⟨hset, hframe⟩ := foldlM_setSetting (settings_pairwise env) h
  refine ⟨fun v hv s hs => hset (v, v.value s) (mem_settings.mpr ⟨hv, s, hs, rfl⟩),
    fun path hpath => hframe path fun x hx => ?_⟩
  obtain ⟨hv, s, hs, -⟩ := mem_settings.mp hx
  exact hpath x.1 hv (by rw [hs]; rfl)

/-! ### When settings can be set -/

theorem setSetting_isGroup {entries entries' : List (Scalar × Datum)} {v : Variable}
    {value : Scalar} (h : setSetting entries v value = .ok entries') (name : String) :
    IsGroup entries' name ↔ IsGroup entries name := by
  obtain ⟨es, hgroup, rfl⟩ := setSetting_eq_ok.mp h
  unfold IsGroup group
  rw [Entries.find?_insert]
  by_cases hname : v.group = name
  · subst hname
    simpa [Scalar.sameKey_self] using ⟨es, hgroup⟩
  · rw [if_neg fun hsame => hname (Scalar.sameKey_text.mp hsame)]

theorem applyEnvironment_isGroup {env : Environment} {entries entries' : List (Scalar × Datum)}
    (h : applyEnvironment env entries = .ok entries') (name : String) :
    IsGroup entries' name ↔ IsGroup entries name := by
  unfold applyEnvironment at h
  generalize env.settings = settings at h
  induction settings generalizing entries with
  | nil =>
    cases h
    exact Iff.rfl
  | cons x rest ih =>
    rw [List.foldlM_cons] at h
    obtain ⟨between, hset, hrest⟩ := bind_eq_ok.mp h
    rw [ih hrest, setSetting_isGroup hset]

/-- The settings that the environment gives are those of the variables that are set. -/
theorem forall_settings_iff {env : Environment} {P : Variable → Prop} :
    (∀ x ∈ env.settings, P x.1) ↔ ∀ v ∈ allVariables, (env.get? v.name).isSome → P v := by
  constructor
  · intro h v hv hset
    obtain ⟨s, hs⟩ := Option.isSome_iff_exists.mp hset
    exact h (v, v.value s) (mem_settings.mpr ⟨hv, s, hs, rfl⟩)
  · rintro h ⟨v, value⟩ hx
    obtain ⟨hv, s, hs, -⟩ := mem_settings.mp hx
    exact h v hv (by rw [hs]; rfl)

theorem setSetting_isOk_iff {entries : List (Scalar × Datum)} {v : Variable} {value : Scalar} :
    (∃ entries', setSetting entries v value = .ok entries') ↔ IsGroup entries v.group := by
  simp only [setSetting_eq_ok, IsGroup]
  exact ⟨fun ⟨_, es, h, _⟩ => ⟨es, h⟩, fun ⟨es, h⟩ => ⟨_, es, h, rfl⟩⟩

/-- **The environment can set its settings exactly if their groups are maps.** -/
theorem applyEnvironment_isOk_iff (env : Environment) (entries : List (Scalar × Datum)) :
    (∃ entries', applyEnvironment env entries = .ok entries') ↔
      ∀ v ∈ allVariables, (env.get? v.name).isSome → IsGroup entries v.group := by
  rw [← forall_settings_iff (P := fun v => IsGroup entries v.group)]
  exact foldlM_isOk_iff (P := fun entries (x : Variable × Scalar) => IsGroup entries x.1.group)
    (fun _ _ _ => setSetting_isOk_iff) (fun _ _ _ _ h x _ => setSetting_isGroup h x.1.group) entries

theorem setSetting_failsOnly (entries : List (Scalar × Datum)) (v : Variable) (value : Scalar) :
    FailsOnly (fun m => m = .listIndex ∨ ∃ kind, m = .fixed kind) (setSetting entries v value) := by
  refine .bind ?_ fun _ _ => .ok _
  unfold setPart
  split
  · exact .ok _
  · exact .error (.inl rfl)
  · exact .error (.inr ⟨_, rfl⟩)

/-- The environment cannot set its settings because a group of theirs is no map. -/
theorem applyEnvironment_eq_error {env : Environment} {entries : List (Scalar × Datum)}
    {m : Datum.Misfit} (h : applyEnvironment env entries = .error m) :
    (m = .listIndex ∨ ∃ kind, m = .fixed kind) ∧
      ∃ v ∈ allVariables, (env.get? v.name).isSome ∧ ¬ IsGroup entries v.group := by
  refine ⟨FailsOnly.foldlM (fun _ _ => setSetting_failsOnly _ _ _) _ _ m h, ?_⟩
  by_contra hgroups
  obtain ⟨entries', hok⟩ := (applyEnvironment_isOk_iff env entries).mpr fun v hv hset =>
    not_not.mp fun hgroup => hgroups ⟨v, hv, hset, hgroup⟩
  cases h.symm.trans hok

end FeeWatch.Config
