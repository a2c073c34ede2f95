import FeeWatch.Proofs.Config.Checks
import FeeWatch.Proofs.Config.Environment
import FeeWatch.Proofs.Config.Merge
import FeeWatch.Proofs.Config.Overlay
import FeeWatch.Proofs.Yaml.Keys

/-! Which of several values a setting has.

A variable of the environment goes before the local document, that before the main document, and the
default comes last. The documents are laid over each other at all depths (`IsLaid`), and the
environment sets the settings of its variables alone (`applyEnvironment_at?`). What was loaded holds
that for every setting (`Follows`, `load_follows`), whichever library read the documents: of it no
more is used than that the maps it reads have distinct keys. -/
namespace FeeWatch.Config

open FeeWatch.Datum (IsKeyed IsSilent at?)

/-- A map is another one with a third one laid over it, along every path. -/
structure IsLaid (lower upper result : List (Scalar × Datum)) : Prop where
  /-- What the upper map defines counts, if it is no map or the lower one has no map there. -/
  value : ∀ path d, at? path (.map upper) = some d →
    (∀ es, d ≠ .map es) ∨ (∀ es, at? path (.map lower) ≠ some (.map es)) →
    at? path (.map result) = some d
  /-- Two maps are laid over each other in turn. -/
  maps : ∀ path l u, at? path (.map lower) = some (.map l) → at? path (.map upper) = some (.map u) →
    at? path (.map result) = some (.map (merge l u))
  /-- Where the upper map says nothing, the lower one counts. -/
  silent : ∀ path, IsSilent path (.map upper) → at? path (.map result) = at? path (.map lower)
  /-- A path that leads into what is no map in the upper map leads nowhere. -/
  cut : ∀ path, at? path (.map upper) = none → ¬ IsSilent path (.map upper) →
    at? path (.map result) = none
  /-- The upper map laid over the result changes nothing. -/
  again : merge result upper = result

theorem merge_isLaid {upper : List (Scalar × Datum)} (hupper : IsKeyed (.map upper))
    (lower : List (Scalar × Datum)) : IsLaid lower upper (merge lower upper) := by
  have hpath := at?_overlay hupper (some (.map lower))
  rw [overlay_map] at hpath
  refine ⟨fun path d hd hother => ?_, fun path l u hl hu => ?_, fun path => (hpath path).2.1,
    fun path => (hpath path).2.2, merge_merge_self hupper lower⟩
  · rw [(hpath path).1 d hd, Option.bind_some]
    rcases hother with hd | hlower
    · rw [overlay_other _ hd]
    · cases d with
      | map es => rw [overlay_map_other hlower]
      | _ => rw [overlay_other _ (by simp)]
  · rw [(hpath path).1 _ hu, Option.bind_some, hl, overlay_map]

/-! ### Documents -/

section Documents
variable (y : Yaml.Library)

/-- A document is a tree, and a map. -/
def IsTreeDocument (main path : String) (f : Files) (es : List (Scalar × Datum)) : Prop :=
  ∃ s, readDocument y main path f = .ok s ∧ s.isTree = true ∧ s.datum s.root = .map es

/-- The path of the local document of a main one. -/
def beside (path : String) : String := Files.below (Files.parent path) localName

/-- The local document of a main one, if there is one. -/
def readLocal (path : String) (f : Files) : Except Fault (Option Shared) := do
  match ← (f.stands (beside path)).mapError .files with
  | none => .ok none
  | some _ => (readDocument y path (beside path) f).map some

/-- What the local document holds, which is a tree and a map; where there is none, it holds
nothing. -/
def IsLocalDocument (path : String) (f : Files) (es : List (Scalar × Datum)) : Prop :=
  ∃ upper, readLocal y path f = .ok upper ∧ upper.all Shared.isTree = true ∧ Gives upper es

end Documents

section Read
variable {y : Yaml.Library} {main path : String} {f : Files} {lower : Shared}
  {upper : Option Shared} {base layer : List (Scalar × Datum)}

/-- A local document that was read is the one beside the main document. -/
theorem readLocal_eq_some {s : Shared} (h : readLocal y path f = .ok (some s)) :
    readDocument y path (beside path) f = .ok s := by
  obtain ⟨node, -, h⟩ := bind_eq_ok.mp h
  cases node with
  | none => cases h
  | some node =>
    cases hread : readDocument y path (beside path) f with
    | error e => rw [hread] at h; cases h
    | ok upper => rw [hread] at h; cases h; rfl

/-- The two documents are read, and then laid over each other. -/
theorem readEntries_eq (y : Yaml.Library) (path : String) (env : Environment) (f : Files) :
    readEntries y path env f = readDocument y path path f >>= fun lower =>
      if (lower.entries? lower.root).isNone then .error (.setting (.noMapping path))
      else readLocal y path f >>= fun upper => (layOver env lower upper).mapError .overlay := by
  unfold readEntries readLocal
  rw [← beside]
  simp only [bind, Except.bind]
  cases readDocument y path path f with
  | error e => simp only
  | ok lower =>
    simp only
    split
    · simp only
    · generalize (f.stands (beside path)).mapError Fault.files = node
      cases node with
      | error e => simp only
      | ok node => cases node <;> simp only

theorem readEntries_eq_layOver (hlower : readDocument y path path f = .ok lower)
    (hmap : (lower.entries? lower.root).isSome = true) (hupper : readLocal y path f = .ok upper)
    (env : Environment) :
    readEntries y path env f = (layOver env lower upper).mapError .overlay := by
  rw [readEntries_eq, hlower]
  show (if (lower.entries? lower.root).isNone then _ else _) = _
  rw [if_neg (by rw [← Option.not_isSome, hmap]; exact Bool.false_ne_true), hupper]
  rfl

/-- Nothing counts as an empty map, and what the library reads has distinct keys. -/
theorem readDocument_isKeyed (hy : y.IsKeyed) (h : readDocument y main path f = .ok lower) :
    lower.IsKeyed := by
  obtain ⟨text, -, h⟩ := bind_eq_ok.mp h
  cases hread : y.read text with
  | error fault => rw [hread] at h; cases fault <;> cases h
  | ok data =>
    rw [hread] at h
    cases h
    split
    · exact hy text data hread
    · intro cell hcell
      rw [Array.mem_singleton.mp hcell]
      exact Entries.distinct_nil

theorem IsLocalDocument.isKeyed (hy : y.IsKeyed) (h : IsLocalDocument y path f layer) :
    IsKeyed (.map layer) := by
  obtain ⟨_, hread, -, hgives⟩ := h
  cases hgives with
  | none => exact .map Entries.distinct_nil nofun
  | @some s _ hmap => exact hmap ▸ (readDocument_isKeyed hy (readLocal_eq_some hread)).datum s.root

/-- Trees are laid over each other as maps are, and the environment over both. -/
theorem readEntries_of_trees (hbase : IsTreeDocument y path path f base)
    (hlayer : IsLocalDocument y path f layer) (env : Environment) : readEntries y path env f =
      ((applyEnvironment env (merge base layer)).mapError .misfit).mapError .overlay := by
  obtain ⟨lower, hlower, htree, hmap⟩ := hbase
  obtain ⟨upper, hupper, htrees, hgives⟩ := hlayer
  have hboth : (lower.isTree && upper.all Shared.isTree) = true := by rw [htree, htrees]; rfl
  rw [readEntries_eq_layOver hlower (Shared.entries?_isSome_iff.mpr ⟨base, hmap⟩) hupper,
    layOver_of_trees hboth hmap hgives]

end Read

/-! ### What was loaded -/

/-- What was loaded has for each setting the value of the first that gives one: the environment, the
local document, the main document. -/
structure Follows (env : Environment) (base layer : List (Scalar × Datum)) (c : Config) : Prop where
  /-- The documents are laid over each other. -/
  laid : IsLaid base layer (merge base layer)
  /-- A variable that is set and not empty gives its setting its text. -/
  text : ∀ v ∈ textVariables, ∀ s, env.get? v.name = some s →
    at? v.path (.map c.entries) = some (.text s)
  /-- The switch of the store is whether its text is `true`. -/
  switch : ∀ s, env.get? storeSwitch.name = some s →
    at? storeSwitch.path (.map c.entries) = some (.bool (Text.lower s == "true"))
  /-- Apart from what variables set, what was loaded is the documents laid over each other. -/
  apart : ∀ path, (∀ v ∈ allVariables, (env.get? v.name).isSome → v.IsApart path) →
    at? path (.map c.entries) = at? path (.map (merge base layer))
  /-- A setting that no variable gives is the local document's, laid over the main document's, or
  the main document's where the local one has none. -/
  entry : ∀ name key, IsGroup base name → IsGroup layer name →
    (∀ v ∈ allVariables, v.group = name → v.key = key → env.get? v.name = none) →
    at? [.text name, .text key] (.map c.entries) =
      match at? [.text name, .text key] (.map layer) with
      | some d => some (overlay (at? [.text name, .text key] (.map base)) d)
      | none => at? [.text name, .text key] (.map base)
  /-- A setting that is not there has its default. -/
  setting : ∀ name key, IsGroup base name → IsGroup layer name →
    setting c.entries name key =
      .ok ((at? [.text name, .text key] (.map c.entries)).getD (defaultOf [name, key]))
  /-- What the rotation of log files does not have has its default. -/
  rotation : IsGroup base "logging" → IsGroup layer "logging" →
    HasRotation c.entries →
    c.rotation = .ok ⟨rotationPart c "max_bytes", rotationPart c "backup_count",
      rotationPart c "when"⟩
  /-- The monitor's settings are read from these settings. -/
  monitor : readMonitor c.entries = .ok c.monitor

/-- A group that is a map, or not there, in both documents is so when they are laid over each
other. -/
theorem merge_isGroup {base layer : List (Scalar × Datum)} (hlayer : Entries.Distinct layer)
    {name : String} (hbase : IsGroup base name) (hgroup : IsGroup layer name) :
    IsGroup (merge base layer) name := by
  refine isGroup_of_find? fun d hd => ?_
  rw [find?_merge hlayer] at hd
  cases hfind : Entries.find? (.text name) layer with
  | none =>
    rw [hfind] at hd
    exact hbase.find? hd
  | some value =>
    rw [hfind] at hd
    obtain ⟨u, rfl⟩ := hgroup.find? hfind
    cases hd
    cases hlower : Entries.find? (.text name) base with
    | none => exact ⟨u, overlay_none _⟩
    | some value =>
      obtain ⟨l, rfl⟩ := hbase.find? hlower
      exact ⟨_, overlay_map l u⟩

/-- A group that has no such key says nothing about it. -/
theorem isSilent_group {entries : List (Scalar × Datum)} {name : String}
    (h : IsGroup entries name) {key : Scalar}
    (hnone : at? [.text name, key] (.map entries) = none) :
    IsSilent [.text name, key] (.map entries) := by
  intro d hd
  obtain ⟨es, rfl⟩ := h.find? hd
  rw [Datum.at?_cons_map, hd, Option.bind_some, Datum.at?_cons_map] at hnone
  intro value hvalue
  rw [hvalue] at hnone
  cases hnone

/-- A setting that no variable gives is apart from those that variables give. -/
theorem isApart_of_unset {env : Environment} {name key : String}
    (h : ∀ v ∈ allVariables, v.group = name → v.key = key → env.get? v.name = none) :
    ∀ v ∈ allVariables, (env.get? v.name).isSome → v.IsApart [.text name, .text key] := by
  intro v hv hset
  have hne : v.path ≠ [.text name, .text key] := by
    intro heq
    simp only [Variable.path, List.cons.injEq, Scalar.text.injEq, and_true] at heq
    rw [h v hv heq.1 heq.2] at hset
    cases hset
  exact ⟨fun hle => hne (hle.eq_of_length rfl),
    fun hle => hne (hle.eq_of_length rfl).symm⟩

section Load
variable {y : Yaml.Library} {given : Option String} {create : Bool} {env : Environment}
  {f f' : Files} {path : String}

theorem load_eq_read (hpath : locate y given create f = .ok (path, f')) (env : Environment) :
    (loadWith y given create env f).1 = read y path env f' := by
  unfold loadWith
  rw [hpath]

/-- What was loaded has for each setting the value of the first that gives one. -/
theorem load_follows {base layer : List (Scalar × Datum)} {c : Config} (hy : y.IsKeyed)
    (hpath : locate y given create f = .ok (path, f')) (hbase : IsTreeDocument y path path f' base)
    (hlayer : IsLocalDocument y path f' layer) (hload : (loadWith y given create env f).1 = .ok c) :
    Follows env base layer c := by
  rw [load_eq_read hpath] at hload
  obtain ⟨entries, hentries, hof⟩ := bind_eq_ok.mp hload
  obtain ⟨rfl, hmonitor, -⟩ := ofEntries_eq_ok_iff.mp hof
  rw [readEntries_of_trees hbase hlayer, mapError_eq_ok, mapError_eq_ok] at hentries
  obtain ⟨hset, hapart⟩ := applyEnvironment_at? hentries
  have hkeyed := hlayer.isKeyed hy
  have hgroup : ∀ name, IsGroup base name → IsGroup layer name → IsGroup c.entries name :=
    fun name hb ho =>
      (applyEnvironment_isGroup hentries name).mpr (merge_isGroup hkeyed.distinct hb ho)
  refine ⟨merge_isLaid hkeyed base, fun v hv s hs => ?_, fun s hs => ?_, hapart, ?_, ?_, ?_,
    hmonitor⟩
  · rw [hset v (List.mem_append_left _ hv) s hs, value_of_mem hv]
    rfl
  · exact hset storeSwitch (List.mem_append_right _ List.mem_cons_self) s hs
  · intro name key hb ho hunset
    have hlaid := at?_overlay hkeyed (some (.map base)) [.text name, .text key]
    rw [overlay_map] at hlaid
    rw [hapart _ (isApart_of_unset hunset)]
    cases hat : at? [.text name, .text key] (.map layer) with
    | none => exact hlaid.2.1 (isSilent_group ho hat)
    | some d => exact hlaid.1 d hat
  · exact fun name key hb ho => (hgroup name hb ho).setting key
  · exact fun hb ho => rotation_of_maps (hgroup "logging" hb ho)

end Load

/-- **Precedence.** Any map is laid over another one along every path. What was loaded from
documents that are trees, read by whatever library reads maps with distinct keys, has for each
setting the value of the environment, else that of the local document laid over that of the main
one, and else its default. -/
theorem load_precedence :
    (∀ base layer : List (Scalar × Datum), IsKeyed (.map layer) →
      IsLaid base layer (merge base layer)) ∧
    ∀ y : Yaml.Library, y.IsKeyed →
      ∀ (given : Option String) (create : Bool) (env : Environment) (f f' : Files) (path : String)
        (base layer : List (Scalar × Datum)) (c : Config),
        locate y given create f = .ok (path, f') → IsTreeDocument y path path f' base →
        IsLocalDocument y path f' layer → (loadWith y given create env f).1 = .ok c →
        Follows env base layer c :=
  ⟨fun base _ hlayer => merge_isLaid hlayer base,
    fun _ hy _ _ _ _ _ _ _ _ _ hpath hbase hlayer hload => load_follows hy hpath hbase hlayer hload⟩

/-- Shared data are a tree if their collections are numbered in the order of their places. -/
theorem isTree_of_sorted {s : Shared}
    (h : (Shared.places (s.root :: s.cells.toList.flatMap Datum.Cell.parts)).Pairwise (· < ·)) :
    s.isTree = true := by
  unfold Shared.isTree
  dsimp only
  rw [List.mergeSort_of_pairwise (h.imp fun hlt => decide_eq_true (Nat.le_of_lt hlt)),
    List.all_eq_true]
  rintro ⟨a, b⟩ hab
  obtain ⟨i, hi, heq⟩ := List.mem_iff_getElem.mp hab
  rw [List.getElem_zip, List.getElem_drop, Prod.mk.injEq] at heq
  rw [List.length_zip, List.length_drop] at hi
  have hlt := List.pairwise_iff_getElem.mp h i (1 + i) (by omega) (by omega) (by omega)
  rw [heq.1, heq.2] at hlt
  exact bne_iff_ne.mpr (Nat.ne_of_lt hlt)

/-- Two documents that both name a place for the store. -/
def twoDocuments : Files :=
  ⟨"/w", [], [(["config.yaml"], .text "storage:\n  backend: jsonl\n  db_path: a\n"),
    (["config.local.yaml"], .text "storage:\n  db_path: b\n")]⟩

/-- What the main one of the two documents holds. -/
def mainEntries : List (Scalar × Datum) :=
  [(.text "storage", .map [(.text "backend", .text "jsonl"), (.text "db_path", .text "a")])]

/-- What the local one of the two documents holds. -/
def localEntries : List (Scalar × Datum) := [(.text "storage", .map [(.text "db_path", .text "b")])]

theorem isTreeDocument_mainEntries :
    IsTreeDocument Yaml.library "config.yaml" "config.yaml" twoDocuments mainEntries :=
  ⟨⟨#[.map [(.text "storage", .place 2)], .map [],
      .map [(.text "backend", .scalar (.text "jsonl")), (.text "db_path", .scalar (.text "a"))],
      .map [], .map [], .map [], .map []], .place 0⟩,
    ok_of_toOption (by decide +kernel), isTree_of_sorted (by decide), rfl⟩

theorem isLocalDocument_localEntries :
    IsLocalDocument Yaml.library "config.yaml" twoDocuments localEntries :=
  ⟨some ⟨#[.map [(.text "storage", .place 2)], .map [], .map [(.text "db_path", .scalar (.text "b"))],
      .map [], .map []], .place 0⟩,
    ok_of_toOption (by decide +kernel), isTree_of_sorted (by decide), .some rfl⟩

/-- What the program loads of the two documents. -/
theorem load_precedence_twoDocuments : IsLaid mainEntries localEntries
      (merge mainEntries localEntries) ∧
    ∃ c, (load (some "config.yaml") true [("FI_STORAGE_ENABLED", "TRUE")] twoDocuments).1 = .ok c ∧
      Follows [("FI_STORAGE_ENABLED", "TRUE")] mainEntries localEntries c := by
  have hread := readEntries_of_trees isTreeDocument_mainEntries isLocalDocument_localEntries
    [("FI_STORAGE_ENABLED", "TRUE")]
  have hpath : locate Yaml.library (some "config.yaml") true twoDocuments =
      .ok ("config.yaml", twoDocuments) := by
    have hstands : (twoDocuments.stands "config.yaml").toOption =
        some (some (.text "storage:\n  backend: jsonl\n  db_path: a\n")) := by decide +kernel
    simp only [locate, ok_of_toOption hstands]
  have hof : ((((applyEnvironment [("FI_STORAGE_ENABLED", "TRUE")]
      (merge mainEntries localEntries)).mapError OverlayFault.misfit).mapError Fault.overlay >>=
        ofEntries).toOption.any fun _ => true) = true := by decide +kernel
  obtain ⟨c, hc, -⟩ := exists_ok_of_any hof
  have hload : (load (some "config.yaml") true [("FI_STORAGE_ENABLED", "TRUE")] twoDocuments).1 =
      .ok c := by
    rw [load, load_eq_read hpath, read, hread, hc]
  obtain ⟨hlaid, hfollows⟩ := load_precedence
  exact ⟨hlaid _ _ (isLocalDocument_localEntries.isKeyed Yaml.library_isKeyed), c, hload,
    hfollows _ Yaml.library_isKeyed _ _ _ _ _ _ _ _ _ hpath isTreeDocument_mainEntries
      isLocalDocument_localEntries hload⟩

end FeeWatch.Config
