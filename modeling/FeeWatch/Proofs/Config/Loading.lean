import FeeWatch.Proofs.Config.Acceptance
import FeeWatch.Proofs.Config.Precedence

/-! Faults of loading the settings.

Documents that can be read may still be no settings data, or settings that are not accepted. The
reasons for which a load ends with a fault that is not meant for those who give the settings lie in
the documents or in the settings that come of them (`Uncontained`); each of them keeps a load from
returning, and what a load returns answers when it is asked (`load_contained_or_not`). The library
that reads the documents may be any; it has to read a document, or find it malformed (`IsLegible`). -/
namespace FeeWatch.Config

/-! ### Documents -/

section Legible
variable (y : Yaml.Library)

/-- A text that can be had, and that the library reads or finds malformed. -/
def IsLegible (f : Files) (path : String) : Prop :=
  ∃ text, f.read path = .ok text ∧ FailsOnly (· = .malformed) (y.read text)

/-- The documents at a path and beside it are legible, as far as they are there. -/
structure AreLegible (f : Files) (path : String) : Prop where
  main : IsLegible y f path
  beside : f.stands (beside path) = .ok none ∨
    (∃ node, f.stands (beside path) = .ok (some node)) ∧ IsLegible y f (beside path)

/-- Why a load ends with a fault that is not contained. -/
inductive Uncontained (path : String) (env : Environment) (f : Files) : Fault → Prop
  /-- The documents, of which the main one is a map, cannot be laid over each other, or the
  environment over both. -/
  | overlay {lower : Shared} {upper : Option Shared} {o : OverlayFault}
    (hlower : readDocument y path path f = .ok lower)
    (hmap : (lower.entries? lower.root).isSome) (hupper : readLocal y path f = .ok upper)
    (h : Unlaid env lower upper o) : Uncontained path env f (.overlay o)
  /-- The settings that were laid over each other have such a reason. -/
  | settings {entries : List (Scalar × Datum)} {fault : Fault}
    (hread : readEntries y path env f = .ok entries) (h : fault.IsEscape entries) :
    Uncontained path env f fault

end Legible

section Load
variable {y : Yaml.Library} {given : Option String} {create : Bool} {env : Environment}
  {f f' : Files} {main path : String} {entries : List (Scalar × Datum)}

theorem readDocument_failsOnly (h : IsLegible y f path) :
    FailsOnly Fault.IsContained (readDocument y main path f) := by
  obtain ⟨text, hread, hyaml⟩ := h
  unfold readDocument
  rw [hread]
  refine .bind (.ok text) fun _ htext => ?_
  cases htext
  split
  · exact .ok _
  · exact .error trivial
  · next fault hne hfault => exact absurd (hyaml _ hfault) (by simpa using hne)

theorem readLocal_failsOnly (h : AreLegible y f path) :
    FailsOnly Fault.IsContained (readLocal y path f) := by
  refine FailsOnly.bind (fun e he => ?_) fun node hnode => ?_
  · obtain ⟨f, hf, -⟩ := mapError_eq_error.mp he
    rcases h.beside with hnone | ⟨⟨node, hsome⟩, -⟩
    · cases hf.symm.trans hnone
    · cases hf.symm.trans hsome
  · cases node with
    | none => exact .ok _
    | some node =>
      rcases h.beside with hnone | ⟨-, hlegible⟩
      · cases (mapError_eq_ok.mp hnode).symm.trans hnone
      · exact fun e he => readDocument_failsOnly hlegible e (map_eq_error.mp he)

/-- **Legible documents are laid over each other, unless one is malformed, the main one is no map,
or there is a reason against it.** -/
theorem readEntries_failsOnly (env : Environment) (h : AreLegible y f path) :
    FailsOnly (fun fault => fault.IsContained ∨ Uncontained y path env f fault)
      (readEntries y path env f) := by
  intro fault hfault
  rw [readEntries_eq] at hfault
  rcases bind_eq_error.mp hfault with hfault | ⟨lower, hlower, hfault⟩
  · exact .inl (readDocument_failsOnly h.main fault hfault)
  split at hfault
  · cases hfault
    exact .inl trivial
  next hmap =>
  rw [Bool.not_eq_true, Option.isNone_eq_false_iff] at hmap
  rcases bind_eq_error.mp hfault with hfault | ⟨upper, hupper, hfault⟩
  · exact .inl (readLocal_failsOnly h fault hfault)
  obtain ⟨o, hlay, rfl⟩ := mapError_eq_error.mp hfault
  exact .inr (.overlay hlower hmap hupper (unlaid_of_layOver hmap hlay))

theorem readEntries_eq_ok (h : readEntries y path env f = .ok entries) :
    ∃ lower upper, readDocument y path path f = .ok lower ∧ readLocal y path f = .ok upper ∧
      layOver env lower upper = .ok entries := by
  rw [readEntries_eq] at h
  obtain ⟨lower, hlower, h⟩ := bind_eq_ok.mp h
  split at h
  · cases h
  · obtain ⟨upper, hupper, h⟩ := bind_eq_ok.mp h
    exact ⟨lower, upper, hlower, hupper, mapError_eq_ok.mp h⟩

/-- **None of these reasons is there when settings are loaded.** -/
theorem not_uncontained_of_read {c : Config} (h : read y path env f = .ok c) (fault : Fault) :
    ¬ Uncontained y path env f fault := by
  obtain ⟨entries, hentries, hof⟩ := bind_eq_ok.mp h
  obtain ⟨lower, upper, hlower, hupper, hlay⟩ := readEntries_eq_ok hentries
  intro huncontained
  cases huncontained with
  | overlay hlower' hmap hupper' hunlaid =>
    cases hlower.symm.trans hlower'
    cases hupper.symm.trans hupper'
    obtain ⟨o, ho⟩ := hunlaid.layOver hmap
    cases hlay.symm.trans ho
  | settings hread hescape =>
    cases hentries.symm.trans hread
    exact (isAccepted_of_ok hof).not_isEscape fault hescape

/-- **A load of legible documents**, whichever library reads them, ends with a fault of the settings,
or for one of a few reasons with another fault, and with none of these reasons when it returns. What
it returns answers when it is asked for the settings of the ledger service and of the store, for the
time limit if it is a number, for those of alerts and logs if their groups are maps. -/
theorem load_contained_or_not (hpath : locate y given create f = .ok (path, f'))
    (hlegible : AreLegible y f' path) :
    (∀ fault, (loadWith y given create env f).1 = .error fault →
      fault.IsContained ∨ Uncontained y path env f' fault) ∧
    (∀ fault, Uncontained y path env f' fault →
      ∃ other, (loadWith y given create env f).1 = .error other) ∧
    ∀ c, (loadWith y given create env f).1 = .ok c → Answers c := by
  rw [load_eq_read hpath]
  refine ⟨?_, fun fault huncontained => ?_, fun c hc => ?_⟩
  · refine FailsOnly.bind (readEntries_failsOnly env hlegible) fun entries hentries => ?_
    exact (ofEntries_failsOnly entries).mono fun fault => Or.imp_right (.settings hentries)
  · cases hread : read y path env f' with
    | error other => exact ⟨other, rfl⟩
    | ok c => exact absurd huncontained (not_uncontained_of_read hread fault)
  · obtain ⟨entries, -, hof⟩ := bind_eq_ok.mp hc
    exact answers_of_accepted hof

end Load

/-- A main document alone. -/
def oneDocument (text : String) : Files := ⟨"/w", [], [(["config.yaml"], .text text)]⟩

/-- What of reading a document can be computed. -/
structure IsAlone (text : String) (s : Shared) (es : List (Scalar × Datum)) : Prop where
  stands : ((oneDocument text).stands "config.yaml").toOption = some (some (.text text))
  read : ((oneDocument text).read "config.yaml").toOption = some text
  noLocal : ((oneDocument text).stands (beside "config.yaml")).toOption = some none
  yaml : (Yaml.library.read text).toOption = some s
  isSome : s.isSome s.root = true
  isTree : s.isTree = true
  map : s.datum s.root = .map es

namespace IsAlone
variable {text : String} {s : Shared} {es : List (Scalar × Datum)}

theorem locate (h : IsAlone text s es) :
    locate Yaml.library (some "config.yaml") true (oneDocument text) =
      .ok ("config.yaml", oneDocument text) := by
  simp only [Config.locate, ok_of_toOption h.stands]

theorem areLegible (h : IsAlone text s es) :
    AreLegible Yaml.library (oneDocument text) "config.yaml" :=
  ⟨⟨text, ok_of_toOption h.read, fun fault hfault => by
    cases (ok_of_toOption h.yaml).symm.trans hfault⟩, .inl (ok_of_toOption h.noLocal)⟩

theorem load_eq (h : IsAlone text s es) :
    (load (some "config.yaml") true [] (oneDocument text)).1 = ofEntries es := by
  have hbase : IsTreeDocument Yaml.library "config.yaml" "config.yaml" (oneDocument text) es := by
    refine ⟨s, ?_, h.isTree, h.map⟩
    simp only [readDocument, ok_of_toOption h.read, ok_of_toOption h.yaml, h.isSome, bind,
      Except.bind, mapError_ok, if_true]
  have hlocal : IsLocalDocument Yaml.library "config.yaml" (oneDocument text) [] := by
    refine ⟨none, ?_, rfl, .none⟩
    simp only [readLocal, ok_of_toOption h.noLocal, bind, Except.bind, mapError_ok]
  have happly : applyEnvironment [] es = .ok es := rfl
  rw [load, load_eq_read h.locate, Config.read, readEntries_of_trees hbase hlocal, merge_nil, happly]
  rfl

end IsAlone

/-- The fee is an infinity. -/
theorem isAlone_infinite : IsAlone "congestion:\n  base_fee: .inf\n"
    ⟨#[.map [(.text "congestion", .place 2)], .map [],
      .map [(.text "base_fee", .scalar (.float (.infinite false)))], .map [], .map []], .place 0⟩
    [(.text "congestion", .map [(.text "base_fee", .float (.infinite false))])] where
  stands := by decide +kernel
  read := by decide +kernel
  noLocal := by decide +kernel
  yaml := by decide +kernel
  isSome := by decide +kernel
  isTree := isTree_of_sorted (by decide)
  map := rfl

/-- The group of alerts is nothing. -/
theorem isAlone_noAlerts : IsAlone "alerts:\n"
    ⟨#[.map [(.text "alerts", .scalar .null)], .map [], .map []], .place 0⟩
    [(.text "alerts", .null)] where
  stands := by decide +kernel
  read := by decide +kernel
  noLocal := by decide +kernel
  yaml := by decide +kernel
  isSome := by decide +kernel
  isTree := isTree_of_sorted (by decide)
  map := rfl

theorem load_infinite : (load (some "config.yaml") true [] (oneDocument
    "congestion:\n  base_fee: .inf\n")).1 = .error (.misfit (.number .infinityToInteger)) := by
  have hof : (ofEntries
      [(.text "congestion", .map [(.text "base_fee", .float (.infinite false))])]).map
        (fun _ => ()) = .error (.misfit (.number .infinityToInteger)) := by decide +kernel
  rw [isAlone_infinite.load_eq]
  exact map_eq_error.mp hof

theorem load_noAlerts : ∃ c,
    (load (some "config.yaml") true [] (oneDocument "alerts:\n")).1 = .ok c ∧
    c.alertUrl = .error (.lacks "NoneType" "get") := by
  have hof : ((ofEntries [(.text "alerts", .null)]).toOption.any fun _ => true) = true := by
    decide +kernel
  obtain ⟨c, hc, -⟩ := exists_ok_of_any hof
  refine ⟨c, isAlone_noAlerts.load_eq.trans hc, ?_⟩
  rw [alertUrl, (ofEntries_eq_ok_iff.mp hc).1]
  rfl

/-- An infinite fee ends a load with a fault that is not contained. A group that is nothing does
not, but then the address of alerts cannot be asked for. -/
theorem load_contained_or_not_alone :
    (∃ fault, Uncontained Yaml.library "config.yaml" []
      (oneDocument "congestion:\n  base_fee: .inf\n") fault) ∧
      ∃ c, (load (some "config.yaml") true [] (oneDocument "alerts:\n")).1 = .ok c ∧ Answers c ∧
        ¬ IsGroup c.entries "alerts" := by
  obtain ⟨hfaults, -, -⟩ := load_contained_or_not isAlone_infinite.locate
    isAlone_infinite.areLegible
  obtain ⟨-, -, hanswers⟩ := load_contained_or_not isAlone_noAlerts.locate
    isAlone_noAlerts.areLegible
  obtain ⟨c, hc, hurl⟩ := load_noAlerts
  refine ⟨⟨_, (hfaults _ load_infinite).resolve_left id⟩, c, hc, hanswers c hc, fun hgroup => ?_⟩
  obtain ⟨d, hd⟩ := (hanswers c hc).webhook.mpr hgroup
  cases hurl.symm.trans hd

/-- **A load may end with a fault that is not contained, and what it returns may not answer.** -/
theorem infinite_fee_is_uncontained :
    (∃ fault, (load (some "config.yaml") true [] (oneDocument
      "congestion:\n  base_fee: .inf\n")).1 = .error fault ∧ ¬ fault.IsContained) ∧
    ∃ c, (load (some "config.yaml") true [] (oneDocument "alerts:\n")).1 = .ok c ∧
      ¬ ∃ d, c.alertUrl = .ok d := by
  obtain ⟨c, hc, hurl⟩ := load_noAlerts
  exact ⟨⟨_, load_infinite, id⟩, c, hc, fun ⟨d, hd⟩ => by cases hurl.symm.trans hd⟩

end FeeWatch.Config
