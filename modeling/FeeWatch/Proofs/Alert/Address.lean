import FeeWatch.Alert.Address
import FeeWatch.Proofs.Setting
import Mathlib.Data.List.TakeWhile

/-! Which texts are addresses to connect to.

Of an address only its location decides that, what stands between the two slashes and the
path: its brackets and characters, its port and its host (`IsConnectable`). The scheme, the
path, the query and the fragment may be anything (`read_isOk_iff`). A port is read as every
whole number is, but nothing except digits gets that far, so that it counts by the value of
its digits (`readInt_digits`). -/
namespace FeeWatch

/-! ### Numbers of digits alone -/

namespace Text

theorem isDigit_iff {c : Char} : c.isDigit = true ↔ 0x30 ≤ c.toNat ∧ c.toNat ≤ 0x39 := by
  simp only [Char.isDigit, Bool.and_eq_true, decide_eq_true_eq, Char.toNat, ge_iff_le]
  exact Iff.rfl

/-- A digit is its own ASCII digit. -/
theorem foldDigit_of_isDigit {c : Char} (h : c.isDigit = true) : foldDigit c = c := by
  obtain ⟨hlow, hhigh⟩ := isDigit_iff.mp h
  have hvalue : digitValue? c = some (c.toNat - 0x30) := by
    unfold digitValue?
    simp only [h, if_true, if_pos (by omega : c.toNat < 0x80)]
  rw [foldDigit, hvalue]
  show Char.ofNat (0x30 + (c.toNat - 0x30)) = c
  rw [Nat.add_sub_of_le hlow, Char.ofNat_toNat]

theorem isNumberBlank_of_isDigit {c : Char} (h : c.isDigit = true) : isNumberBlank c = false := by
  obtain ⟨hlow, hhigh⟩ := isDigit_iff.mp h
  have hplain : isPlainBlank c = false := by
    simp only [isPlainBlank, Bool.or_eq_false_iff, Bool.and_eq_false_iff, beq_eq_false_iff_ne,
      decide_eq_false_iff_not]
    omega
  simp only [isNumberBlank, hplain, Bool.false_or, Bool.and_eq_false_iff, decide_eq_false_iff_not]
  omega

theorem trim_eq_self {drop : Char → Bool} {cs : List Char} (h : ∀ c ∈ cs, drop c = false) :
    trim drop cs = cs := by
  have hfront : ∀ ds : List Char, (∀ c ∈ ds, drop c = false) → ds.dropWhile drop = ds := by
    intro ds hds
    cases ds with
    | nil => rfl
    | cons d rest => exact List.dropWhile_cons_of_neg (by simp [hds d List.mem_cons_self])
  rw [trim, hfront cs h, hfront cs.reverse fun c hc => h c (List.mem_reverse.mp hc),
    List.reverse_reverse]

end Text

namespace Number

theorem joinDigits_digits {cs : List Char} (h : ∀ c ∈ cs, c.isDigit = true) :
    joinDigits Char.isDigit cs = some cs := by
  fun_induction joinDigits Char.isDigit cs with
  | case1 => rfl
  | case2 c hc => rfl
  | case3 c hc => exact absurd (h c List.mem_cons_self) hc
  | case4 c d rest hcd ih => exact absurd (h '_' (by simp)) (by decide)
  | case5 c d rest hcd => exact absurd (h '_' (by simp)) (by decide)
  | case6 c d rest hne hc ih => rw [ih fun c hc => h c (List.mem_cons_of_mem _ hc)]; rfl
  | case7 c d rest hne hc => exact absurd (h c List.mem_cons_self) hc

/-- Digits are read as the number they write, unless there are too many. -/
theorem readInt_digits {cs : List Char} (hcs : cs ≠ []) (h : ∀ c ∈ cs, c.isDigit = true) :
    readInt (String.ofList cs) =
      if digitLimit < cs.length then .error (.tooLong cs.length)
      else .ok (Text.digitsValue cs) := by
  have hplain : plain (String.ofList cs) = cs := by
    rw [plain, String.toList_ofList, Text.trim_eq_self fun c hc =>
      Text.isNumberBlank_of_isDigit (h c hc)]
    exact (List.map_congr_left fun c hc => Text.foldDigit_of_isDigit (h c hc)).trans
      (List.map_id cs)
  have hrun : cs.takeWhile (fun c => c.isDigit || c == '_') = cs :=
    List.takeWhile_eq_self_iff.mpr fun c hc => by rw [h c hc, Bool.true_or]
  have hsign : splitSign cs = (false, cs) := by
    cases cs with
    | nil => exact absurd rfl hcs
    | cons d ds =>
      have hd := h d List.mem_cons_self
      unfold splitSign
      split
      · rename_i heq
        cases heq
        exact absurd hd (by decide)
      · rename_i heq
        cases heq
        exact absurd hd (by decide)
      · rfl
  unfold readInt
  rw [hplain, hsign]
  simp only [hrun, joinDigits_digits h]
  cases cs with
  | nil => exact absurd rfl hcs
  | cons d ds => rfl

end Number

namespace Alert.Address

/-! ### Steps of reading -/

/-- What stands between the two slashes and the path of a text. -/
def location (s : String) : List Char :=
  let cs := s.toList.dropWhile fun c => c.toNat ≤ 0x20
  let cs := cs.filter fun c => c != '\t' && c != '\r' && c != '\n'
  (splitLocation (splitScheme cs).2).1

/-- A port that can be connected to; a missing one can. -/
structure IsPort (cs : List Char) : Prop where
  digits : ∀ c ∈ cs, c.isDigit = true
  short : cs.length ≤ Number.digitLimit
  inRange : Text.digitsValue cs ≤ 65535

/-- A location that can be connected to. -/
structure IsConnectable (location : List Char) : Prop where
  brackets : checkLocation location = .ok ()
  characters : ∀ c ∈ location, c.toNat ∉ ambiguous
  port : IsPort (hostAndPort location).2
  host : (hostAndPort location).1 ≠ []
  unblank : ∀ c ∈ (lowerHost (hostAndPort location).1).toList, isBlank c = false

theorem checkCharacters_eq_ok {location : List Char} :
    checkCharacters location = .ok () ↔ ∀ c ∈ location, c.toNat ∉ ambiguous := by
  unfold checkCharacters
  split
  · rename_i h
    obtain ⟨c, hc, hmem⟩ := List.any_eq_true.mp h
    exact ⟨nofun, fun hnone => absurd (List.contains_iff_mem.mp hmem) (hnone c hc)⟩
  · rename_i h
    refine ⟨fun _ c hc hmem => h ?_, fun _ => rfl⟩
    exact List.any_eq_true.mpr ⟨c, hc, List.contains_iff_mem.mpr hmem⟩

theorem readPort_isOk_iff {default : Nat} {cs : List Char} :
    (∃ n, readPort default cs = .ok n) ↔ IsPort cs := by
  cases cs with
  | nil => exact ⟨fun _ => ⟨nofun, by decide, by decide⟩, fun _ => ⟨default, rfl⟩⟩
  | cons c cs =>
    unfold readPort
    rw [if_neg (by simp)]
    by_cases hdigits : (c :: cs).all Char.isDigit = true
    · have hall := List.all_eq_true.mp hdigits
      rw [if_pos hdigits, Number.readInt_digits (List.cons_ne_nil c cs) hall]
      by_cases hlong : Number.digitLimit < (c :: cs).length
      · rw [if_pos hlong]
        exact ⟨nofun, fun h => absurd h.short (Nat.not_le.mpr hlong)⟩
      · rw [if_neg hlong]
        by_cases hrange : 65535 < Text.digitsValue (c :: cs)
        · simp only [if_pos (by omega : (65535 : Int) < Text.digitsValue (c :: cs))]
          exact ⟨nofun, fun h => absurd h.inRange (Nat.not_le.mpr hrange)⟩
        · simp only [if_neg (by omega : ¬ (65535 : Int) < Text.digitsValue (c :: cs))]
          exact ⟨fun _ => ⟨hall, Nat.le_of_not_lt hlong, Nat.le_of_not_lt hrange⟩,
            fun _ => ⟨_, rfl⟩⟩
    · rw [if_neg hdigits]
      exact ⟨nofun, fun h => absurd (List.all_eq_true.mpr h.digits) hdigits⟩

theorem checkHost_isOk_iff {host : List Char} :
    (∃ name, checkHost host = .ok name) ↔
      host ≠ [] ∧ ∀ c ∈ (lowerHost host).toList, isBlank c = false := by
  unfold checkHost
  by_cases hempty : host.isEmpty = true
  · rw [if_pos hempty]
    exact ⟨nofun, fun h => absurd (List.isEmpty_iff.mp hempty) h.1⟩
  · rw [if_neg hempty]
    have hhost : host ≠ [] := fun h => hempty (List.isEmpty_iff.mpr h)
    dsimp only
    cases hfind : (lowerHost host).toList.find? isBlank with
    | some c =>
      have hblank := List.find?_some hfind
      have hmem := List.mem_of_find?_eq_some hfind
      refine ⟨nofun, fun h => ?_⟩
      exact absurd hblank (Bool.eq_false_iff.mp (h.2 c hmem))
    | none =>
      have hnone := List.find?_eq_none.mp hfind
      exact ⟨fun _ => ⟨hhost, fun c hc => Bool.eq_false_iff.mpr (hnone c hc)⟩, fun _ => ⟨_, rfl⟩⟩

/-- **Only the location decides whether a text is an address.** -/
theorem read_isOk_iff (s : String) :
    (∃ a, read s = .ok a) ↔ IsConnectable (location s) := by
  unfold read
  dsimp only
  constructor
  · rintro ⟨a, h⟩
    obtain ⟨_, hbrackets, h⟩ := bind_eq_ok.mp h
    obtain ⟨_, hcharacters, h⟩ := bind_eq_ok.mp h
    obtain ⟨_, hport, h⟩ := bind_eq_ok.mp h
    obtain ⟨_, hhost, _⟩ := bind_eq_ok.mp h
    obtain ⟨hhost, hunblank⟩ := checkHost_isOk_iff.mp ⟨_, hhost⟩
    exact ⟨hbrackets, checkCharacters_eq_ok.mp hcharacters, readPort_isOk_iff.mp ⟨_, hport⟩, hhost,
      hunblank⟩
  · intro h
    have hhost := checkHost_isOk_iff.mpr ⟨h.host, h.unblank⟩
    refine exists_bind_eq_ok ⟨_, h.brackets⟩ fun _ => ?_
    refine exists_bind_eq_ok ⟨_, checkCharacters_eq_ok.mpr h.characters⟩ fun _ => ?_
    refine exists_bind_eq_ok (readPort_isOk_iff.mpr h.port) fun _ => ?_
    exact exists_bind_eq_ok hhost fun _ => ⟨_, rfl⟩

end Alert.Address
end FeeWatch
