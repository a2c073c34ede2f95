import FeeWatch.Json.Reader
import FeeWatch.Json.Writer
import FeeWatch.Proofs.Datum.Keys
import Mathlib.Algebra.GroupWithZero.Nat
import Mathlib.Data.List.TakeDrop
import Mathlib.Data.List.TakeWhile

/-! A flat record that was written is read back.

Histories keep records whose fields are texts and whole numbers (`IsFlat`). On one line
and with all characters but quotes, backslashes and control characters as they are, such a
record reads back as itself (`read_write`), and its line holds no control character
(`write_printable`). The reader is followed part by part, each part with the characters
after it left over: a text (`readText_quote`), a whole number (`readScalar_whole`), the
entries of a record (`readEntries_joined`). -/
namespace FeeWatch.Json

/-! ### Texts -/

theorem hexValue?_hexDigit : ∀ d < 16, hexValue? (Text.hexDigit d) = some d := by decide

theorem hexDigit_printable : ∀ d < 16, 0x20 ≤ (Text.hexDigit d).toNat := by decide

/-- The escape of a unit gives the unit back. -/
theorem unit?_hex {n : Nat} (h : n < 0x10000) :
    ∃ a b c d, Text.hex 4 n = [a, b, c, d] ∧ unit? a b c d = some n := by
  refine ⟨_, _, _, _, rfl, ?_⟩
  rw [unit?, hexValue?_hexDigit _ (Nat.mod_lt _ (by decide)),
    hexValue?_hexDigit _ (Nat.mod_lt _ (by decide)),
    hexValue?_hexDigit _ (Nat.mod_lt _ (by decide)),
    hexValue?_hexDigit _ (Nat.mod_lt _ (by decide))]
  simp only [Option.bind_eq_bind, Option.bind_some, Option.some.injEq]
  omega

/-- The escape of a control character is read as the character. -/
theorem textFrom_unitEscape {c : Char} (h : c.toNat < 0x20) (start done : List Char)
    {rest : List Char} (hrest : rest ≠ []) :
    textFrom start done (unitEscape c.toNat ++ rest) = textFrom start (c :: done) rest := by
  obtain ⟨w, x, y, z, hhex, hunit⟩ := unit?_hex (n := c.toNat) (by omega)
  have hhigh : isHigh c.toNat = false := by simp [isHigh]; omega
  have hlow : isLow c.toNat = false := by simp [isLow]; omega
  have hchar : unitChar c.toNat = c := by simp [unitChar, hhigh, hlow]
  rw [unitEscape, hhex]
  have hdone : rest.isEmpty = false := by simpa using hrest
  by_cases hpair : ∃ e f g h after, rest = '\\' :: 'u' :: e :: f :: g :: h :: after
  · -- Another escape follows, but a control character is no first half of a pair.
    obtain ⟨e, f, g, h, after, rfl⟩ := hpair
    show textFrom start done
      ('\\' :: 'u' :: w :: x :: y :: z :: '\\' :: 'u' :: e :: f :: g :: h :: after) = _
    rw [textFrom.eq_4 _ _ _ _ _ _ _ _ _ _ _ _ hunit, hchar]
    simp [hhigh]
  · show textFrom start done ('\\' :: 'u' :: w :: x :: y :: z :: rest) = _
    rw [textFrom.eq_5 _ _ _ _ _ _ _ _ hunit
      (fun e f g h after hafter => hpair ⟨e, f, g, h, after, hafter⟩), hchar, hdone]
    simp

/-- A letter after a backslash is read as the character it stands for. -/
theorem textFrom_letter {c x : Char} (h : escaped? c = some x) (start done rest : List Char) :
    textFrom start done ('\\' :: c :: rest) = textFrom start (x :: done) rest := by
  have hunit : c ≠ 'u' := by
    rintro rfl
    cases h
  rw [textFrom.eq_8 _ _ _ _ (fun _ _ _ _ _ hc => absurd hc hunit) (fun hc => absurd hc hunit), h]

/-- A character that needs no escape is read as itself. -/
theorem textFrom_plain {c : Char} (hquote : c ≠ '"') (hslash : c ≠ '\\') (hplain : ¬ c.toNat < 0x20)
    (start done rest : List Char) :
    textFrom start done (c :: rest) = textFrom start (c :: done) rest := by
  rw [textFrom.eq_9 _ _ _ _ (fun h => hquote h) (fun _ _ _ _ _ h => absurd h hslash)
    (fun _ h => absurd h hslash) (fun h => absurd h hslash) (fun _ _ h => absurd h hslash),
    if_neg hplain]

/-- What is written for a character: a backslash and the letter that stands for it, the escape of
its unit, or the character itself. -/
theorem escapeChar_cases (c : Char) :
    (∃ x, escaped? x = some c ∧ 0x20 ≤ x.toNat ∧ escapeChar .unicode c = ['\\', x]) ∨
      (c.toNat < 0x20 ∧ escapeChar .unicode c = unitEscape c.toNat) ∨
      (c ≠ '"' ∧ c ≠ '\\' ∧ ¬ c.toNat < 0x20 ∧ escapeChar .unicode c = [c]) := by
  unfold escapeChar
  split
  · next h => exact .inl ⟨'"', by simp [h, escaped?], by decide, rfl⟩
  split
  · next h => exact .inl ⟨'\\', by simp [h, escaped?], by decide, rfl⟩
  split
  · next h => exact .inl ⟨'n', by simp [h, escaped?], by decide, rfl⟩
  split
  · next h => exact .inl ⟨'r', by simp [h, escaped?], by decide, rfl⟩
  split
  · next h => exact .inl ⟨'t', by simp [h, escaped?], by decide, rfl⟩
  split
  · next h =>
    have hc : c = Char.ofNat 8 := by rw [← h, Char.ofNat_toNat]
    exact .inl ⟨'b', by rw [hc]; rfl, by decide, rfl⟩
  split
  · next h =>
    have hc : c = Char.ofNat 12 := by rw [← h, Char.ofNat_toNat]
    exact .inl ⟨'f', by rw [hc]; rfl, by decide, rfl⟩
  split
  · next h => exact .inr (.inl ⟨h, rfl⟩)
  · next hquote hslash _ _ _ _ _ hplain =>
    exact .inr (.inr ⟨hquote, hslash, hplain, if_neg fun h => nomatch h.1⟩)

/-- A character is read from what is written for it. -/
theorem textFrom_escapeChar (c : Char) (start done : List Char) {rest : List Char}
    (hrest : rest ≠ []) :
    textFrom start done (escapeChar .unicode c ++ rest) = textFrom start (c :: done) rest := by
  rcases escapeChar_cases c with ⟨x, hx, -, heq⟩ | ⟨hcontrol, heq⟩ | ⟨hquote, hslash, hplain, heq⟩
  · rw [heq]
    exact textFrom_letter hx start done rest
  · rw [heq]
    exact textFrom_unitEscape hcontrol start done hrest
  · rw [heq]
    exact textFrom_plain hquote hslash hplain start done rest

/-- A text is read up to its closing quote. -/
theorem textFrom_quoted (start done cs rest : List Char) :
    textFrom start done (cs.flatMap (escapeChar .unicode) ++ '"' :: rest) =
      .ok (String.ofList (done.reverse ++ cs), rest) := by
  induction cs generalizing done with
  | nil => simp [textFrom.eq_2]
  | cons c cs ih =>
    rw [List.flatMap_cons, List.append_assoc, textFrom_escapeChar c start done (by simp), ih,
      List.reverse_cons, List.append_assoc, List.singleton_append]

/-- A text between quotes is read back. -/
theorem readText_quote (s : String) (rest : List Char) :
    ∃ body, quote .unicode s ++ rest = '"' :: body ∧ readText body = .ok (s, rest) := by
  refine ⟨s.toList.flatMap (escapeChar .unicode) ++ '"' :: rest, by simp [quote], ?_⟩
  rw [readText, textFrom_quoted]
  simp

/-! ### Whole numbers -/

/-- Whether no digit, point or exponent follows. -/
def EndsNumber (rest : List Char) : Prop :=
  ∃ c more, rest = c :: more ∧ c.isDigit = false ∧ c ≠ '.' ∧ c ≠ 'e' ∧ c ≠ 'E'

theorem EndsNumber.fraction {rest : List Char} (h : EndsNumber rest) :
    fraction rest = ([], rest) := by
  obtain ⟨c, more, rfl, -, hpoint, -⟩ := h
  unfold Json.fraction
  split
  · rename_i heq
    exact absurd (List.cons.inj heq).1 hpoint
  · rfl

theorem EndsNumber.exponent {rest : List Char} (h : EndsNumber rest) :
    exponent rest = (none, rest) := by
  obtain ⟨c, more, rfl, -, -, hsmall, hbig⟩ := h
  simp [Json.exponent, hsmall, hbig]

theorem EndsNumber.digits {rest run : List Char} (h : EndsNumber rest)
    (hrun : ∀ c ∈ run, c.isDigit = true) : digits (run ++ rest) = (run, rest) := by
  obtain ⟨c, more, rfl, hdigit, -⟩ := h
  rw [Json.digits, List.span_eq_takeWhile_dropWhile, List.takeWhile_append_of_pos hrun,
    List.dropWhile_append_of_pos hrun]
  simp [hdigit]

/-- The digits of a number. -/
theorem digitsValue_toDigits (n : Nat) : Text.digitsValue (Nat.toDigits 10 n) = n := by
  have hvalue := Nat.ofDigitChars_toDigits (b := 10) (n := n) (by decide) (by decide)
  rw [Nat.ofDigitChars_eq_foldl] at hvalue
  rw [Text.digitsValue]
  simpa [Text.digit, Nat.mul_comm] using hvalue

/-- A number has a first digit. -/
theorem toDigits_eq_cons (n : Nat) :
    ∃ c cs, Nat.toDigits 10 n = c :: cs ∧ c.isDigit = true := by
  cases hdigits : Nat.toDigits 10 n with
  | nil => exact absurd hdigits Nat.toDigits_ne_nil
  | cons c cs =>
    have hmem : c ∈ Nat.toDigits 10 n := by simp [hdigits]
    exact ⟨c, cs, rfl, Nat.isDigit_of_mem_toDigits (by decide) (by decide) hmem⟩

/-- The digits of a number start with no zero, unless it is zero. -/
theorem toDigits_head {n : Nat} (h : n ≠ 0) : (Nat.toDigits 10 n).head? ≠ some '0' := by
  induction n using Nat.strongRecOn with
  | ind n ih =>
    by_cases hlast : n < 10
    · have hdigit : ∀ d < 10, d ≠ 0 → d.digitChar ≠ '0' := by decide
      rw [Nat.toDigits_of_lt_base hlast]
      simpa using hdigit n hlast h
    · have hfront := ih (n / 10) (by omega) (by omega)
      obtain ⟨c, cs, hdigits, -⟩ := toDigits_eq_cons (n / 10)
      rw [hdigits] at hfront
      rw [Nat.toDigits_of_base_le (by decide) (by omega), hdigits]
      exact hfront

theorem wholePart_toDigits (n : Nat) {rest : List Char} (h : EndsNumber rest) :
    wholePart (Nat.toDigits 10 n ++ rest) = (Nat.toDigits 10 n, rest) := by
  by_cases hzero : n = 0
  · rw [hzero]
    rfl
  · have hhead := toDigits_head hzero
    unfold wholePart
    split
    · rename_i heq
      obtain ⟨c, cs, hdigits, -⟩ := toDigits_eq_cons n
      rw [hdigits] at heq hhead
      exact absurd (congrArg some (List.cons.inj heq).1) hhead
    · exact h.digits fun c hc => Nat.isDigit_of_mem_toDigits (by decide) (by decide) hc

theorem ne_of_isDigit (mark : Char) {c : Char} (h : c.isDigit = true)
    (hmark : mark.isDigit = false) : mark ≠ c := by
  rintro rfl
  rw [h] at hmark
  cases hmark

/-- No word starts with a digit. -/
theorem words_digit {c : Char} (h : c.isDigit = true) (rest : List Char) :
    (words.findSome? fun (word, d) => (afterWord word (c :: rest)).map fun rest => (d, rest)) =
      none := by
  simp [words, afterWord, ne_of_isDigit 'n' h rfl, ne_of_isDigit 't' h rfl, ne_of_isDigit 'f' h rfl,
    ne_of_isDigit 'N' h rfl, ne_of_isDigit 'I' h rfl, ne_of_isDigit '-' h rfl]

/-- No word starts with a minus and a digit. -/
theorem words_minus {c : Char} (h : c.isDigit = true) (rest : List Char) :
    (words.findSome? fun (word, d) =>
      (afterWord word ('-' :: c :: rest)).map fun rest => (d, rest)) = none := by
  simp [words, afterWord, ne_of_isDigit 'I' h rfl]

/-- A whole number is read from its digits, with a minus in front or without, unless it has too many
of them. -/
theorem readNumber_toDigits {n : Nat} (h : n < 10 ^ Number.digitLimit) {rest : List Char}
    (hrest : EndsNumber rest) :
    readNumber (Nat.toDigits 10 n ++ rest) = .ok (.int n, rest) ∧
      readNumber ('-' :: (Nat.toDigits 10 n ++ rest)) = .ok (.int (-n), rest) := by
  have hlength : ¬ Number.digitLimit < (Nat.toDigits 10 n).length := by
    rw [Nat.not_lt]
    exact (Nat.length_toDigits_le_iff (by decide) (by decide)).mpr h
  constructor
  · have hminus : ∀ more, Nat.toDigits 10 n ++ rest = '-' :: more → False := by
      obtain ⟨c, cs, hdigits, hdigit⟩ := toDigits_eq_cons n
      intro more hmore
      rw [hdigits, List.cons_append] at hmore
      exact ne_of_isDigit '-' hdigit rfl (List.cons.inj hmore).1.symm
    rw [readNumber.eq_2 _ hminus]
    simp only [wholePart_toDigits n hrest, hrest.fraction, hrest.exponent, digitsValue_toDigits]
    simp [hlength, Nat.toDigits_ne_nil, Number.Binary.signed]
  · rw [readNumber.eq_1]
    simp only [wholePart_toDigits n hrest, hrest.fraction, hrest.exponent, digitsValue_toDigits]
    simp [hlength, Nat.toDigits_ne_nil, Number.Binary.signed]

theorem inline_natCast (n : Nat) : inline .unicode (.int n) = Nat.toDigits 10 n := by
  show (toString n).toList = _
  rw [Nat.toString_eq_ofList_toDigits, String.toList_ofList]

theorem inline_negSucc (n : Nat) :
    inline .unicode (.int (.negSucc n)) = '-' :: Nat.toDigits 10 (n + 1) := by
  show ("-" ++ Nat.repr (n + 1)).toList = _
  simp [Nat.repr_eq_ofList_toDigits]

/-- A whole number is written with a digit or a minus first. -/
theorem inline_whole_eq_cons (n : Int) :
    ∃ c cs, inline .unicode (.int n) = c :: cs ∧ (c.isDigit = true ∨ c = '-') := by
  cases n with
  | ofNat n =>
    obtain ⟨c, cs, hdigits, hdigit⟩ := toDigits_eq_cons n
    exact ⟨c, cs, (inline_natCast n).trans hdigits, .inl hdigit⟩
  | negSucc n => exact ⟨'-', _, inline_negSucc n, .inr rfl⟩

/-- A whole number is read back, unless it has too many digits. -/
theorem readScalar_whole {n : Int} (h : n.natAbs < 10 ^ Number.digitLimit) {rest : List Char}
    (hrest : EndsNumber rest) :
    readScalar (inline .unicode (.int n) ++ rest) = .ok (.int n, rest) := by
  cases n with
  | ofNat n =>
    obtain ⟨c, cs, hdigits, hdigit⟩ := toDigits_eq_cons n
    have hwords := words_digit hdigit (cs ++ rest)
    rw [← List.cons_append, ← hdigits] at hwords
    show readScalar (inline .unicode (.int (n : Nat)) ++ rest) = _
    rw [inline_natCast, readScalar, hwords]
    exact (readNumber_toDigits h hrest).1
  | negSucc n =>
    obtain ⟨c, cs, hdigits, hdigit⟩ := toDigits_eq_cons (n + 1)
    have hwords := words_minus hdigit (cs ++ rest)
    rw [← List.cons_append, ← hdigits] at hwords
    rw [inline_negSucc, List.cons_append, readScalar, hwords]
    exact (readNumber_toDigits h hrest).2

/-! ### Records -/

/-- Whether a datum is a text, or a whole number that is not too long to be written. -/
inductive IsFlat : Datum → Prop
  | text (s : String) : IsFlat (.text s)
  | whole (n : Int) (h : n.natAbs < 10 ^ Number.digitLimit) : IsFlat (.int n)

/-- A value is read up to what ends it. -/
theorem readValue_inline {d : Datum} (h : IsFlat d) (room fuel : Nat) {rest : List Char}
    (hrest : EndsNumber rest) :
    readValue room (fuel + 1) (inline .unicode d ++ rest) = .ok (d, rest) := by
  cases h with
  | text s =>
    obtain ⟨body, hquote, hread⟩ := readText_quote s rest
    show readValue room (fuel + 1) (quote .unicode s ++ rest) = _
    rw [hquote, readValue, hread]
    rfl
  | whole n hn =>
    have hscalar := readScalar_whole hn hrest
    obtain ⟨c, cs, hcons, hfirst⟩ := inline_whole_eq_cons n
    rw [hcons] at hscalar ⊢
    rw [List.cons_append, readValue]
    · exact hscalar
    all_goals
      rintro more hmore
      rw [(List.cons.inj hmore).1] at hfirst
      revert hfirst
      decide

theorem skip_cons {c : Char} (h : isGap c = false) (rest : List Char) : skip (c :: rest) = c :: rest := by
  rw [skip, List.dropWhile_cons_of_neg (by simp [h])]

/-- A value starts with no blank. -/
theorem skip_inline {d : Datum} (h : IsFlat d) (rest : List Char) :
    skip (inline .unicode d ++ rest) = inline .unicode d ++ rest := by
  cases h with
  | text s => exact skip_cons rfl _
  | whole n hn =>
    obtain ⟨c, cs, hcons, hfirst⟩ := inline_whole_eq_cons n
    rw [hcons, List.cons_append]
    refine skip_cons ?_ _
    rcases hfirst with hdigit | rfl
    · cases hgap : isGap c with
      | false => rfl
      | true =>
        simp only [isGap, Bool.or_eq_true, beq_iff_eq] at hgap
        rcases hgap with ((rfl | rfl) | rfl) | rfl <;> cases hdigit
    · rfl

/-- A key is read up to its value. -/
theorem readKey_quote (k : String) {d : Datum} (h : IsFlat d) (rest : List Char) :
    readKey (quote .unicode k ++ ':' :: ' ' :: (inline .unicode d ++ rest)) =
      .ok (k, inline .unicode d ++ rest) := by
  obtain ⟨body, hquote, hread⟩ := readText_quote k (':' :: ' ' :: (inline .unicode d ++ rest))
  have hcolon : skip (':' :: ' ' :: (inline .unicode d ++ rest)) =
      ':' :: ' ' :: (inline .unicode d ++ rest) := skip_cons rfl _
  rw [hquote, readKey, hread]
  dsimp only
  rw [hcolon]
  show Except.ok (k, skip (inline .unicode d ++ rest)) = _
  rw [skip_inline h]

def entries (fields : List (String × Datum)) : List (Scalar × Datum) :=
  fields.map fun (k, v) => (.text k, v)

/-- A new key comes last. -/
theorem insert_entries {fields : List (String × Datum)} {k : String} (h : k ∉ fields.map Prod.fst)
    (v : Datum) : Entries.insert (.text k) v (entries fields) = entries (fields ++ [(k, v)]) := by
  induction fields with
  | nil => rfl
  | cons f fields ih =>
    obtain ⟨k', v'⟩ := f
    rw [List.map_cons, List.mem_cons, not_or] at h
    have hkey : ¬ Scalar.sameKey (.text k') (.text k) = true := fun hsame =>
      h.1 (Scalar.sameKey_text.mp hsame).symm
    show Entries.insert (.text k) v ((.text k', v') :: entries fields) = _
    rw [Entries.insert, if_neg hkey, ih h.2]
    rfl

/-- A field is read. A brace after it ends the record, and after a comma the next field is read. -/
theorem readEntries_field {done : List (String × Datum)} {k : String}
    (hnew : k ∉ done.map Prod.fst) {v : Datum} (hv : IsFlat v) (room fuel : Nat)
    (rest : List Char) :
    readEntries room (fuel + 2) (entries done)
        (quote .unicode k ++ ':' :: ' ' :: (inline .unicode v ++ '}' :: rest)) =
      .ok (.map (entries (done ++ [(k, v)])), rest) ∧
    readEntries room (fuel + 2) (entries done)
        (quote .unicode k ++ ':' :: ' ' :: (inline .unicode v ++ ',' :: rest)) =
      readEntries room (fuel + 1) (entries (done ++ [(k, v)])) (skip rest) := by
  have hinsert := insert_entries hnew v
  constructor
  · have hends : EndsNumber ('}' :: rest) := ⟨'}', rest, rfl, by decide⟩
    rw [readEntries, readKey_quote k hv]
    dsimp only
    rw [readValue_inline hv _ _ hends]
    dsimp only
    rw [hinsert, skip_cons rfl]
    rfl
  · have hends : EndsNumber (',' :: rest) := ⟨',', rest, rfl, by decide⟩
    rw [readEntries, readKey_quote k hv]
    dsimp only
    rw [readValue_inline hv _ _ hends]
    dsimp only
    rw [hinsert, skip_cons rfl]
    rfl

/-- The fields of a record are read one after the other. -/
theorem readEntries_joined {fields : List (String × Datum)} (hfields : fields ≠ [])
    (hflat : ∀ f ∈ fields, IsFlat f.2) (done : List (String × Datum))
    (hkeys : ((done ++ fields).map Prod.fst).Nodup) (room : Nat) {fuel : Nat}
    (hfuel : fields.length < fuel) (rest : List Char) :
    readEntries room fuel (entries done)
        (joined [',', ' '] (inlineEntries .unicode (entries fields)) ++ '}' :: rest) =
      .ok (.map (entries (done ++ fields)), rest) := by
  induction fields generalizing done fuel with
  | nil => exact absurd rfl hfields
  | cons f fields ih =>
    obtain ⟨k, v⟩ := f
    obtain ⟨fuel, rfl⟩ : ∃ n, fuel = n + 2 := ⟨fuel - 2, by simp at hfuel; omega⟩
    have hv : IsFlat v := hflat _ List.mem_cons_self
    have hnew : k ∉ done.map Prod.fst := fun hmem => by
      rw [List.map_append, List.nodup_append] at hkeys
      exact hkeys.2.2 k hmem k (by simp) rfl
    have hfield := readEntries_field hnew hv room fuel
    have hdone : done ++ (k, v) :: fields = (done ++ [(k, v)]) ++ fields := by simp
    cases fields with
    | nil =>
      show readEntries room (fuel + 2) (entries done)
        ((quote .unicode k ++ ':' :: ' ' :: inline .unicode v) ++ '}' :: rest) = _
      rw [List.append_assoc, List.cons_append, List.cons_append]
      exact (hfield rest).1
    | cons f fields =>
      obtain ⟨left, hleft⟩ : ∃ left, left =
          joined [',', ' '] (inlineEntries .unicode (entries (f :: fields))) ++ '}' :: rest :=
        ⟨_, rfl⟩
      have hshape : joined [',', ' '] (inlineEntries .unicode (entries ((k, v) :: f :: fields))) ++
          '}' :: rest = quote .unicode k ++ ':' :: ' ' :: (inline .unicode v ++ ',' :: ' ' :: left) := by
        rw [hleft]
        simp [entries, inlineEntries, joined, key]
      have hnext : skip (' ' :: left) = left := by
        rw [hleft]
        cases fields <;> exact skip_cons (c := '"') rfl _
      rw [hshape, (hfield (' ' :: left)).2, hnext, hleft, hdone]
      exact ih (by simp) (fun f hf => hflat f (List.mem_cons_of_mem _ hf)) _ (hdone ▸ hkeys)
        (by simp at hfuel ⊢; omega)

theorem toList_write (fields : List (String × Datum)) :
    (write .unicode (.record fields)).toList =
      '{' :: (joined [',', ' '] (inlineEntries .unicode (entries fields)) ++ ['}']) := by
  rw [write, String.toList_ofList]
  rfl

/-- The first field of a record starts with a quote. -/
theorem joined_head (f : String × Datum) (fields : List (String × Datum)) :
    ∃ more, joined [',', ' '] (inlineEntries .unicode (entries (f :: fields))) = '"' :: more := by
  cases fields <;> exact ⟨_, rfl⟩

/-- A record has no more fields than characters. -/
theorem length_joined (fields : List (String × Datum)) :
    fields.length ≤ (joined [',', ' '] (inlineEntries .unicode (entries fields))).length := by
  induction fields with
  | nil => exact Nat.zero_le _
  | cons f fields ih =>
    cases fields with
    | nil =>
      obtain ⟨more, hmore⟩ := joined_head f []
      rw [hmore]
      simp
    | cons g fields =>
      have hstep : joined [',', ' '] (inlineEntries .unicode (entries (f :: g :: fields))) =
          (key .unicode (.text f.1) ++ ':' :: ' ' :: inline .unicode f.2) ++ [',', ' '] ++
            joined [',', ' '] (inlineEntries .unicode (entries (g :: fields))) := rfl
      rw [hstep]
      simp only [List.length_append, List.length_cons] at ih ⊢
      omega

/-- **A flat record that was written is read back**, whatever blanks follow it. -/
theorem read_write {fields : List (String × Datum)} (hflat : ∀ f ∈ fields, IsFlat f.2)
    (hkeys : (fields.map Prod.fst).Nodup) {blanks : List Char}
    (hblanks : ∀ c ∈ blanks, isGap c = true) :
    read (write .unicode (.record fields) ++ String.ofList blanks) = .ok (.record fields) := by
  have htext : (write .unicode (.record fields) ++ String.ofList blanks).toList =
      '{' :: (joined [',', ' '] (inlineEntries .unicode (entries fields)) ++ '}' :: blanks) := by
    rw [String.toList_append, toList_write, String.toList_ofList, List.cons_append,
      List.append_assoc, List.singleton_append]
  have hmark : some '{' ≠ some (Char.ofNat 0xfeff) := by decide
  have hend : skip blanks = [] := List.dropWhile_eq_nil_iff.mpr hblanks
  rw [read]
  dsimp only
  rw [htext, List.head?_cons, if_neg hmark, skip_cons rfl]
  generalize hfuel : 2 * ('{' :: (joined [',', ' '] (inlineEntries .unicode
    (entries fields)) ++ '}' :: blanks)).length + 2 = fuel
  obtain ⟨fuel, rfl⟩ : ∃ n, fuel = n + 1 := ⟨fuel - 1, by omega⟩
  have hvalue : readValue depthLimit (fuel + 1) ('{' :: (joined [',', ' '] (inlineEntries .unicode
      (entries fields)) ++ '}' :: blanks)) = .ok (.record fields, blanks) := by
    cases fields with
    | nil => rfl
    | cons f fields =>
      obtain ⟨more, hmore⟩ := joined_head f fields
      have hlength := length_joined (f :: fields)
      have henough : (f :: fields).length < fuel := by
        simp only [List.length_cons, List.length_append] at hfuel hlength ⊢
        omega
      have hentries := readEntries_joined (by simp) hflat [] hkeys (depthLimit - 1) henough blanks
      rw [hmore] at hentries ⊢
      exact hentries
  rw [hvalue]
  dsimp only
  rw [hend]

/-! ### Lines -/

theorem unitEscape_printable (n : Nat) : ∀ x ∈ unitEscape n, 0x20 ≤ x.toNat := by
  intro x hx
  simp only [unitEscape, Text.hex, List.nil_append, List.mem_append, List.mem_cons,
    List.not_mem_nil, or_false] at hx
  rcases hx with rfl | rfl | ((rfl | rfl) | rfl) | rfl
  · decide
  · decide
  all_goals exact hexDigit_printable _ (Nat.mod_lt _ (by decide))

/-- What is written for a character holds no control character. -/
theorem escapeChar_printable (c : Char) : ∀ x ∈ escapeChar .unicode c, 0x20 ≤ x.toNat := by
  rcases escapeChar_cases c with ⟨x, -, hletter, heq⟩ | ⟨-, heq⟩ | ⟨-, -, hplain, heq⟩
  · rw [heq]
    exact List.forall_mem_cons.mpr ⟨by decide, by simpa using hletter⟩
  · rw [heq]
    exact unitEscape_printable _
  · rw [heq]
    simpa using hplain

theorem quote_printable (s : String) : ∀ x ∈ quote .unicode s, 0x20 ≤ x.toNat := by
  intro x hx
  simp only [quote, List.cons_append, List.mem_cons, List.mem_append, List.mem_flatMap,
    List.not_mem_nil, or_false] at hx
  rcases hx with rfl | ⟨c, -, hx⟩ | rfl
  · decide
  · exact escapeChar_printable c x hx
  · decide

theorem inline_printable {d : Datum} (h : IsFlat d) : ∀ x ∈ inline .unicode d, 0x20 ≤ x.toNat := by
  cases h with
  | text s => exact quote_printable s
  | whole n hn =>
    have hdigits : ∀ m : Nat, ∀ x ∈ Nat.toDigits 10 m, 0x20 ≤ x.toNat := by
      intro m x hx
      have hdigit := Nat.isDigit_of_mem_toDigits (by decide) (by decide) hx
      simp only [Char.isDigit, Bool.and_eq_true, decide_eq_true_eq] at hdigit
      exact Nat.le_trans (by decide) hdigit.1
    cases n with
    | ofNat n =>
      show ∀ x ∈ inline .unicode (.int (n : Nat)), _
      rw [inline_natCast]
      exact hdigits n
    | negSucc n =>
      rw [inline_negSucc]
      exact List.forall_mem_cons.mpr ⟨by decide, hdigits (n + 1)⟩

/-- The line of a flat record holds no control character. -/
theorem write_printable {fields : List (String × Datum)} (hflat : ∀ f ∈ fields, IsFlat f.2) :
    ∀ x ∈ (write .unicode (.record fields)).toList, 0x20 ≤ x.toNat := by
  have hfields : ∀ x ∈ joined [',', ' '] (inlineEntries .unicode (entries fields)),
      0x20 ≤ x.toNat := by
    induction fields with
    | nil => exact fun x hx => absurd hx List.not_mem_nil
    | cons f fields ih =>
      have hfield : ∀ x ∈ key .unicode (.text f.1) ++ ':' :: ' ' :: inline .unicode f.2,
          0x20 ≤ x.toNat := by
        intro x hx
        simp only [List.mem_append, List.mem_cons] at hx
        rcases hx with hx | rfl | rfl | hx
        · exact quote_printable f.1 x hx
        · decide
        · decide
        · exact inline_printable (hflat f List.mem_cons_self) x hx
      have hrest := ih fun f hf => hflat f (List.mem_cons_of_mem _ hf)
      cases fields with
      | nil => exact hfield
      | cons g fields =>
        intro x hx
        rcases List.mem_append.mp hx with hx | hx
        · rcases List.mem_append.mp hx with hx | hx
          · exact hfield x hx
          · simp only [List.mem_cons, List.not_mem_nil, or_false] at hx
            rcases hx with rfl | rfl <;> decide
        · exact hrest x hx
  intro x hx
  rw [toList_write] at hx
  simp only [List.mem_cons, List.mem_append, List.not_mem_nil, or_false] at hx
  rcases hx with rfl | hx | rfl
  · decide
  · exact hfields x hx
  · decide

end FeeWatch.Json
