import ApiContract.Json.Reader
import ApiContract.Json.Writer

/-!
# JSON texts are read back

A text between its quotes is read as the text that it was written for, in ASCII and in Unicode: each of
its characters, escaped or not, is read as itself (`readText_escapeChar`), and a quote that is not escaped
ends it.
-/

namespace ApiContract.Json

open ApiContract.Number ApiContract.Text

variable {start rest after text : List Char} {fuel unit : Nat} {c : Char}

/-! ## Escapes -/

theorem hexDigit?_hexDigit : ∀ n < 16, hexDigit? (hexDigit n) = some n := by decide

/-- The digits of a UTF-16 unit are read as the unit. -/
theorem exists_hexPadded (h : unit < 0x10000) :
    ∃ a b c d, hexPadded 4 unit = [a, b, c, d] ∧ hexUnit? a b c d = some unit := by
  refine ⟨_, _, _, _, rfl, ?_⟩
  have hdigit (n : Nat) : hexDigit? (hexDigit (n % 16)) = some (n % 16) :=
    hexDigit?_hexDigit _ (Nat.mod_lt n (by decide))
  have hvalue : ofDigits 16 [unit / 16 / 16 / 16 % 16, unit / 16 / 16 % 16, unit / 16 % 16, unit % 16] =
      unit := by
    simp only [ofDigits, List.foldl_cons, List.foldl_nil]
    omega
  simp [hexUnit?, hdigit, hvalue]

/-- A character is no surrogate. -/
theorem isSurrogate_toNat (c : Char) :
    isHighSurrogate c.toNat = false ∧ isLowSurrogate c.toNat = false := by
  have hvalid : c.toNat < 0xd800 ∨ 0xdfff < c.toNat ∧ c.toNat < 0x110000 := c.valid
  simp only [isHighSurrogate, isLowSurrogate, Bool.and_eq_false_iff, decide_eq_false_iff_not]
  omega

theorem readUnitEscape_char (h : c.toNat < 0x10000) (hrest : rest ≠ []) :
    readUnitEscape ('u' :: (hexPadded 4 c.toNat ++ rest)) = .ok (c, rest) := by
  obtain ⟨x, y, z, w, hdigits, hunit⟩ := exists_hexPadded h
  obtain ⟨next, more, rfl⟩ := List.exists_cons_of_ne_nil hrest
  obtain ⟨hhigh, hlow⟩ := isSurrogate_toNat c
  have hchar : unitChar c.toNat = c := by simp [unitChar, hhigh, hlow]
  rw [hdigits]
  simp [readUnitEscape, hunit, hhigh, hchar, pure, Except.pure]

/-- A pair of surrogates stands for one character. -/
theorem readUnitEscape_pair (h : 0x10000 ≤ c.toNat) (hrest : rest ≠ []) :
    readUnitEscape ('u' :: (hexPadded 4 (0xd800 + (c.toNat - 0x10000) / 0x400) ++
      (unitEscape (0xdc00 + (c.toNat - 0x10000) % 0x400) ++ rest))) = .ok (c, rest) := by
  have hvalid : c.toNat < 0xd800 ∨ 0xdfff < c.toNat ∧ c.toNat < 0x110000 := c.valid
  obtain ⟨high, hhigh⟩ : ∃ high, high = 0xd800 + (c.toNat - 0x10000) / 0x400 := ⟨_, rfl⟩
  obtain ⟨low, hlow⟩ : ∃ low, low = 0xdc00 + (c.toNat - 0x10000) % 0x400 := ⟨_, rfl⟩
  rw [← hhigh, ← hlow, unitEscape]
  obtain ⟨a, b, x, y, hfirst, hhighUnit⟩ := exists_hexPadded (show high < 0x10000 by omega)
  obtain ⟨a', b', x', y', hsecond, hlowUnit⟩ := exists_hexPadded (show low < 0x10000 by omega)
  obtain ⟨next, more, rfl⟩ := List.exists_cons_of_ne_nil hrest
  have hisHigh : isHighSurrogate high = true := by
    simp only [isHighSurrogate, Bool.and_eq_true, decide_eq_true_eq]
    omega
  have hisLow : isLowSurrogate low = true := by
    simp only [isLowSurrogate, Bool.and_eq_true, decide_eq_true_eq]
    omega
  have hvalue : 0x10000 + (high - 0xd800) * 0x400 + (low - 0xdc00) = c.toNat := by omega
  have hchar : Char.ofNat (0x10000 + (high - 0xd800) * 0x400 + (low - 0xdc00)) = c := by
    rw [hvalue, Char.ofNat_toNat]
  rw [hfirst, hsecond]
  simp [readUnitEscape, lowSurrogate?, hhighUnit, hlowUnit, hisHigh, hisLow, hchar, bind, Except.bind,
    pure, Except.pure]

/-! ## Texts -/

theorem readText_quote : readText start (fuel + 1) ('"' :: rest) = .ok ([], rest) := by
  simp [readText]

theorem readText_simple {d : Char} (hd : d ≠ 'u') (hc : simpleEscape? d = some c)
    (h : readText start fuel rest = .ok (text, after)) :
    readText start (fuel + 1) ('\\' :: d :: rest) = .ok (c :: text, after) := by
  simp [readText, hd, hc, h, bind, Except.bind, pure, Except.pure]

theorem readText_unit {escape : List Char} (hc : readUnitEscape ('u' :: escape) = .ok (c, rest))
    (h : readText start fuel rest = .ok (text, after)) :
    readText start (fuel + 1) ('\\' :: 'u' :: escape) = .ok (c :: text, after) := by
  simp [readText, hc, h, bind, Except.bind, pure, Except.pure]

theorem readText_plain (hquote : c ≠ '"') (hslash : c ≠ '\\') (hcontrol : ¬ c.toNat < 0x20)
    (h : readText start fuel rest = .ok (text, after)) :
    readText start (fuel + 1) (c :: rest) = .ok (c :: text, after) := by
  rw [readText.eq_def]
  simp [hquote, hslash, hcontrol, h, bind, Except.bind, pure, Except.pure]

/-- A character stands behind a backslash by a letter of its own, by its number as one UTF-16 unit or
two, or it stands for itself. -/
theorem escapeChar_cases (ascii : Bool) (c : Char) :
    (∃ d, d ≠ 'u' ∧ simpleEscape? d = some c ∧ escapeChar ascii c = ['\\', d]) ∨
      (c.toNat < 0x10000 ∧ escapeChar ascii c = unitEscape c.toNat) ∨
      (0x10000 ≤ c.toNat ∧ escapeChar ascii c =
        unitEscape (0xd800 + (c.toNat - 0x10000) / 0x400) ++
          unitEscape (0xdc00 + (c.toNat - 0x10000) % 0x400)) ∨
      (c ≠ '"' ∧ c ≠ '\\' ∧ ¬ c.toNat < 0x20 ∧ escapeChar ascii c = [c]) := by
  unfold escapeChar
  by_cases hquote : c = '"'
  · exact .inl ⟨'"', by decide, by rw [hquote]; rfl, if_pos hquote⟩
  by_cases hslash : c = '\\'
  · exact .inl ⟨'\\', by decide, by rw [hslash]; rfl, by rw [if_neg hquote, if_pos hslash]⟩
  rw [if_neg hquote, if_neg hslash]
  -- The other five that have a letter of their own.
  iterate 5
    split
    next hc => exact .inl ⟨_, by decide, by rw [hc]; rfl, rfl⟩
  split
  next hcontrol => exact .inr (.inl ⟨by omega, rfl⟩)
  next hcontrol =>
    split
    next =>
      split
      next hshort => exact .inr (.inl ⟨hshort, rfl⟩)
      next hlong => exact .inr (.inr (.inl ⟨by omega, rfl⟩))
    next => exact .inr (.inr (.inr ⟨hquote, hslash, hcontrol, rfl⟩))

/-- A character is read as itself, in whatever way it is written. -/
theorem readText_escapeChar (ascii : Bool) (hrest : rest ≠ [])
    (h : readText start fuel rest = .ok (text, after)) :
    readText start (fuel + 1) (escapeChar ascii c ++ rest) = .ok (c :: text, after) := by
  obtain ⟨d, hd, hc, heq⟩ | ⟨hc, heq⟩ | ⟨hc, heq⟩ | ⟨hquote, hslash, hcontrol, heq⟩ :=
    escapeChar_cases ascii c
  · rw [heq]
    exact readText_simple hd hc h
  · rw [heq]
    exact readText_unit (readUnitEscape_char hc hrest) h
  · rw [heq, List.append_assoc]
    exact readText_unit (readUnitEscape_pair hc hrest) h
  · rw [heq]
    exact readText_plain hquote hslash hcontrol h

/-- Behind its opening quote, a text is read up to its closing one. -/
theorem readText_write (ascii : Bool) (h : text.length < fuel) :
    readText start fuel (text.flatMap (escapeChar ascii) ++ '"' :: rest) = .ok (text, rest) := by
  induction text generalizing fuel with
  | nil =>
    obtain ⟨fuel, rfl⟩ := Nat.exists_eq_add_one.2 (Nat.zero_lt_of_lt h)
    exact readText_quote
  | cons c text ih =>
    obtain ⟨fuel, rfl⟩ := Nat.exists_eq_add_one.2 (Nat.zero_lt_of_lt h)
    rw [List.flatMap_cons, List.append_assoc]
    exact readText_escapeChar ascii (by simp) (ih (by simpa using h))

theorem length_le_length_escaped (ascii : Bool) (text : List Char) :
    text.length ≤ (text.flatMap (escapeChar ascii)).length := by
  induction text with
  | nil => exact Nat.le_refl _
  | cons c text ih =>
    have hchar : 1 ≤ (escapeChar ascii c).length := by
      obtain ⟨d, -, -, heq⟩ | ⟨-, heq⟩ | ⟨-, heq⟩ | ⟨-, -, -, heq⟩ := escapeChar_cases ascii c
      all_goals simp [heq, unitEscape]
    simp only [List.flatMap_cons, List.length_cons, List.length_append]
    omega

end ApiContract.Json
