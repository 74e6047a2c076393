import ApiContract.Number.Numeral
import Mathlib.Data.List.TakeWhile

/-!
# Numerals are read back

A numeral that is written in decimal is read as the number it was written for, as long as it does not
have more digits than are read: `readInt?_natText`.
-/

namespace ApiContract.Number

open ApiContract.Text

/-- What holds of the ten digits holds of everything that is one. -/
theorem of_isDigit {P : Char → Prop} (h : ∀ n, 48 ≤ n → n ≤ 57 → P (Char.ofNat n)) {c : Char}
    (hc : c.isDigit = true) : P c := by
  have hrange : 48 ≤ c.toNat ∧ c.toNat ≤ 57 := by
    simp only [Char.isDigit, Bool.and_eq_true, decide_eq_true_eq] at hc
    exact hc
  rw [← Char.ofNat_toNat c]
  exact h c.toNat hrange.1 hrange.2

theorem not_isBlank_of_isDigit {c : Char} (hc : c.isDigit = true) : isBlank c = false := by
  refine of_isDigit (P := fun c => isBlank c = false) ?_ hc
  decide

theorem digitValue?_of_isDigit {c : Char} (hc : c.isDigit = true) :
    digitValue? c = some (c.toNat - '0'.toNat) := by
  refine of_isDigit (P := fun c => digitValue? c = some (c.toNat - '0'.toNat)) ?_ hc
  decide

theorem isDigit_of_mem_natText {n : Nat} {c : Char} (h : c ∈ natText n) : c.isDigit = true :=
  Nat.isDigit_of_mem_toDigits (by decide) (by decide) h

theorem strip_of_digits {text : List Char} (h : ∀ c ∈ text, c.isDigit = true) : strip text = text := by
  have hdrop : ∀ digits : List Char, (∀ c ∈ digits, c.isDigit = true) →
      digits.dropWhile isBlank = digits := by
    intro digits hdigits
    rw [List.dropWhile_eq_self_iff]
    intro hlength
    simp [not_isBlank_of_isDigit (hdigits _ (List.getElem_mem hlength))]
  have hreverse : ∀ c ∈ text.reverse, c.isDigit = true := by simpa using h
  rw [strip, dropEnds, hdrop text h, hdrop _ hreverse, List.reverse_reverse]

theorem readSign_of_digits {text : List Char} (h : ∀ c ∈ text, c.isDigit = true) :
    readSign text = (false, text) := by
  unfold readSign
  split
  next => exact absurd (h _ List.mem_cons_self) (by decide)
  next => exact absurd (h _ List.mem_cons_self) (by decide)
  next => rfl

theorem digitGroups?_of_digits {text : List Char} (hne : text ≠ [])
    (h : ∀ c ∈ text, c.isDigit = true) :
    digitGroups? digitValue? text = some (text.map fun c => c.toNat - '0'.toNat) := by
  induction text with
  | nil => exact absurd rfl hne
  | cons c rest ih =>
    simp only [List.mem_cons, forall_eq_or_imp] at h
    have hvalue := digitValue?_of_isDigit h.1
    unfold digitGroups?
    split
    next heq => cases heq
    next heq =>
      cases heq
      rw [hvalue]
      rfl
    next heq =>
      cases heq
      exact absurd (h.2 _ List.mem_cons_self) (by decide)
    next hsingle _ heq =>
      cases heq
      have hrest : rest ≠ [] := by
        rintro rfl
        exact hsingle rfl
      rw [hvalue, ih hrest h.2]
      rfl

/-- A number is read from its own numeral. -/
theorem readInt?_natText {n : Nat} (h : (natText n).length ≤ numeralLimit) :
    readInt? (natText n) = some (n : Int) := by
  have hdigits : ∀ c ∈ natText n, c.isDigit = true := fun c => isDigit_of_mem_natText
  have hvalue : ofDigits 10 ((natText n).map fun c => c.toNat - '0'.toNat) = n := by
    rw [ofDigits, List.foldl_map]
    exact ofDigitChars_natText n
  have hgroups : digitGroups? digitValue? (natText n) = _ :=
    digitGroups?_of_digits Nat.toDigits_ne_nil hdigits
  unfold readInt?
  rw [strip_of_digits hdigits, readSign_of_digits hdigits]
  simp only [hgroups, Option.bind_eq_bind, Option.bind_some, List.length_map, h, if_true, hvalue]
  rfl

end ApiContract.Number
