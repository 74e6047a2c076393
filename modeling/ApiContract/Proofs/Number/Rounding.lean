import ApiContract.Number.Shortest
import Mathlib.Algebra.Order.Ring.Nat
import Mathlib.Tactic.SplitIfs

/-!
# Decimals that read back

What a quotient is rounded to depends on its value only, so that a decimal can be scaled by a power of
ten: `ofDecimal_mul_pow`. A double is a quotient of its own, which makes the full expansion of a double
read back, and with it the digits that are found for it: `ofDecimal_shortest`.
-/

namespace ApiContract.Number

open Binary64

/-! ## Rounded quotients -/

theorem roundHalfEven_mul_right (n d : Nat) {c : Nat} (hc : 0 < c) :
    roundHalfEven (n * c) (d * c) = roundHalfEven n d := by
  have hlt (a b : Nat) : 2 * (a * c) < b * c ↔ 2 * a < b := by
    rw [← Nat.mul_assoc, Nat.mul_lt_mul_right hc]
  have hgt (a b : Nat) : b * c < 2 * (a * c) ↔ b < 2 * a := by
    rw [← Nat.mul_assoc, Nat.mul_lt_mul_right hc]
  simp only [roundHalfEven, Nat.mul_div_mul_right _ _ hc, Nat.mul_mod_mul_right, hlt, hgt]

theorem roundHalfEven_mul_self (n : Nat) {d : Nat} (hd : 0 < d) : roundHalfEven (n * d) d = n := by
  simp [roundHalfEven, Nat.mul_div_cancel _ hd, hd]

theorem roundHalfEven_eq_or (n d : Nat) :
    roundHalfEven n d = n / d ∨ roundHalfEven n d = n / d + 1 := by
  have hmod := Nat.mod_two_eq_zero_or_one (n / d)
  simp only [roundHalfEven]
  split
  · exact .inl rfl
  · split
    · exact .inr rfl
    · omega

section Quotients

variable {num den num' den' : Nat}

theorem div_congr (hden : 0 < den) (hden' : 0 < den') (h : num * den' = num' * den) :
    num / den = num' / den' := by
  rw [← Nat.mul_div_mul_right num den hden', h, Nat.mul_comm den, Nat.mul_div_mul_right _ _ hden]

theorem roundHalfEven_congr (hden : 0 < den) (hden' : 0 < den') (h : num * den' = num' * den) :
    roundHalfEven num den = roundHalfEven num' den' := by
  rw [← roundHalfEven_mul_right num den hden', h, Nat.mul_comm den, roundHalfEven_mul_right _ _ hden]

/-- The double nearest to `num / den` on a grid of so many steps in one. -/
def onGrid (grid : Nat) (negative : Bool) (num den : Nat) : Binary64 :=
  let exponent := Nat.log2 (num * grid / den) - 52
  let mantissa := roundHalfEven (num * grid) (den * Nat.pow 2 exponent)
  let (mantissa, exponent) :=
    if mantissa = Nat.pow 2 53 then (Nat.pow 2 52, exponent + 1) else (mantissa, exponent)
  if maxExponent < exponent then .infinite negative else .finite negative mantissa exponent

/-- Where the number of steps is a variable, nothing tries to evaluate it. -/
theorem ofQuotient_eq_onGrid (negative : Bool) (num den : Nat) :
    ofQuotient negative num den = onGrid steps negative num den := rfl

theorem onGrid_congr (grid : Nat) (negative : Bool) (hden : 0 < den) (hden' : 0 < den')
    (h : num * den' = num' * den) : onGrid grid negative num den = onGrid grid negative num' den' := by
  have hgrid : num * grid * den' = num' * grid * den := by
    rw [Nat.mul_right_comm, h, Nat.mul_right_comm]
  have hround (e : Nat) : roundHalfEven (num * grid) (den * Nat.pow 2 e) =
      roundHalfEven (num' * grid) (den' * Nat.pow 2 e) := by
    have hpow : 0 < Nat.pow 2 e := Nat.two_pow_pos e
    refine roundHalfEven_congr (Nat.mul_pos hden hpow) (Nat.mul_pos hden' hpow) ?_
    rw [← Nat.mul_assoc, hgrid, Nat.mul_assoc]
  simp only [onGrid, div_congr hden hden' hgrid, hround]

/-- Equal quotients are rounded to the same double. -/
theorem ofQuotient_congr (negative : Bool) (hden : 0 < den) (hden' : 0 < den')
    (h : num * den' = num' * den) : ofQuotient negative num den = ofQuotient negative num' den' := by
  rw [ofQuotient_eq_onGrid, ofQuotient_eq_onGrid]
  exact onGrid_congr steps negative hden hden' h

end Quotients

theorem log2_of_isCanonical {mantissa exponent : Nat} (h : IsCanonical mantissa exponent) :
    Nat.log2 (mantissa * Nat.pow 2 exponent) - 52 = exponent := by
  obtain ⟨hlt, hnormal | rfl, -⟩ := h
  · have hpow : 0 < Nat.pow 2 exponent := Nat.two_pow_pos exponent
    have hpos : 0 < mantissa := Nat.lt_of_lt_of_le (Nat.two_pow_pos 52) hnormal
    have hne : mantissa * Nat.pow 2 exponent ≠ 0 := (Nat.mul_pos hpos hpow).ne'
    have hlog : Nat.log2 (mantissa * Nat.pow 2 exponent) = 52 + exponent := by
      rw [Nat.log2_eq_iff hne, Nat.add_right_comm, Nat.pow_add, Nat.pow_add]
      exact ⟨Nat.mul_le_mul_right _ hnormal, Nat.mul_lt_mul_of_pos_right hlt hpow⟩
    omega
  · have hone : mantissa * Nat.pow 2 0 = mantissa := Nat.mul_one mantissa
    rw [hone]
    rcases Nat.eq_zero_or_pos mantissa with rfl | hpos
    · rfl
    · have := (Nat.log2_lt hpos.ne').2 hlt
      omega

theorem onGrid_self {grid : Nat} (hgrid : 0 < grid) (negative : Bool) {mantissa exponent : Nat}
    (h : IsCanonical mantissa exponent) :
    onGrid grid negative (mantissa * Nat.pow 2 exponent) grid = .finite negative mantissa exponent := by
  have hpow : 0 < Nat.pow 2 exponent := Nat.two_pow_pos exponent
  have hmantissa : roundHalfEven (mantissa * Nat.pow 2 exponent * grid) (grid * Nat.pow 2 exponent) =
      mantissa := by
    rw [Nat.mul_assoc, Nat.mul_comm grid, roundHalfEven_mul_self _ (Nat.mul_pos hpow hgrid)]
  have hne : mantissa ≠ Nat.pow 2 53 := Nat.ne_of_lt h.1
  have hrange : ¬ maxExponent < exponent := Nat.not_lt.2 h.2.2
  simp only [onGrid, Nat.mul_div_cancel _ hgrid, log2_of_isCanonical h, hmantissa, hne, if_false,
    hrange]

theorem steps_pos : 0 < steps := by decide +kernel

/-- A double is what its number of steps is rounded to. -/
theorem ofQuotient_steps (negative : Bool) {mantissa exponent : Nat}
    (h : IsCanonical mantissa exponent) :
    ofQuotient negative (mantissa * Nat.pow 2 exponent) steps = .finite negative mantissa exponent := by
  rw [ofQuotient_eq_onGrid]
  exact onGrid_self steps_pos negative h

/-! ## Rounded decimals -/

theorem natText_ten_mul {n : Nat} (hn : 0 < n) : natText (10 * n) = natText n ++ ['0'] := by
  have h := Nat.toDigits_append_toDigits (b := 10) (d := 0) (by decide) hn (by decide)
  rw [Nat.add_zero] at h
  exact h.symm

theorem length_natText_mul_pow {n : Nat} (hn : 0 < n) (k : Nat) :
    (natText (n * 10 ^ k)).length = (natText n).length + k := by
  induction k with
  | zero => rw [Nat.pow_zero, Nat.mul_one, Nat.add_zero]
  | succ k ih =>
    have hpos : 0 < n * 10 ^ k := Nat.mul_pos hn (Nat.pow_pos (by decide))
    rw [Nat.pow_succ', Nat.mul_left_comm, natText_ten_mul hpos, List.length_append, ih]
    rfl

theorem ofDecimal_eq_ofQuotient (negative : Bool) {digits : Nat} (hpos : 0 < digits) (scale : Int) :
    ofDecimal negative digits scale =
      if (natText digits).length + scale < -400 then zero negative
      else if 400 < (natText digits).length + scale then .infinite negative
      else ofQuotient negative (digits * 10 ^ scale.toNat) (10 ^ (-scale).toNat) := by
  have hone : 10 ^ (0 : Nat) = 1 := rfl
  have hquotient : (if 0 ≤ scale then ofQuotient negative (digits * Nat.pow 10 scale.toNat) 1
      else ofQuotient negative digits (Nat.pow 10 (-scale).toNat)) =
      ofQuotient negative (digits * 10 ^ scale.toNat) (10 ^ (-scale).toNat) := by
    by_cases h : 0 ≤ scale
    · rw [if_pos h, show (-scale).toNat = 0 by omega, hone, Nat.pow_eq]
    · rw [if_neg h, show scale.toNat = 0 by omega, hone, Nat.mul_one, Nat.pow_eq]
  have htext : natText digits = Nat.toDigits 10 digits := rfl
  rw [htext]
  simp only [ofDecimal, hpos.ne', false_or, hquotient]

/-- The digits may be shifted against the scale. -/
theorem ofDecimal_mul_pow (negative : Bool) (digits k : Nat) (scale : Int) :
    ofDecimal negative (digits * 10 ^ k) scale = ofDecimal negative digits (scale + k) := by
  rcases Nat.eq_zero_or_pos digits with rfl | hpos
  · rw [Nat.zero_mul]
    simp only [ofDecimal, true_or, if_true]
  · have hten (k : Nat) : 0 < 10 ^ k := Nat.pow_pos (by decide)
    have hlength : ((natText (digits * 10 ^ k)).length : Int) + scale =
        (natText digits).length + (scale + k) := by
      rw [length_natText_mul_pow hpos]
      omega
    have hquotient : ofQuotient negative (digits * 10 ^ k * 10 ^ scale.toNat) (10 ^ (-scale).toNat) =
        ofQuotient negative (digits * 10 ^ (scale + k).toNat) (10 ^ (-(scale + k)).toNat) := by
      have hexponent : k + (scale.toNat + (-(scale + k)).toNat) =
          (scale + k).toNat + (-scale).toNat := by omega
      refine ofQuotient_congr negative (hten _) (hten _) ?_
      rw [Nat.mul_assoc, Nat.mul_assoc, Nat.mul_assoc, ← Nat.pow_add, ← Nat.pow_add, ← Nat.pow_add,
        hexponent]
    rw [ofDecimal_eq_ofQuotient negative (Nat.mul_pos hpos (hten k)),
      ofDecimal_eq_ofQuotient negative hpos, hlength, hquotient]

theorem onGrid_true (grid num den : Nat) :
    onGrid grid true num den = (onGrid grid false num den).negate := by
  simp only [onGrid]
  split_ifs <;> rfl

theorem ofQuotient_true (num den : Nat) :
    ofQuotient true num den = (ofQuotient false num den).negate := by
  rw [ofQuotient_eq_onGrid, ofQuotient_eq_onGrid]
  exact onGrid_true steps num den

theorem ofDecimal_true (digits : Nat) (scale : Int) :
    ofDecimal true digits scale = (ofDecimal false digits scale).negate := by
  have hzero : zero true = (zero false).negate := rfl
  have hinfinite : infinite true = (infinite false).negate := rfl
  rcases Nat.eq_zero_or_pos digits with rfl | hpos
  · simp only [ofDecimal, true_or, if_true, hzero]
  · rw [ofDecimal_eq_ofQuotient true hpos, ofDecimal_eq_ofQuotient false hpos, ofQuotient_true,
      hzero, hinfinite, apply_ite negate, apply_ite negate]

/-! ## The decimals of doubles -/

variable {mantissa exponent : Nat}

theorem ofDecimal_onGrid? {scale : Int} {found : Nat × Int}
    (h : decimalOnGrid? mantissa exponent scale = some found) :
    ofDecimal false found.1 found.2 = .finite false mantissa exponent := by
  unfold decimalOnGrid? at h
  extract_lets num den low readsBack at h
  clear_value num den
  have hreads {n : Nat} (hn : readsBack n = true) :
      ofDecimal false n scale = .finite false mantissa exponent := eq_of_beq hn
  split at h
  next hlow hhigh =>
    cases h
    rcases roundHalfEven_eq_or num den with heq | heq
    · exact heq ▸ hreads hlow
    · exact heq ▸ hreads hhigh
  next hlow _ =>
    cases h
    exact hreads hlow
  next _ hhigh =>
    cases h
    exact hreads hhigh
  next => cases h

theorem lt_length_natText {n k : Nat} (hk : 0 < k) (h : 10 ^ k ≤ n) : k < (natText n).length := by
  rw [natText, ← Nat.not_le, Nat.length_toDigits_le_iff (by decide) hk, Nat.not_lt]
  exact h

theorem length_natText_le_of_lt {n k : Nat} (hk : 0 < k) (h : n < 10 ^ k) :
    (natText n).length ≤ k := by
  rw [natText, Nat.length_toDigits_le_iff (by decide) hk]
  exact h

/-- A number of steps of the grid `2 ^ (-p)` is a decimal with `p` places. -/
theorem ofDecimal_five_pow (negative : Bool) {n p : Nat} (hp : 400 < p)
    (hlow : 10 ^ (p - 400) ≤ n * 5 ^ p) (hhigh : n * 5 ^ p < 10 ^ (p + 400)) :
    ofDecimal negative (n * Nat.pow 5 p) (-p) = ofQuotient negative n (Nat.pow 2 p) := by
  have hpos : 0 < n * 5 ^ p := Nat.lt_of_lt_of_le (Nat.pow_pos (by decide)) hlow
  have hshort := lt_length_natText (by omega) hlow
  have hlong := length_natText_le_of_lt (by omega) hhigh
  have hquotient : ofQuotient negative (n * 5 ^ p) (10 ^ p) = ofQuotient negative n (Nat.pow 2 p) := by
    refine ofQuotient_congr negative (Nat.pow_pos (by decide)) (Nat.two_pow_pos p) ?_
    rw [Nat.pow_eq, Nat.mul_assoc, ← Nat.mul_pow]
  rw [Nat.pow_eq, ofDecimal_eq_ofQuotient negative hpos, if_neg (by omega), if_neg (by omega),
    ← hquotient, Int.neg_neg, Int.toNat_natCast, show (-(p : Int)).toNat = 0 by omega, Nat.pow_zero,
    Nat.mul_one]

theorem five_pow_bounds :
    10 ^ (1074 - 400) ≤ 5 ^ 1074 ∧ 2 ^ (53 + maxExponent) * 5 ^ 1074 < 10 ^ (1074 + 400) := by
  decide +kernel

theorem mul_two_pow_lt {n e a b : Nat} (hn : n < 2 ^ a) (he : e ≤ b) : n * 2 ^ e < 2 ^ (a + b) := by
  rw [Nat.pow_add]
  exact Nat.mul_lt_mul_of_lt_of_le hn (Nat.pow_le_pow_right (by decide) he) (Nat.two_pow_pos b)

/-- A positive double is read back from its full expansion. -/
theorem ofDecimal_expansion (h : IsCanonical mantissa exponent) (hpos : 0 < mantissa) :
    ofDecimal false (mantissa * Nat.pow 2 exponent * Nat.pow 5 1074) (-1074) =
      .finite false mantissa exponent := by
  have hn : 0 < mantissa * Nat.pow 2 exponent := Nat.mul_pos hpos (Nat.two_pow_pos exponent)
  have hlt : mantissa * Nat.pow 2 exponent < 2 ^ (53 + maxExponent) := mul_two_pow_lt h.1 h.2.2
  rw [← ofQuotient_steps false h]
  generalize mantissa * Nat.pow 2 exponent = n at hn hlt
  obtain ⟨hfive, hten⟩ := five_pow_bounds
  have hlow : 10 ^ (1074 - 400) ≤ n * 5 ^ 1074 := Nat.le_trans hfive (Nat.le_mul_of_pos_left _ hn)
  have hhigh : n * 5 ^ 1074 < 10 ^ (1074 + 400) :=
    Nat.lt_of_le_of_lt (Nat.mul_le_mul_right _ (Nat.le_of_lt hlt)) hten
  exact ofDecimal_five_pow false (by decide) hlow hhigh

/-- The shortest decimal of a positive double is read back as it. -/
theorem ofDecimal_shortest (negative : Bool) (h : IsCanonical mantissa exponent) (hpos : 0 < mantissa) :
    ofDecimal negative (shortest mantissa exponent).1 (shortest mantissa exponent).2 =
      .finite negative mantissa exponent := by
  have hpositive : ofDecimal false (shortest mantissa exponent).1 (shortest mantissa exponent).2 =
      .finite false mantissa exponent := by
    unfold shortest
    extract_lets magnitude found
    cases hfound : found with
    | none => exact ofDecimal_expansion h hpos
    | some decimal =>
      obtain ⟨n, -, hn⟩ := List.exists_of_findSome?_eq_some hfound
      exact ofDecimal_onGrid? hn
  cases negative with
  | false => exact hpositive
  | true =>
    rw [ofDecimal_true, hpositive]
    rfl

/-- The shortest decimal of a positive double is positive. -/
theorem shortest_pos (h : IsCanonical mantissa exponent) (hpos : 0 < mantissa) :
    0 < (shortest mantissa exponent).1 := by
  refine Nat.pos_of_ne_zero fun hzero => ?_
  have hread := ofDecimal_shortest false h hpos
  rw [hzero] at hread
  simp only [ofDecimal, true_or, if_true, zero, finite.injEq] at hread
  omega

end ApiContract.Number
