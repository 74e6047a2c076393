import ApiContract.Json.Reader
import ApiContract.Json.Writer
import ApiContract.Proofs.Number.Numeral
import ApiContract.Proofs.Number.Rounding

/-!
# JSON numbers are read back

A number that is written as JSON is read as the number it was written for, whatever follows that does not
belong to it: `readNumber_intText` for integers and `readNumber_write` for finite doubles.
-/

namespace ApiContract.Json

open ApiContract.Number

variable {digits whole body rest : List Char} {negative : Bool}

/-! ## Digits -/

/-- A number does not go on with this text. -/
def EndsNumber (rest : List Char) : Prop :=
  ∀ c ∈ rest.head?, c.isDigit = false ∧ c ≠ '.' ∧ c ≠ 'e' ∧ c ≠ 'E'

theorem endsNumber_nil : EndsNumber [] := by simp [EndsNumber]

theorem head?_append_of_ne_nil (hne : digits ≠ []) : (digits ++ rest).head? = digits.head? := by
  cases digits with
  | nil => exact absurd rfl hne
  | cons c tail => rfl

theorem head?_digits_ne (hd : ∀ c ∈ digits, c.isDigit = true) (hne : digits ≠ []) :
    (digits ++ rest).head? ≠ some '-' := by
  rw [head?_append_of_ne_nil hne]
  intro hhead
  exact absurd (hd '-' (List.mem_of_mem_head? hhead)) (by decide)

theorem digitRun_append (hd : ∀ c ∈ digits, c.isDigit = true)
    (hr : ∀ c ∈ rest.head?, c.isDigit = false) : digitRun (digits ++ rest) = (digits, rest) := by
  have htake : rest.takeWhile Char.isDigit = [] := by
    cases rest with
    | nil => rfl
    | cons c rest => exact List.takeWhile_cons_of_neg (by simpa using hr c rfl)
  have hdrop : rest.dropWhile Char.isDigit = rest := by
    cases rest with
    | nil => rfl
    | cons c rest => exact List.dropWhile_cons_of_neg (by simpa using hr c rfl)
  rw [digitRun, List.takeWhile_append_of_pos hd, List.dropWhile_append_of_pos hd, htake, hdrop,
    List.append_nil]

theorem readWhole?_append (hd : ∀ c ∈ digits, c.isDigit = true) (hne : digits ≠ [])
    (hzero : digits.head? = some '0' → digits = ['0'])
    (hr : ∀ c ∈ rest.head?, c.isDigit = false) :
    readWhole? (digits ++ rest) = some (digits, rest) := by
  unfold readWhole?
  split
  next tail heq =>
    have hhead : digits.head? = some '0' := by
      rw [← head?_append_of_ne_nil hne, heq, List.head?_cons]
    obtain rfl := hzero hhead
    cases heq
    rfl
  next =>
    rw [digitRun_append hd hr]
    simp [hne]

theorem readFraction?_append (hd : ∀ c ∈ digits, c.isDigit = true) (hne : digits ≠ [])
    (hr : ∀ c ∈ rest.head?, c.isDigit = false) :
    readFraction? ('.' :: (digits ++ rest)) = some (digits, rest) := by
  simp [readFraction?, digitRun_append hd hr, hne]

theorem readFraction?_eq_none (h : ∀ c ∈ rest.head?, c ≠ '.') : readFraction? rest = none := by
  unfold readFraction?
  split
  next => exact absurd rfl (h '.' rfl)
  next => rfl

theorem readExponent?_eq_none (h : ∀ c ∈ rest.head?, c ≠ 'e' ∧ c ≠ 'E') :
    readExponent? rest = none := by
  cases rest with
  | nil => rfl
  | cons c rest => simp [readExponent?, h c rfl]

theorem signed_natAbs (x : Int) : signed (decide (x < 0)) x.natAbs = x := by
  by_cases h : x < 0
  · simp only [signed, h, decide_true, if_true]
    omega
  · simp only [signed, h, decide_false]
    simp
    omega

theorem isDigit_of_mem_replicate {k : Nat} : ∀ c ∈ List.replicate k '0', c.isDigit = true := by
  intro c hc
  rw [List.eq_of_mem_replicate hc]
  decide

theorem isDigit_of_mem_zeros {k : Nat} (hd : ∀ c ∈ digits, c.isDigit = true) :
    ∀ c ∈ List.replicate k '0' ++ digits, c.isDigit = true :=
  List.forall_mem_append.2 ⟨isDigit_of_mem_replicate, hd⟩

theorem ofDigitChars_zeros (k : Nat) (digits : List Char) :
    Nat.ofDigitChars 10 (List.replicate k '0' ++ digits) 0 = Nat.ofDigitChars 10 digits 0 := by
  rw [Nat.ofDigitChars_append, Nat.ofDigitChars_replicate_zero, Nat.mul_zero]

theorem readExponent?_write (layout : FloatLayout) (x : Int)
    (hr : ∀ c ∈ rest.head?, c.isDigit = false) :
    readExponent? ('e' :: (layout.writeExponent x ++ rest)) = some (x, rest) := by
  obtain ⟨k, hk⟩ : ∃ k, k = layout.exponentWidth - (natText x.natAbs).length := ⟨_, rfl⟩
  have hsign : readSign (layout.writeExponent x ++ rest) =
      (decide (x < 0), List.replicate k '0' ++ natText x.natAbs ++ rest) := by
    rw [FloatLayout.writeExponent, hk]
    by_cases h : x < 0
    · rw [if_pos h, decide_eq_true h]
      rfl
    · rw [if_neg h, decide_eq_false h]
      rfl
  have hrun : digitRun (List.replicate k '0' ++ natText x.natAbs ++ rest) =
      (List.replicate k '0' ++ natText x.natAbs, rest) :=
    digitRun_append (isDigit_of_mem_zeros fun _ => isDigit_of_mem_natText) hr
  have hvalue : Nat.ofDigitChars 10 (List.replicate k '0' ++ natText x.natAbs) 0 = x.natAbs := by
    rw [ofDigitChars_zeros, ofDigitChars_natText]
  have hne : (List.replicate k '0' ++ natText x.natAbs).isEmpty = false := by
    simp [natText, Nat.toDigits_ne_nil]
  simp only [readExponent?, true_or, if_true, hsign, hrun, hvalue, hne, signed_natAbs]
  rfl

/-! ## Numbers -/

/-- The sign in front of a number. -/
def sign (negative : Bool) : List Char := if negative then ['-'] else []

/-- What follows the whole part of a number decides what it is read as. -/
theorem readNumber_of_parts (negative : Bool) {fraction : Option (List Char × List Char)}
    {exponent : Option (Int × List Char)} (hbody : body.head? ≠ some '-')
    (hwhole : readWhole? body = some (whole, rest)) (hfraction : readFraction? rest = fraction)
    (hexponent : readExponent? ((fraction.map (·.2)).getD rest) = exponent) :
    readNumber (sign negative ++ body) =
      if fraction.isNone && exponent.isNone then
        if whole.length ≤ numeralLimit then
          .ok (.int (signed negative (Nat.ofDigitChars 10 whole 0)),
            (exponent.map (·.2)).getD ((fraction.map (·.2)).getD rest))
        else .error .longNumeral
      else
        .ok (.float (.ofDecimal negative
            (Nat.ofDigitChars 10 (whole ++ (fraction.map (·.1)).getD []) 0)
            ((exponent.map (·.1)).getD 0 - ((fraction.map (·.1)).getD []).length)),
          (exponent.map (·.2)).getD ((fraction.map (·.2)).getD rest)) := by
  cases negative with
  | true =>
    change readNumber ('-' :: body) = _
    unfold readNumber
    simp only
    simp only [hwhole]
    simp only [hfraction, hexponent]
  | false =>
    change readNumber body = _
    unfold readNumber
    split
    next negative text heq =>
      split at heq
      next => exact absurd rfl hbody
      next =>
        cases heq
        simp only [hwhole]
        simp only [hfraction, hexponent]

/-! ## Integers -/

theorem natText_ne_nil (n : Nat) : natText n ≠ [] := Nat.toDigits_ne_nil

/-- A positive numeral does not start with a zero. -/
theorem head?_natText {n : Nat} (hn : 0 < n) : (natText n).head? ≠ some '0' := by
  induction n using Nat.strongRecOn with
  | ind n ih =>
    by_cases hlt : n < 10
    · have hdigit : ∀ d < 10, 0 < d → Nat.digitChar d ≠ '0' := by decide
      rw [natText, Nat.toDigits_of_lt_base hlt, List.head?_cons]
      exact fun heq => hdigit n hlt hn (Option.some.inj heq)
    · have hquotient : 0 < n / 10 := Nat.div_pos (by omega) (by decide)
      have hsplit : natText (n / 10) ++ natText (n % 10) = natText n := by
        have h := Nat.toDigits_append_toDigits (b := 10) (by decide) hquotient
          (Nat.mod_lt n (by decide))
        rwa [Nat.div_add_mod] at h
      rw [← hsplit, head?_append_of_ne_nil (natText_ne_nil _)]
      exact ih (n / 10) (by omega) hquotient

theorem intText_eq (i : Int) : intText i = sign (decide (i < 0)) ++ natText i.natAbs := by
  cases i with
  | ofNat n => rfl
  | negSucc n =>
    rw [decide_eq_true (Int.negSucc_lt_zero n)]
    rfl

theorem readNumber_intText (i : Int) (hr : EndsNumber rest) :
    readNumber (intText i ++ rest) =
      if (natText i.natAbs).length ≤ numeralLimit then .ok (.int i, rest) else .error .longNumeral := by
  have hd : ∀ c ∈ natText i.natAbs, c.isDigit = true := fun _ => isDigit_of_mem_natText
  have hne := natText_ne_nil i.natAbs
  have hwhole : readWhole? (natText i.natAbs ++ rest) = some (natText i.natAbs, rest) := by
    refine readWhole?_append hd hne (fun hzero => ?_) fun c hc => (hr c hc).1
    rcases Nat.eq_zero_or_pos i.natAbs with h | h
    · rw [h]
      rfl
    · exact absurd hzero (head?_natText h)
  have hfraction := readFraction?_eq_none fun c hc => (hr c hc).2.1
  have hexponent := readExponent?_eq_none fun c hc => (hr c hc).2.2
  rw [intText_eq, List.append_assoc, readNumber_of_parts _ (head?_digits_ne hd hne) hwhole
    hfraction hexponent]
  simp [ofDigitChars_natText, signed_natAbs]

theorem readSign_intText (i : Int) : readSign (intText i) = (decide (i < 0), natText i.natAbs) := by
  rw [intText_eq]
  cases decide (i < 0) with
  | false => exact readSign_of_digits fun _ => isDigit_of_mem_natText
  | true => rfl

/-- Different integers have different numerals, also where they are too long to be read. -/
theorem intText_injective : Function.Injective intText := by
  intro i j h
  have hread := congrArg readSign h
  rw [readSign_intText, readSign_intText, Prod.mk.injEq] at hread
  have habs : i.natAbs = j.natAbs := by
    rw [← ofDigitChars_natText i.natAbs, hread.2, ofDigitChars_natText]
  rw [← signed_natAbs i, ← signed_natAbs j, hread.1, habs]

/-! ## Doubles -/

/-- A digit, and others behind a point if there are any, are read with the exponent behind them. -/
theorem readNumber_exponent (layout : FloatLayout) (negative : Bool) {c : Char} {tail : List Char}
    (hd : ∀ d ∈ c :: tail, d.isDigit = true) (hr : EndsNumber rest) (x : Int) :
    readNumber (sign negative ++ (c :: (if tail.isEmpty then [] else '.' :: tail) ++
        'e' :: layout.writeExponent x ++ rest)) =
      .ok (.float (.ofDecimal negative (Nat.ofDigitChars 10 (c :: tail) 0) (x - tail.length)),
        rest) := by
  rw [List.forall_mem_cons] at hd
  have hc : ∀ d ∈ [c], d.isDigit = true := by simpa using hd.1
  have hzero : [c].head? = some '0' → [c] = ['0'] := by simp
  have hexponent : readExponent? ('e' :: (layout.writeExponent x ++ rest)) = some (x, rest) :=
    readExponent?_write layout x fun c hc => (hr c hc).1
  cases tail with
  | nil =>
    have hwhole : readWhole? ([c] ++ 'e' :: (layout.writeExponent x ++ rest)) =
        some ([c], 'e' :: (layout.writeExponent x ++ rest)) :=
      readWhole?_append hc (by simp) hzero (by simp)
    have hfraction : readFraction? ('e' :: (layout.writeExponent x ++ rest)) = none :=
      readFraction?_eq_none (by simp)
    have hnumber := readNumber_of_parts negative (head?_digits_ne hc (by simp)) hwhole
      hfraction hexponent
    simpa using hnumber
  | cons d tail =>
    have hwhole : readWhole? ([c] ++ '.' :: (d :: tail ++ 'e' :: (layout.writeExponent x ++ rest))) =
        some ([c], '.' :: (d :: tail ++ 'e' :: (layout.writeExponent x ++ rest))) :=
      readWhole?_append hc (by simp) hzero (by simp)
    have hfraction : readFraction? ('.' :: (d :: tail ++ 'e' :: (layout.writeExponent x ++ rest))) =
        some (d :: tail, 'e' :: (layout.writeExponent x ++ rest)) :=
      readFraction?_append hd.2 (by simp) (by simp)
    have hnumber := readNumber_of_parts negative (head?_digits_ne hc (by simp)) hwhole
      hfraction hexponent
    simpa using hnumber

/-- The digits that are written with a point are read as the decimal they are. -/
theorem readNumber_point (negative : Bool) {places : List Char}
    (hd : ∀ c ∈ whole ++ places, c.isDigit = true)
    (hwhole : whole ≠ []) (hzero : whole.head? = some '0' → whole = ['0']) (hplaces : places ≠ [])
    (hr : EndsNumber rest) :
    readNumber (sign negative ++ (whole ++ '.' :: places ++ rest)) =
      .ok (.float (.ofDecimal negative (Nat.ofDigitChars 10 (whole ++ places) 0) (-places.length)),
        rest) := by
  rw [List.forall_mem_append] at hd
  have hread : readWhole? (whole ++ ('.' :: (places ++ rest))) = some (whole, '.' :: (places ++ rest)) :=
    readWhole?_append hd.1 hwhole hzero (by simp)
  have hfraction := readFraction?_append hd.2 hplaces fun c hc => (hr c hc).1
  have hexponent := readExponent?_eq_none fun c hc => (hr c hc).2.2
  rw [List.append_assoc, List.cons_append,
    readNumber_of_parts _ (head?_digits_ne hd.1 hwhole) hread hfraction hexponent]
  simp

/-- A fraction: a zero, a point, zeros and the digits. -/
theorem readNumber_fraction (negative : Bool) (hd : ∀ c ∈ digits, c.isDigit = true)
    (hne : digits ≠ []) (k : Nat) (hr : EndsNumber rest) :
    readNumber (sign negative ++ ('0' :: '.' :: (List.replicate k '0' ++ digits) ++ rest)) =
      .ok (.float (.ofDecimal negative (Nat.ofDigitChars 10 digits 0) (-k - digits.length)), rest) := by
  have hplaces : List.replicate k '0' ++ digits ≠ [] := by simp [hne]
  have hdigits : ∀ c ∈ ['0'] ++ (List.replicate k '0' ++ digits), c.isDigit = true :=
    isDigit_of_mem_zeros (k := 1) (isDigit_of_mem_zeros hd)
  have hvalue : Nat.ofDigitChars 10 (['0'] ++ (List.replicate k '0' ++ digits)) 0 =
      Nat.ofDigitChars 10 digits 0 := by
    rw [Nat.ofDigitChars_append]
    exact ofDigitChars_zeros k digits
  have hscale : -((List.replicate k '0' ++ digits).length : Int) = -k - digits.length := by
    rw [List.length_append, List.length_replicate]
    omega
  have hnumber := readNumber_point negative hdigits (by simp) (by simp) hplaces hr
  rw [hvalue, hscale] at hnumber
  exact hnumber

/-- A whole number: the digits, zeros up to the point, and one zero after it. -/
theorem readNumber_zeros (negative : Bool) (hd : ∀ c ∈ digits, c.isDigit = true) (hne : digits ≠ [])
    (hhead : digits.head? ≠ some '0') (k : Nat) (hr : EndsNumber rest) :
    readNumber (sign negative ++ (digits ++ List.replicate k '0' ++ '.' :: ['0'] ++ rest)) =
      .ok (.float (.ofDecimal negative (Nat.ofDigitChars 10 digits 0) k), rest) := by
  have hwhole : digits ++ List.replicate k '0' ≠ [] := by simp [hne]
  have hdigits : ∀ c ∈ digits ++ List.replicate k '0' ++ ['0'], c.isDigit = true := by
    rw [List.forall_mem_append, List.forall_mem_append]
    exact ⟨⟨hd, isDigit_of_mem_replicate⟩, isDigit_of_mem_replicate (k := 1)⟩
  have hzero : (digits ++ List.replicate k '0').head? = some '0' →
      digits ++ List.replicate k '0' = ['0'] := by
    rw [head?_append_of_ne_nil hne]
    exact fun h => absurd h hhead
  have hvalue : Nat.ofDigitChars 10 (digits ++ List.replicate k '0' ++ ['0']) 0 =
      Nat.ofDigitChars 10 digits 0 * 10 ^ (k + 1) := by
    have hone : ['0'] = List.replicate 1 '0' := rfl
    rw [hone, Nat.ofDigitChars_append, Nat.ofDigitChars_append, Nat.ofDigitChars_replicate_zero,
      Nat.ofDigitChars_replicate_zero, ← Nat.mul_assoc, ← Nat.pow_add, Nat.add_comm, Nat.mul_comm]
  have hscale : -((['0'] : List Char).length : Int) + (k + 1 : Nat) = k := by
    rw [List.length_singleton]
    omega
  rw [readNumber_point negative hdigits hwhole hzero (by simp) hr, hvalue, ofDecimal_mul_pow, hscale]

/-- A point within the digits. -/
theorem readNumber_take (negative : Bool) (hd : ∀ c ∈ digits, c.isDigit = true)
    (hhead : digits.head? ≠ some '0') {k : Nat} (hk : 0 < k) (hshort : k < digits.length)
    (hr : EndsNumber rest) :
    readNumber (sign negative ++ (digits.take k ++ '.' :: digits.drop k ++ rest)) =
      .ok (.float (.ofDecimal negative (Nat.ofDigitChars 10 digits 0) (k - digits.length)), rest) := by
  have hwhole : digits.take k ≠ [] := by
    rw [← List.length_pos_iff, List.length_take]
    omega
  have hplaces : digits.drop k ≠ [] := by simpa using hshort
  have hsplit : digits.take k ++ digits.drop k = digits := List.take_append_drop k digits
  have hzero : (digits.take k).head? = some '0' → digits.take k = ['0'] := by
    rw [← head?_append_of_ne_nil hwhole, hsplit]
    exact fun h => absurd h hhead
  have hscale : -((digits.drop k).length : Int) = k - digits.length := by
    rw [List.length_drop]
    omega
  rw [← hsplit] at hd
  rw [readNumber_point negative hd hwhole hzero hplaces hr, hsplit, hscale]

/-- Digits that do not start with a zero are read as the decimal they are, wherever the point is. -/
theorem readNumber_writeDigits (layout : FloatLayout) (negative : Bool)
    (hd : ∀ c ∈ digits, c.isDigit = true) (hne : digits ≠ []) (hhead : digits.head? ≠ some '0')
    (point : Int) (hr : EndsNumber rest) :
    readNumber (sign negative ++ (layout.writeDigits digits point ++ rest)) =
      .ok (.float (.ofDecimal negative (Nat.ofDigitChars 10 digits 0) (point - digits.length)),
        rest) := by
  rw [FloatLayout.writeDigits]
  split
  case isTrue =>
    obtain ⟨c, tail, rfl⟩ := List.exists_cons_of_ne_nil hne
    have hscale : point - ((c :: tail).length : Int) = point - 1 - tail.length := by
      rw [List.length_cons]
      omega
    rw [hscale]
    exact readNumber_exponent layout negative hd hr (point - 1)
  case isFalse =>
    split
    case isTrue hpoint =>
      have hscale : point - digits.length = -((-point).toNat : Int) - digits.length := by omega
      rw [hscale]
      exact readNumber_fraction negative hd hne _ hr
    case isFalse hpoint =>
      by_cases hlong : digits.length ≤ point.toNat
      · have hscale : point - digits.length = ((point.toNat - digits.length : Nat) : Int) := by omega
        rw [List.take_of_length_le hlong, List.drop_eq_nil_of_le hlong, hscale]
        exact readNumber_zeros negative hd hne hhead _ hr
      · have hscale : point - digits.length = (point.toNat : Int) - digits.length := by omega
        have hzeros : point.toNat - (digits.take point.toNat).length = 0 := by
          rw [List.length_take]
          omega
        have hplaces : (digits.drop point.toNat).isEmpty = false := by simpa using hlong
        simp only [hzeros, hplaces, List.replicate_zero, List.append_nil, hscale]
        exact readNumber_take negative hd hhead (by omega) (by omega) hr

theorem trimZeros_append (digits : List Char) :
    ∃ k, digits = FloatLayout.trimZeros digits ++ List.replicate k '0' := by
  refine ⟨(digits.reverse.takeWhile (· == '0')).length, ?_⟩
  have hzeros : digits.reverse.takeWhile (· == '0') =
      List.replicate (digits.reverse.takeWhile (· == '0')).length '0' := by
    rw [List.eq_replicate_iff]
    exact ⟨rfl, fun c hc => by simpa using List.mem_takeWhile_imp hc⟩
  have hsplit := congrArg List.reverse (List.takeWhile_append_dropWhile (p := (· == '0'))
    (l := digits.reverse))
  rw [hzeros, List.reverse_append, List.reverse_replicate, List.reverse_reverse] at hsplit
  exact hsplit.symm

/-- A positive numeral without the zeros at its end starts as the numeral does. -/
theorem trimZeros_natText {n : Nat} (hn : 0 < n) :
    FloatLayout.trimZeros (natText n) ≠ [] ∧ (FloatLayout.trimZeros (natText n)).head? ≠ some '0' := by
  obtain ⟨k, hk⟩ := trimZeros_append (natText n)
  have hne : FloatLayout.trimZeros (natText n) ≠ [] := by
    intro hnil
    have hvalue := ofDigitChars_natText n
    rw [hk, hnil, List.nil_append, Nat.ofDigitChars_replicate_zero, Nat.mul_zero] at hvalue
    omega
  refine ⟨hne, ?_⟩
  rw [← head?_append_of_ne_nil hne, ← hk]
  exact head?_natText hn

/-- A positive decimal is read as what it is rounded to. -/
theorem readNumber_decimal (layout : FloatLayout) (negative : Bool) {n : Nat} (hn : 0 < n) (scale : Int)
    (hr : EndsNumber rest) :
    readNumber (sign negative ++ (layout.writeDigits (FloatLayout.trimZeros (natText n))
        ((natText n).length + scale) ++ rest)) = .ok (.float (.ofDecimal negative n scale), rest) := by
  obtain ⟨k, hk⟩ := trimZeros_append (natText n)
  obtain ⟨hne, hhead⟩ := trimZeros_natText hn
  have hd : ∀ c ∈ FloatLayout.trimZeros (natText n), c.isDigit = true := by
    intro c hc
    refine isDigit_of_mem_natText (n := n) ?_
    rw [hk]
    exact List.mem_append_left _ hc
  have hvalue : n = Nat.ofDigitChars 10 (FloatLayout.trimZeros (natText n)) 0 * 10 ^ k := by
    have h := ofDigitChars_natText n
    rw [hk, Nat.ofDigitChars_append, Nat.ofDigitChars_replicate_zero, Nat.mul_comm] at h
    exact h.symm
  have hscale : (natText n).length + scale - (FloatLayout.trimZeros (natText n)).length = scale + k := by
    have hlength := congrArg List.length hk
    rw [List.length_append, List.length_replicate] at hlength
    omega
  rw [readNumber_writeDigits layout negative hd hne hhead _ hr, hscale, ← ofDecimal_mul_pow, ← hvalue]

/-- A finite double is read from the decimal that is written for it. -/
theorem readNumber_write (layout : FloatLayout) (negative : Bool) {mantissa exponent : Nat}
    (h : Binary64.IsCanonical mantissa exponent) (hr : EndsNumber rest) :
    readNumber (layout.write (.finite negative mantissa exponent) ++ rest) =
      .ok (.float (.finite negative mantissa exponent), rest) := by
  rw [FloatLayout.write, List.append_assoc]
  rcases Nat.eq_zero_or_pos mantissa with rfl | hpos
  · obtain rfl : exponent = 0 := h.2.1.resolve_left (by decide)
    have hdigits : ∀ c ∈ ['0'] ++ ['0'], c.isDigit = true := isDigit_of_mem_replicate (k := 2)
    exact readNumber_point negative hdigits (by simp) (by simp) (by simp) hr
  · rw [if_neg hpos.ne', ← ofDecimal_shortest negative h hpos]
    exact readNumber_decimal layout negative (shortest_pos h hpos) _ hr

end ApiContract.Json
