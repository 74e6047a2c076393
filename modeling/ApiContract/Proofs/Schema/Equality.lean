import ApiContract.Proofs.Operation.Groups
import ApiContract.Proofs.Schema.Literals
import ApiContract.Proofs.Validator.Acceptance
import ApiContract.Proofs.Value.Part
import Mathlib.Data.List.Perm.Subperm

/-!
# Equality of JSON values

Values are equal in JSON when they have the same shape and equal scalars in the same places, where two
numbers are equal by value and a boolean is equal to no number (`Value.JsonEqual`). Values of documents
are compared in the same way, but that booleans count as the numbers one and zero (`Value.alike_iff`).
-/

namespace ApiContract

open ApiContract.Number

/-! ## Equality of JSON values -/

namespace Scalar

/-- The place of a number among all numbers. A boolean is no number. -/
def place (a : Scalar) : Option (Int × Int) := (Value.scalar a).number?.bind Bound.place

/-- Equal in JSON: the same, or numbers of one value. -/
def JsonEqual (a b : Scalar) : Prop := a = b ∨ ∃ p, a.place = some p ∧ b.place = some p

/-- The number that a boolean counts as; any other scalar as it is. -/
def counted : Scalar → Scalar
  | .bool b => .int (if b then 1 else 0)
  | a => a

/-- Equal where booleans count as numbers. -/
def CountsAs (a b : Scalar) : Prop := a.counted.JsonEqual b.counted

end Scalar

namespace Value

/-- A value of a JSON document: a mapping has texts as keys and holds each of them once. -/
inductive FromJson : Value → Prop where
  | scalar {a : Scalar} (h : a.FromJson) : FromJson (.scalar a)
  | list {items : List Value} (items_fromJson : ∀ v ∈ items, v.FromJson) : FromJson (.list items)
  | object {fields : List (String × Value)} (keys : (fields.map (·.1)).Nodup)
    (values : ∀ e ∈ fields, e.2.FromJson) : FromJson (.object fields)

/-- Values of one shape whose scalars are related: lists item by item, and mappings key by key. -/
inductive EqualBy (R : Scalar → Scalar → Prop) : Value → Value → Prop where
  | scalar {a b : Scalar} (h : R a b) : EqualBy R (.scalar a) (.scalar b)
  | list {xs ys : List Value} (length : xs.length = ys.length)
    (items : ∀ (i : Nat) (v w : Value), xs[i]? = some v → ys[i]? = some w → EqualBy R v w) :
    EqualBy R (.list xs) (.list ys)
  | map {xs ys : List (Scalar × Value)} (keys : ∀ k, k ∈ xs.map (·.1) ↔ k ∈ ys.map (·.1))
    (values : ∀ k v w, (k, v) ∈ xs → (k, w) ∈ ys → EqualBy R v w) : EqualBy R (.map xs) (.map ys)

/-- Equal as JSON values: numbers are compared by value, and a boolean is equal to no number. -/
def JsonEqual (v w : Value) : Prop := v.EqualBy Scalar.JsonEqual w

end Value

/-! ## Numbers by value -/

namespace Number.Binary64

/-- A double is read as the integer that is so many steps. -/
theorem toInt?_eq_some {negative : Bool} {m e : Nat} {i : Int} :
    (finite negative m e).toInt? = some i ↔ inSteps negative m e = i * steps := by
  have hpos := steps_pos
  simp only [toInt?, inSteps]
  generalize m * Nat.pow 2 e = n
  generalize steps = one at hpos
  have hcancel (a b : Int) : a * one = b * one ↔ a = b := Int.mul_eq_mul_right_iff (by omega)
  by_cases h : n % one = 0
  · obtain ⟨k, rfl⟩ := Nat.dvd_of_mod_eq_zero h
    rw [if_pos h, Nat.mul_div_cancel_left k hpos, Option.some.injEq, Nat.mul_comm, Int.natCast_mul]
    cases negative with
    | true => rw [if_pos rfl, if_pos rfl, ← Int.neg_mul, hcancel]
    | false => rw [if_neg nofun, if_neg nofun, hcancel]
  · rw [if_neg h]
    refine iff_of_false nofun fun hsteps => h ?_
    have hdvd : (one : Int) ∣ n := by
      cases negative with
      | true => exact Int.dvd_neg.1 ⟨i, by rw [Int.mul_comm]; exact hsteps⟩
      | false => exact ⟨i, by rw [Int.mul_comm]; exact hsteps⟩
    exact Nat.mod_eq_zero_of_dvd (Int.natCast_dvd_natCast.1 hdvd)

/-- Canonical doubles are equal exactly when they are so many steps. -/
theorem numEq_iff {a b : Bool} {m e n f : Nat} (hm : IsCanonical m e) (hn : IsCanonical n f) :
    (finite a m e).numEq (finite b n f) = true ↔ inSteps a m e = inSteps b n f := by
  have hzero {m e : Nat} : m * Nat.pow 2 e = 0 ↔ m = 0 :=
    Nat.mul_eq_zero.trans (or_iff_left (Nat.two_pow_pos e).ne')
  have hunique : m * Nat.pow 2 e = n * Nat.pow 2 f → m = n ∧ e = f := fun h => by
    have hsame : finite a m e = finite a n f := by
      rw [← ofQuotient_steps a hm, h, ofQuotient_steps a hn]
    cases hsame
    exact ⟨rfl, rfl⟩
  simp only [numEq, Bool.or_eq_true, Bool.and_eq_true, beq_iff_eq]
  constructor
  · rintro (⟨rfl, rfl⟩ | ⟨⟨rfl, rfl⟩, rfl⟩)
    · simp [inSteps]
    · rfl
  · intro h
    by_cases hsign : a = b
    · subst hsign
      have hn : m * Nat.pow 2 e = n * Nat.pow 2 f := by
        cases a <;> simpa only [inSteps, Bool.false_eq_true, ↓reduceIte, Int.neg_inj,
          Int.natCast_inj] using h
      obtain ⟨rfl, rfl⟩ := hunique hn
      exact .inr ⟨⟨rfl, rfl⟩, rfl⟩
    · rw [← hzero (m := m) (e := e), ← hzero (m := n) (e := f)]
      unfold inSteps at h
      generalize m * Nat.pow 2 e = p at h
      generalize n * Nat.pow 2 f = q at h
      left
      cases a <;> cases b <;> simp only [not_true_eq_false, Bool.false_eq_true, ↓reduceIte] at hsign h <;>
        omega

end Number.Binary64

namespace Scalar

variable {a b : Scalar} {p q : Int × Int}

theorem jsonEqual_of_place (ha : a.place = some p) (hb : b.place = some q) : a.JsonEqual b ↔ p = q := by
  constructor
  · rintro (rfl | ⟨r, har, hbr⟩)
    · exact Option.some.inj (ha.symm.trans hb)
    · rw [ha] at har
      rw [hb] at hbr
      exact Option.some.inj (har.trans hbr.symm)
  · rintro rfl
    exact .inr ⟨p, ha, hb⟩

theorem jsonEqual_of_no_place (h : a.place = none ∨ b.place = none) : a.JsonEqual b ↔ a = b := by
  refine or_iff_left ?_
  rintro ⟨p, ha, hb⟩
  rcases h with h | h
  · cases h.symm.trans ha
  · cases h.symm.trans hb

theorem place_int (i : Int) : (int i).place = some (0, i * Binary64.steps) := rfl

theorem place_infinite (negative : Bool) :
    (float (.infinite negative)).place = some (if negative then -1 else 1, 0) := rfl

theorem place_finite (negative : Bool) (m e : Nat) :
    (float (.finite negative m e)).place = some (0, Binary64.inSteps negative m e) := rfl

/-! ## Equality as it is decided -/

theorem null_alike : null.alike b = true ↔ null = b := by
  cases b with
  | float x => cases h : x.toInt? <;> simp [alike, whole?, h]
  | _ => simp [alike, whole?]

theorem alike_null : a.alike null = true ↔ a = null := by
  cases a with
  | float x => cases h : x.toInt? <;> simp [alike, whole?, h]
  | _ => simp [alike, whole?]

theorem int_alike_float {i : Int} {x : Binary64} :
    (int i).alike (.float x) = true ↔ x.toInt? = some i := by
  cases h : x.toInt? with
  | none => simp [alike, h]
  | some j => simpa [alike, whole?, h] using eq_comm

theorem float_alike_int {i : Int} {x : Binary64} :
    (float x).alike (.int i) = true ↔ x.toInt? = some i := by
  cases h : x.toInt? with
  | none => simp [alike, h]
  | some j => simp [alike, whole?, h]

theorem int_alike_int {i j : Int} : (int i).alike (.int j) = true ↔ i = j := by
  simp [alike, whole?]

/-- An integer stands nowhere but where it is so many steps. -/
theorem int_jsonEqual_int {i j : Int} : (int i).JsonEqual (.int j) ↔ i = j := by
  have hpos := steps_pos
  rw [jsonEqual_of_place (place_int i) (place_int j), Prod.mk.injEq, and_iff_right rfl,
    Int.mul_eq_mul_right_iff (by omega)]

theorem int_jsonEqual_float {i : Int} {x : Binary64} (hx : (float x).FromJson) :
    (int i).JsonEqual (.float x) ↔ x.toInt? = some i := by
  cases x with
  | nan => cases hx
  | infinite negative =>
    rw [jsonEqual_of_place (place_int i) (place_infinite negative)]
    refine iff_of_false (fun h => ?_) nofun
    cases negative <;> exact absurd (Prod.mk.inj h).1 (by decide)
  | finite negative m e =>
    rw [jsonEqual_of_place (place_int i) (place_finite negative m e), Prod.mk.injEq,
      and_iff_right rfl, Binary64.toInt?_eq_some, eq_comm]

theorem float_jsonEqual_float {x y : Binary64} (hx : (float x).FromJson) (hy : (float y).FromJson) :
    (float x).JsonEqual (.float y) ↔ x.numEq y = true := by
  cases x with
  | nan => cases hx
  | infinite a =>
    cases y with
    | nan => cases hy
    | infinite b =>
      rw [jsonEqual_of_place (place_infinite a) (place_infinite b)]
      cases a <;> cases b <;> decide
    | finite b n f =>
      rw [jsonEqual_of_place (place_infinite a) (place_finite b n f)]
      cases a <;> simp [Binary64.numEq]
  | finite a m e =>
    cases y with
    | nan => cases hy
    | infinite b =>
      rw [jsonEqual_of_place (place_finite a m e) (place_infinite b)]
      cases b <;> simp [Binary64.numEq]
    | finite b n f =>
      rw [jsonEqual_of_place (place_finite a m e) (place_finite b n f), Prod.mk.injEq,
        and_iff_right rfl, Binary64.numEq_iff hx hy]

theorem JsonEqual.symm (h : a.JsonEqual b) : b.JsonEqual a :=
  h.imp Eq.symm fun ⟨p, ha, hb⟩ => ⟨p, hb, ha⟩

theorem jsonEqual_comm : a.JsonEqual b ↔ b.JsonEqual a := ⟨.symm, .symm⟩

/-- Apart from booleans, scalars of documents are compared as JSON compares them. -/
theorem alike_iff_jsonEqual (ha : a.FromJson) (hb : b.FromJson) (hna : ∀ c, a ≠ .bool c)
    (hnb : ∀ c, b ≠ .bool c) : a.alike b = true ↔ a.JsonEqual b := by
  cases a with
  | bool c => exact absurd rfl (hna c)
  | null => rw [null_alike, jsonEqual_of_no_place (.inl rfl)]
  | text s => rw [text_alike, jsonEqual_of_no_place (.inl rfl), eq_comm]
  | int i =>
    cases b with
    | bool c => exact absurd rfl (hnb c)
    | null => rw [alike_null, jsonEqual_of_no_place (.inr rfl)]
    | text s => rw [alike_text, jsonEqual_of_no_place (.inr rfl)]
    | int j => rw [int_alike_int, int_jsonEqual_int]
    | float x => rw [int_alike_float, int_jsonEqual_float hb]
    | date | timestamp | bytes => cases hb
  | float x =>
    cases b with
    | bool c => exact absurd rfl (hnb c)
    | null => rw [alike_null, jsonEqual_of_no_place (.inr rfl)]
    | text s => rw [alike_text, jsonEqual_of_no_place (.inr rfl)]
    | int j => rw [float_alike_int, jsonEqual_comm, int_jsonEqual_float ha]
    | float y => rw [float_jsonEqual_float ha hb, alike]
    | date | timestamp | bytes => cases hb
  | date | timestamp | bytes => cases ha

theorem counted_of_ne_bool (h : ∀ c, a ≠ .bool c) : a.counted = a := by
  cases a with
  | bool c => exact absurd rfl (h c)
  | _ => rfl

/-- Scalars are equal in JSON if they are when counted, and both or neither of them are booleans. -/
theorem jsonEqual_iff :
    a.JsonEqual b ↔ a.CountsAs b ∧ ((∃ c, a = .bool c) ↔ ∃ c, b = .bool c) := by
  unfold CountsAs
  by_cases ha : ∃ c, a = .bool c
  · obtain ⟨c, rfl⟩ := ha
    rw [jsonEqual_of_no_place (.inl rfl)]
    constructor
    · rintro rfl
      exact ⟨.inl rfl, Iff.rfl⟩
    · rintro ⟨hcounted, hboth⟩
      obtain ⟨d, rfl⟩ := hboth.1 ⟨c, rfl⟩
      have hnumber := int_jsonEqual_int.1 hcounted
      cases c <;> cases d <;> first | rfl | cases hnumber
  · by_cases hb : ∃ d, b = .bool d
    · obtain ⟨d, rfl⟩ := hb
      rw [jsonEqual_of_no_place (.inr rfl)]
      exact iff_of_false (fun heq => ha ⟨d, heq⟩) fun h => ha (h.2.2 ⟨d, rfl⟩)
    · rw [counted_of_ne_bool (not_exists.1 ha), counted_of_ne_bool (not_exists.1 hb)]
      exact (and_iff_left (iff_of_false ha hb)).symm

theorem FromJson.counted (h : a.FromJson) : a.counted.FromJson ∧ ∀ c, a.counted ≠ .bool c := by
  cases a with
  | bool c => exact ⟨trivial, nofun⟩
  | _ => exact ⟨h, nofun⟩

theorem alike_iff (ha : a.FromJson) (hb : b.FromJson) : a.alike b = true ↔ a.CountsAs b := by
  have hcounted : a.counted.alike b.counted = a.alike b := by
    cases a <;> cases b <;> rfl
  rw [← hcounted]
  exact alike_iff_jsonEqual ha.counted.1 hb.counted.1 ha.counted.2 hb.counted.2

end Scalar

namespace Value

variable {v w : Value} {R : Scalar → Scalar → Prop}

theorem alikeItems_iff {xs ys : List Value} : alikeItems xs ys = true ↔ xs.length = ys.length ∧
    ∀ (i : Nat) v w, xs[i]? = some v → ys[i]? = some w → v.alike w = true := by
  induction xs generalizing ys with
  | nil => cases ys <;> simp [alikeItems]
  | cons x xs ih =>
    cases ys with
    | nil => simp [alikeItems]
    | cons y ys =>
      simp only [alikeItems, Bool.and_eq_true, ih, List.length_cons, Nat.add_right_cancel_iff]
      constructor
      · rintro ⟨hxy, hlength, hitems⟩
        refine ⟨hlength, fun i v w hv hw => ?_⟩
        cases i with
        | zero =>
          cases hv
          cases hw
          exact hxy
        | succ i => exact hitems i v w hv hw
      · rintro ⟨hlength, hitems⟩
        exact ⟨hitems 0 x y rfl rfl, hlength, fun i v w hv hw => hitems (i + 1) v w hv hw⟩

/-- Under a text an entry is found as texts are looked up. -/
theorem find?_eq_map (key : String) (entries : List (Scalar × Value)) :
    find? key entries = (entries.find? fun e => (Scalar.text key).alike e.1).map (·.2) := by
  induction entries with
  | nil => rfl
  | cons e rest ih =>
    rw [find?, List.find?_cons]
    by_cases h : e.1 = .text key
    · rw [if_pos h, Scalar.text_alike.2 h]
      rfl
    · have hother : (Scalar.text key).alike e.1 = false := by
        rw [← Bool.not_eq_true, Scalar.text_alike]
        exact h
      rw [if_neg h, hother, ih]

theorem alikeEntries_iff {fields : List (String × Value)} {others : List (Scalar × Value)} :
    alikeEntries (fields.map fun e => (.text e.1, e.2)) others = true ↔
      ∀ e ∈ fields, ∃ w, find? e.1 others = some w ∧ e.2.alike w = true := by
  induction fields with
  | nil => simp [alikeEntries]
  | cons e rest ih =>
    rw [List.map_cons, alikeEntries, Bool.and_eq_true, ih, List.forall_mem_cons, find?_eq_map]
    refine and_congr_left fun _ => ?_
    cases others.find? fun other => (Scalar.text e.1).alike other.1 <;> simp

section Fields

variable {xs ys : List (String × Value)}

theorem nodup_keys (h : (xs.map (·.1)).Nodup) :
    ((xs.map fun e => (Scalar.text e.1, e.2)).map (·.1)).Nodup := by
  have hinj : Function.Injective Scalar.text := fun _ _ heq => Scalar.text.inj heq
  simpa [List.map_map, Function.comp_def] using h.map hinj

/-- In a mapping of a document an entry is found where it stands. -/
theorem find?_fields_iff (hkeys : (ys.map (·.1)).Nodup) {key : String} :
    find? key (ys.map fun e => (.text e.1, e.2)) = some w ↔ (key, w) ∈ ys := by
  constructor
  · intro h
    obtain ⟨e, he, heq⟩ := List.mem_map.1 (mem_of_find? h)
    cases heq
    exact he
  · exact fun h => find?_of_mem (nodup_keys hkeys) (List.mem_map.2 ⟨_, h, rfl⟩)

/-- Mappings with as many entries have the same keys if those of one are keys of the other. -/
theorem keys_iff (hxs : (xs.map (·.1)).Nodup) (hlength : xs.length = ys.length)
    (h : ∀ k, k ∈ xs.map (·.1) → k ∈ ys.map (·.1)) (k : String) :
    k ∈ xs.map (·.1) ↔ k ∈ ys.map (·.1) := by
  have hperm : (xs.map (·.1)).Perm (ys.map (·.1)) :=
    (hxs.subperm h).perm_of_length_le (by simp [hlength])
  exact hperm.mem_iff

theorem length_eq_of_keys (hxs : (xs.map (·.1)).Nodup) (hys : (ys.map (·.1)).Nodup)
    (h : ∀ k, k ∈ xs.map (·.1) ↔ k ∈ ys.map (·.1)) : xs.length = ys.length := by
  simpa using ((List.perm_ext_iff_of_nodup hxs hys).2 h).length_eq

end Fields

/-- Values equal by one relation are equal by any other that follows for the scalars in them. -/
theorem EqualBy.imp {S : Scalar → Scalar → Prop} (h : v.EqualBy R w)
    (himp : ∀ a b, v.Part (.scalar a) → w.Part (.scalar b) → R a b → S a b) : v.EqualBy S w := by
  induction h with
  | scalar h => exact .scalar (himp _ _ .self .self h)
  | list length items ih =>
    refine .list length fun i v w hv hw => ih i v w hv hw fun a b ha hb => himp a b ?_ ?_
    · exact (Part.self.item (List.mem_of_getElem? hv)).trans ha
    · exact (Part.self.item (List.mem_of_getElem? hw)).trans hb
  | map keys values ih =>
    refine .map keys fun k v w hv hw => ih k v w hv hw fun a b ha hb => himp a b ?_ ?_
    · exact (Part.self.entry hv).trans ha
    · exact (Part.self.entry hw).trans hb

theorem equalBy_scalar {a b : Scalar} : (Value.scalar a).EqualBy R (.scalar b) ↔ R a b :=
  ⟨fun | .scalar h => h, .scalar⟩

theorem equalBy_list {xs ys : List Value} : (Value.list xs).EqualBy R (.list ys) ↔
    xs.length = ys.length ∧
      ∀ (i : Nat) v w, xs[i]? = some v → ys[i]? = some w → v.EqualBy R w :=
  ⟨fun | .list length items => ⟨length, items⟩, fun h => .list h.1 h.2⟩

theorem equalBy_object {xs ys : List (String × Value)} : (object xs).EqualBy R (.object ys) ↔
    (∀ k, k ∈ xs.map (·.1) ↔ k ∈ ys.map (·.1)) ∧
      ∀ k v w, (k, v) ∈ xs → (k, w) ∈ ys → v.EqualBy R w := by
  constructor
  · intro h
    cases h with
    | map keys values =>
      refine ⟨fun k => by simpa using keys (.text k), fun k v w hv hw => ?_⟩
      exact values (.text k) v w (List.mem_map.2 ⟨_, hv, rfl⟩) (List.mem_map.2 ⟨_, hw, rfl⟩)
  · rintro ⟨keys, values⟩
    refine .map (fun k => ?_) fun k v w hv hw => ?_
    · simp only [List.map_map, List.mem_map, Function.comp_apply]
      constructor
      · rintro ⟨e, he, rfl⟩
        simpa using (keys e.1).1 (List.mem_map.2 ⟨e, he, rfl⟩)
      · rintro ⟨e, he, rfl⟩
        simpa using (keys e.1).2 (List.mem_map.2 ⟨e, he, rfl⟩)
    · obtain ⟨e, he, heq⟩ := List.mem_map.1 hv
      obtain ⟨e', he', heq'⟩ := List.mem_map.1 hw
      cases heq
      obtain ⟨hkey, rfl⟩ := Prod.mk.inj heq'
      exact values e.1 e.2 e'.2 he (by rw [← Scalar.text.inj hkey]; exact he')

/-- Values of documents are compared as JSON compares them, but that booleans count as numbers. -/
theorem alike_iff (hv : v.FromJson) (hw : w.FromJson) :
    v.alike w = true ↔ v.EqualBy Scalar.CountsAs w := by
  induction hv generalizing w with
  | scalar ha =>
    cases hw with
    | scalar hb => rw [alike, equalBy_scalar, Scalar.alike_iff ha hb]
    | list => exact iff_of_false (by simp [alike]) (by rintro ⟨⟩)
    | object => exact iff_of_false (by simp [alike, object]) (by rintro ⟨⟩)
  | @list xs hxs ih =>
    cases hw with
    | scalar => exact iff_of_false (by simp [alike]) (by rintro ⟨⟩)
    | list hys =>
      rw [alike, alikeItems_iff, equalBy_list]
      refine and_congr_right fun _ => forall₃_congr fun i v w => forall₂_congr fun hv hw => ?_
      exact ih v (List.mem_of_getElem? hv) (hys w (List.mem_of_getElem? hw))
    | object => exact iff_of_false (by simp [alike, object]) (by rintro ⟨⟩)
  | @object xs hkeys hxs ih =>
    cases hw with
    | scalar => exact iff_of_false (by simp [alike, object]) (by rintro ⟨⟩)
    | list => exact iff_of_false (by simp [alike, object]) (by rintro ⟨⟩)
    | @object ys hkeys' hys =>
      rw [equalBy_object, object, object, alike, Bool.and_eq_true, beq_iff_eq, List.length_map,
        List.length_map, alikeEntries_iff]
      simp only [find?_fields_iff hkeys']
      -- That each key has an entry on the other side is half of the same keys; the lengths are the rest.
      constructor
      · rintro ⟨hlength, hentries⟩
        refine ⟨keys_iff hkeys hlength fun k hk => ?_, fun k v w hv hw => ?_⟩
        · obtain ⟨e, he, rfl⟩ := List.mem_map.1 hk
          obtain ⟨w, hw, -⟩ := hentries e he
          exact List.mem_map.2 ⟨_, hw, rfl⟩
        · obtain ⟨w', hw', halike⟩ := hentries (k, v) hv
          obtain rfl : w = w' := by
            rw [← find?_fields_iff hkeys'] at hw hw'
            exact Option.some.inj (hw.symm.trans hw')
          exact (ih _ hv (hys _ hw)).1 halike
      · rintro ⟨hsame, hvalues⟩
        refine ⟨length_eq_of_keys hkeys hkeys' hsame, fun e he => ?_⟩
        obtain ⟨e', he', hkey⟩ := List.mem_map.1 ((hsame e.1).1 (List.mem_map.2 ⟨e, he, rfl⟩))
        refine ⟨e'.2, by rw [← hkey]; exact he', ?_⟩
        exact (ih e he (hys e' he')).2 (hvalues e.1 e.2 e'.2 he (by rw [← hkey]; exact he'))

end Value

end ApiContract
