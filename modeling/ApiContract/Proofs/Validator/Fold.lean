import ApiContract.Validator.Basic
import Mathlib.Tactic.Push

/-!
# Properties of folds

A fold opens its first validator if that is of its own kind, so that nothing but the outermost node
changes. A property that a union has when one of its variants does is had by a fold in the same way, and
likewise for intersections. Which variants there are, and in which order, does not depend on where unions
were opened: `expand_of_unionOf?`.
-/

namespace ApiContract.Validator

variable {P : Validator → Prop} {v w first : Validator} {rest vs : List Validator}

theorem orElse_iff (h : ∀ vs, P (union vs none) ↔ ∃ v ∈ vs, P v) : P (v.orElse w) ↔ P v ∨ P w := by
  unfold orElse
  split <;> simp [h, or_and_right, exists_or]

theorem unionOf_iff (h : ∀ vs, P (union vs none) ↔ ∃ v ∈ vs, P v) :
    P (unionOf first rest) ↔ ∃ v ∈ first :: rest, P v := by
  unfold unionOf
  induction rest generalizing first with
  | nil => simp
  | cons w rest ih =>
    rw [List.foldl_cons, ih]
    simp [orElse_iff h, or_assoc]

theorem andAlso_iff (h : ∀ vs, P (intersection vs) ↔ ∀ v ∈ vs, P v) :
    P (v.andAlso w) ↔ P v ∧ P w := by
  unfold andAlso
  split <;> simp [h, or_imp, forall_and]

theorem intersectionOf_iff (h : ∀ vs, P (intersection vs) ↔ ∀ v ∈ vs, P v) :
    P (intersectionOf first rest) ↔ ∀ v ∈ first :: rest, P v := by
  unfold intersectionOf
  induction rest generalizing first with
  | nil => simp
  | cons w rest ih =>
    rw [List.foldl_cons, ih]
    simp [andAlso_iff h, and_assoc]

theorem iff_of_unionOf? (hv : unionOf? vs = some v) (h : ∀ vs, P (union vs none) ↔ ∃ v ∈ vs, P v) :
    P v ↔ ∃ w ∈ vs, P w := by
  cases vs with
  | nil => cases hv
  | cons first rest =>
    cases hv
    exact unionOf_iff h

theorem iff_of_intersectionOf? (hv : intersectionOf? vs = some v)
    (h : ∀ vs, P (intersection vs) ↔ ∀ v ∈ vs, P v) : P v ↔ ∀ w ∈ vs, P w := by
  cases vs with
  | nil => cases hv
  | cons first rest =>
    cases hv
    exact intersectionOf_iff h

/-- A property that passes from two parts to both together passes from all to their intersection. -/
theorem of_intersectionOf? (hv : intersectionOf? vs = some v) (hvs : ∀ w ∈ vs, P w)
    (h : ∀ v w, P v → P w → P (v.andAlso w)) : P v := by
  cases vs with
  | nil => cases hv
  | cons first rest =>
    cases hv
    unfold intersectionOf
    induction rest generalizing first with
    | nil => exact hvs first (by simp)
    | cons w rest ih =>
      simp only [List.forall_mem_cons] at hvs
      refine ih (first.andAlso w) ?_
      simpa using ⟨h _ _ hvs.1 hvs.2.1, hvs.2.2⟩

/-- A property of which one part is enough: the negation of one that all parts must have. -/
theorem exists_of_intersectionOf? (hv : intersectionOf? vs = some v)
    (h : ∀ vs, P (intersection vs) ↔ ∃ v ∈ vs, P v) : P v ↔ ∃ w ∈ vs, P w := by
  have hnot : ¬ P v ↔ ∀ w ∈ vs, ¬ P w :=
    iff_of_intersectionOf? (P := fun v => ¬ P v) hv fun vs => by
      rw [h]
      push Not
      rfl
  rw [← not_iff_not, hnot]
  push Not
  rfl

/-- A property that all variants must have: the negation of one of which one variant is enough. -/
theorem forall_of_unionOf? (hv : unionOf? vs = some v)
    (h : ∀ vs, P (union vs none) ↔ ∀ v ∈ vs, P v) : P v ↔ ∀ w ∈ vs, P w := by
  have hnot : ¬ P v ↔ ∃ w ∈ vs, ¬ P w :=
    iff_of_unionOf? (P := fun v => ¬ P v) hv fun vs => by
      rw [h]
      push Not
      rfl
  rw [← not_iff_not, hnot]
  push Not
  rfl

/-! ## Folds of several validators -/

theorem exists_union_of_unionOf? (hv : unionOf? (first :: w :: rest) = some v) :
    ∃ variants, v = union variants none := by
  have hfold : ∀ (us vs : List Validator), ∃ variants,
      vs.foldl orElse (union us none) = union variants none := by
    intro us vs
    induction vs generalizing us with
    | nil => exact ⟨us, rfl⟩
    | cons u vs ih => exact ih (us ++ [u])
  obtain ⟨us, hus⟩ : ∃ us, first.orElse w = union us none := by
    unfold orElse
    split <;> exact ⟨_, rfl⟩
  obtain ⟨variants, hvariants⟩ := hfold us rest
  exact ⟨variants, by rw [← Option.some.inj hv, ← hvariants, ← hus]; rfl⟩

theorem exists_intersection_of_intersectionOf?
    (hv : intersectionOf? (first :: w :: rest) = some v) : ∃ parts, v = intersection parts := by
  have hfold : ∀ (us vs : List Validator), ∃ parts,
      vs.foldl andAlso (intersection us) = intersection parts := by
    intro us vs
    induction vs generalizing us with
    | nil => exact ⟨us, rfl⟩
    | cons u vs ih => exact ih (us ++ [u])
  obtain ⟨us, hus⟩ : ∃ us, first.andAlso w = intersection us := by
    unfold andAlso
    split <;> exact ⟨_, rfl⟩
  obtain ⟨parts, hparts⟩ := hfold us rest
  exact ⟨parts, by rw [← Option.some.inj hv, ← hparts, ← hus]; rfl⟩

/-! ## Expansion -/

mutual

/-- The variants of a validator in order: those of all variants of a union without discriminator, and a
validator of another kind alone. -/
def expand : Validator → List Validator
  | union variants none => expandAll variants
  | v => [v]

def expandAll : List Validator → List Validator
  | [] => []
  | v :: vs => v.expand ++ expandAll vs

end

theorem expandAll_eq (vs : List Validator) : expandAll vs = vs.flatMap expand := by
  induction vs with
  | nil => rfl
  | cons v vs ih => rw [expandAll, ih, List.flatMap_cons]

@[simp] theorem expand_union : (union vs none).expand = vs.flatMap expand := by
  rw [expand, expandAll_eq]

@[simp] theorem expand_object {fields : List (String × Validator)} {extra : ExtraPolicy} :
    (object fields extra).expand = [object fields extra] := by
  simp [expand]

theorem expand_orElse : (v.orElse w).expand = v.expand ++ w.expand := by
  unfold orElse
  split <;> simp

theorem expand_unionOf : (unionOf first rest).expand = (first :: rest).flatMap expand := by
  unfold unionOf
  induction rest generalizing first with
  | nil => simp
  | cons w rest ih => simp [ih, expand_orElse]

theorem expand_of_unionOf? (hv : unionOf? vs = some v) : v.expand = vs.flatMap expand := by
  cases vs with
  | nil => cases hv
  | cons first rest =>
    cases hv
    exact expand_unionOf

end ApiContract.Validator
