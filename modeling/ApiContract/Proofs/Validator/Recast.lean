import ApiContract.Mode
import ApiContract.Proofs.Validator.Morphism
import ApiContract.Proofs.Validator.Within

/-!
# Dates in other crossings

A date that is parsed holds all that is known of it: the string that stands for it on the wire, and its
native validator, which may be null or have a default. From these two it takes another form in each
crossing (`dateForm`), and `v.recast x` is the validator `v` with each parsed date in its form for `x`.
Everything else is as it was.
-/

namespace ApiContract.Validator

/-- The validator with another core behind `nullable` and a default. -/
def recore (core : Validator) : Validator → Validator
  | .nullable base => .nullable (recore core base)
  | .default base value => .default (recore core base) value
  | _ => core

/-- The form of a date in a crossing: native inside a handler, the string itself in the shape of the
wire, and else the passage from one to the other. -/
def dateForm (wire native : Primitive) (kind : TransformKind) (typed : Validator) : Crossing → Validator
  | .handler => recore (.primitive native) typed
  | .request => recore (.primitive wire) typed
  | .parse => .transform (.primitive wire) .parse kind none (some typed)
  | .stringify => .transform typed .stringify kind none none

/-- A parsed date in its form for a crossing; what is no parsed date stays. -/
def castDate (x : Crossing) : Validator → Validator
  | .transform (.primitive wire) .parse .date none (some typed) =>
    dateForm wire { type := .date } .date typed x
  | .transform (.primitive wire) .parse .dateTime none (some typed) =>
    dateForm wire { type := .datetime } .dateTime typed x
  | v => v

mutual

def recast (x : Crossing) : Validator → Validator
  | .transform base direction kind delimiter target =>
    castDate x (.transform base direction kind delimiter target)
  | .union variants discriminator => .union (recastAll x variants) discriminator
  | .intersection parts => .intersection (recastAll x parts)
  | .array item => .array (recast x item)
  | .object fields extra => .object (recastFields x fields) extra
  | .record value => .record (recast x value)
  | .optional base => .optional (recast x base)
  | .nullable base => .nullable (recast x base)
  | .default base value => .default (recast x base) value
  | v => v

def recastAll (x : Crossing) : List Validator → List Validator
  | [] => []
  | v :: rest => recast x v :: recastAll x rest

def recastFields (x : Crossing) : List (String × Validator) → List (String × Validator)
  | [] => []
  | (name, v) :: rest => (name, recast x v) :: recastFields x rest

end

variable {x : Crossing} {variants parts : List Validator} {fields : List (String × Validator)}
  {discriminator : Option String} {extra : ExtraPolicy} {v : Validator} {wire native : Primitive}
  {kind : TransformKind}

theorem recastAll_eq_map : recastAll x variants = variants.map (recast x) := by
  induction variants with
  | nil => rfl
  | cons v rest ih => rw [recastAll, ih, List.map_cons]

theorem recastFields_eq_map : recastFields x fields = fields.map fun f => (f.1, recast x f.2) := by
  induction fields with
  | nil => rfl
  | cons f rest ih => rw [recastFields, ih, List.map_cons]

theorem recast_union :
    recast x (.union variants discriminator) = .union (variants.map (recast x)) discriminator := by
  rw [recast, recastAll_eq_map]

theorem recast_intersection :
    recast x (.intersection parts) = .intersection (parts.map (recast x)) := by
  rw [recast, recastAll_eq_map]

theorem recast_object :
    recast x (.object fields extra) = .object (fields.map fun f => (f.1, recast x f.2)) extra := by
  rw [recast, recastFields_eq_map]

theorem recast_of_leaf (leaf : v.children = []) : recast x v = v := by
  cases v <;> simp_all [children, recast, recastAll, recastFields]

/-! ## Dates make no compositions -/

/-- The validator is of a kind that folds open: a union without discriminator, or an intersection. -/
def Opens : Validator → Prop
  | .union _ none | .intersection _ => True
  | _ => False

theorem not_opens_recore {p : Primitive} : ¬ (recore (.primitive p) v).Opens := by
  cases v <;> simp [recore, Opens]

theorem not_opens_dateForm : ¬ (dateForm wire native kind v x).Opens := by
  cases x with
  | handler | request => exact not_opens_recore
  | parse | stringify => exact not_false

theorem not_opens_castDate (h : ¬ v.Opens) : ¬ (castDate x v).Opens := by
  unfold castDate
  split
  next => exact not_opens_dateForm
  next => exact not_opens_dateForm
  next => exact h

theorem not_opens_recast_transform (base : Validator) (direction : TransformDirection)
    (kind : TransformKind) (delimiter : Option String) (target : Option Validator) :
    ¬ (recast x (.transform base direction kind delimiter target)).Opens := by
  rw [recast]
  exact not_opens_castDate not_false

theorem morphism_recast (x : Crossing) : Morphism (recast x) where
  union _ _ := recast_union
  intersection _ := recast_intersection
  array _ := by rw [recast]
  object _ _ := recast_object
  record _ := by rw [recast]
  optional _ := by rw [recast]
  nullable _ := by rw [recast]
  default _ _ := by rw [recast]
  of_union v variants h := by
    cases v with
    | union vs discriminator =>
      rw [recast_union] at h
      cases h
      exact ⟨vs, rfl⟩
    | transform base direction kind delimiter target =>
      have hnot := not_opens_recast_transform (x := x) base direction kind delimiter target
      rw [h] at hnot
      exact absurd trivial hnot
    | _ => simp [recast] at h
  of_intersection v parts h := by
    cases v with
    | intersection vs => exact ⟨vs, rfl⟩
    | transform base direction kind delimiter target =>
      have hnot := not_opens_recast_transform (x := x) base direction kind delimiter target
      rw [h] at hnot
      exact absurd trivial hnot
    | _ => simp [recast] at h

end ApiContract.Validator
