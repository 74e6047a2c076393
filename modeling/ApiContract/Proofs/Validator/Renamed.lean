import ApiContract.Proofs.Validator.Morphism
import ApiContract.Proofs.Validator.Within

/-!
# Validators under other names

`v.renamed f` is the validator with `f name` in place of each name that it refers to. A validator without
references, or with references that keep their names, stays as it is: `renamed_eq_self`.
-/

namespace ApiContract.Validator

variable (f : String → String)

mutual

def renamed : Validator → Validator
  | .ref name => .ref (f name)
  | .union variants discriminator => .union (renamedAll variants) discriminator
  | .intersection parts => .intersection (renamedAll parts)
  | .array item => .array item.renamed
  | .object fields extra => .object (renamedFields fields) extra
  | .record value => .record value.renamed
  | .transform base direction kind delimiter none =>
    .transform base.renamed direction kind delimiter none
  | .transform base direction kind delimiter (some target) =>
    .transform base.renamed direction kind delimiter (some target.renamed)
  | .optional base => .optional base.renamed
  | .nullable base => .nullable base.renamed
  | .default base value => .default base.renamed value
  | v => v

def renamedAll : List Validator → List Validator
  | [] => []
  | v :: rest => v.renamed :: renamedAll rest

def renamedFields : List (String × Validator) → List (String × Validator)
  | [] => []
  | (name, v) :: rest => (name, v.renamed) :: renamedFields rest

end

variable {f} {variants parts : List Validator} {fields : List (String × Validator)}
  {discriminator : Option String} {extra : ExtraPolicy} {v : Validator}

theorem renamedAll_eq_map : renamedAll f variants = variants.map (renamed f) := by
  induction variants with
  | nil => rfl
  | cons v rest ih => rw [renamedAll, ih, List.map_cons]

theorem renamedFields_eq_map :
    renamedFields f fields = fields.map fun e => (e.1, e.2.renamed f) := by
  induction fields with
  | nil => rfl
  | cons e rest ih => rw [renamedFields, ih, List.map_cons]

theorem renamed_union :
    (union variants discriminator).renamed f = .union (variants.map (renamed f)) discriminator := by
  rw [renamed, renamedAll_eq_map]

theorem renamed_intersection :
    (intersection parts).renamed f = .intersection (parts.map (renamed f)) := by
  rw [renamed, renamedAll_eq_map]

theorem renamed_object :
    (object fields extra).renamed f = .object (fields.map fun e => (e.1, e.2.renamed f)) extra := by
  rw [renamed, renamedFields_eq_map]

theorem renamed_transform {direction : TransformDirection} {kind : TransformKind}
    {delimiter : Option String} {target : Option Validator} :
    (transform v direction kind delimiter target).renamed f =
      .transform (v.renamed f) direction kind delimiter (target.map (renamed f)) := by
  cases target <;> rfl

theorem morphism_renamed (f : String → String) : Morphism (renamed f) where
  union _ _ := renamed_union
  intersection _ := renamed_intersection
  array _ := rfl
  object _ _ := renamed_object
  record _ := rfl
  optional _ := rfl
  nullable _ := rfl
  default _ _ := rfl
  of_union v variants h := by
    cases v with
    | union vs discriminator =>
      rw [renamed_union] at h
      cases h
      exact ⟨vs, rfl⟩
    | transform => rw [renamed_transform] at h; cases h
    | _ => cases h
  of_intersection v parts h := by
    cases v with
    | intersection vs => exact ⟨vs, rfl⟩
    | transform => rw [renamed_transform] at h; cases h
    | _ => cases h

/-- A validator all of whose references keep their names is not changed. -/
theorem renamed_eq_self (h : ∀ name, v.Refers name → f name = name) : v.renamed f = v := by
  induction v using Validator.induction with
  | step v ih =>
    have ih : ∀ w ∈ v.children, w.renamed f = w := by
      refine fun w hw => ih w hw fun name hname => h name ?_
      exact hname.trans (.child hw .self)
    have hall : ∀ vs : List Validator, vs ⊆ v.children → vs.map (renamed f) = vs := fun vs hvs =>
      (List.map_congr_left fun w hw => ih w (hvs hw)).trans (List.map_id _)
    cases v with
    | ref name => exact congrArg ref (h name (refers_ref.2 rfl))
    | union variants _ => rw [renamed_union, hall variants (List.Subset.refl _)]
    | intersection parts => rw [renamed_intersection, hall parts (List.Subset.refl _)]
    | object fields extra =>
      rw [renamed_object]
      refine congrArg (object · extra) ((List.map_congr_left fun e he => ?_).trans (List.map_id _))
      exact Prod.ext rfl (ih e.2 (List.mem_map_of_mem he))
    | transform base _ _ _ target =>
      rw [renamed_transform, ih base (.head _)]
      cases target with
      | none => rfl
      | some target => rw [Option.map_some, ih target (.tail _ (.head _))]
    | array base => exact congrArg array (ih base (.head _))
    | record base => exact congrArg record (ih base (.head _))
    | optional base => exact congrArg optional (ih base (.head _))
    | nullable base => exact congrArg nullable (ih base (.head _))
    | default base value => exact congrArg (default · value) (ih base (.head _))
    | _ => rfl

end ApiContract.Validator
