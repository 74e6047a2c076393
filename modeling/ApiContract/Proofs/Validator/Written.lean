import ApiContract.Proofs.Validator.Morphism
import ApiContract.Proofs.Validator.Within

/-!
# Parsing and writing

`v.written` is the validator of values that are written to strings where `v` parses them: for every
transform that parses strings of one form and checks the value by a typed validator, there stands the
transform that writes the values of this typed validator. Everything else is as it was.
-/

namespace ApiContract.Validator

mutual

def written : Validator → Validator
  | .transform _ .parse kind none (some typed) => .transform typed .stringify kind none none
  | .union variants discriminator => .union (writtenAll variants) discriminator
  | .intersection parts => .intersection (writtenAll parts)
  | .array item => .array item.written
  | .object fields extra => .object (writtenFields fields) extra
  | .record value => .record value.written
  | .optional base => .optional base.written
  | .nullable base => .nullable base.written
  | .default base value => .default base.written value
  | v => v

def writtenAll : List Validator → List Validator
  | [] => []
  | v :: rest => v.written :: writtenAll rest

def writtenFields : List (String × Validator) → List (String × Validator)
  | [] => []
  | (name, v) :: rest => (name, v.written) :: writtenFields rest

end

variable {variants parts : List Validator} {fields : List (String × Validator)}
  {discriminator : Option String} {extra : ExtraPolicy} {v w : Validator}

theorem writtenAll_eq_map : writtenAll variants = variants.map written := by
  induction variants with
  | nil => rfl
  | cons v rest ih => rw [writtenAll, ih, List.map_cons]

theorem writtenFields_eq_map : writtenFields fields = fields.map fun f => (f.1, f.2.written) := by
  induction fields with
  | nil => rfl
  | cons f rest ih => rw [writtenFields, ih, List.map_cons]

@[simp] theorem written_union :
    (union variants discriminator).written = .union (variants.map written) discriminator := by
  show union (writtenAll variants) discriminator = _
  rw [writtenAll_eq_map]

@[simp] theorem written_intersection :
    (intersection parts).written = .intersection (parts.map written) := by
  show intersection (writtenAll parts) = _
  rw [writtenAll_eq_map]

@[simp] theorem written_array : (array v).written = .array v.written := rfl

@[simp] theorem written_object :
    (object fields extra).written = .object (fields.map fun f => (f.1, f.2.written)) extra := by
  show object (writtenFields fields) extra = _
  rw [writtenFields_eq_map]

@[simp] theorem written_record : (record v).written = .record v.written := rfl

@[simp] theorem written_optional : (optional v).written = .optional v.written := rfl

@[simp] theorem written_nullable : (nullable v).written = .nullable v.written := rfl

@[simp] theorem written_default {value : Value} :
    (default v value).written = .default v.written value := rfl

/-- What is parsed is written by its typed validator. -/
@[simp] theorem written_parse {kind : TransformKind} :
    (transform v .parse kind none (some w)).written = .transform w .stringify kind none none := rfl

theorem written_of_leaf (leaf : v.children = []) : v.written = v := by
  cases v <;> simp_all [children, written, writtenAll, writtenFields]

theorem morphism_written : Morphism written where
  union _ _ := written_union
  intersection _ := written_intersection
  array _ := rfl
  object _ _ := written_object
  record _ := rfl
  optional _ := rfl
  nullable _ := rfl
  default _ _ := rfl
  of_union v variants h := by
    cases v with
    | union vs discriminator =>
      rw [written_union] at h
      cases h
      exact ⟨vs, rfl⟩
    | transform base direction kind delimiter target =>
      cases direction <;> cases delimiter <;> cases target <;> cases h
    | _ => cases h
  of_intersection v parts h := by
    cases v with
    | intersection vs => exact ⟨vs, rfl⟩
    | transform base direction kind delimiter target =>
      cases direction <;> cases delimiter <;> cases target <;> cases h
    | _ => cases h

end ApiContract.Validator
