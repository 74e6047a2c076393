import ApiContract.Proofs.Validator.Fold

/-!
# Inside a validator

`v.Within w` says that `v` stands somewhere in `w`, at any depth and with `w` itself. What a validator
refers to is read off it: `w.Refers name` says that the reference `name` stands within `w`.
-/

namespace ApiContract.Validator

/-- The validators that a validator is made of directly. -/
def children : Validator → List Validator
  | .union variants _ => variants
  | .intersection parts => parts
  | .array item => [item]
  | .object fields _ => fields.map (·.2)
  | .record value => [value]
  | .transform base _ _ _ target => base :: target.toList
  | .optional base | .nullable base | .default base _ => [base]
  | .primitive _ | .literal _ | .enum _ | .never | .binary _ | .noContent | .ref _ => []

/-- The first validator stands somewhere in the second. -/
inductive Within (v : Validator) : Validator → Prop where
  | self : Within v v
  | child {w u : Validator} (member : w ∈ u.children) (inner : Within v w) : Within v u

theorem within_iff {v w : Validator} :
    v.Within w ↔ v = w ∨ ∃ u ∈ w.children, v.Within u := by
  constructor
  · rintro (_ | ⟨hu, hv⟩)
    · exact .inl rfl
    · exact .inr ⟨_, hu, hv⟩
  · rintro (rfl | ⟨u, hu, hv⟩)
    · exact .self
    · exact .child hu hv

theorem Within.trans {v w u : Validator} (hv : v.Within w) (hw : w.Within u) : v.Within u := by
  induction hw with
  | self => exact hv
  | child member _ ih => exact .child member ih

theorem sizeOf_lt_of_mem_children {v w : Validator} (h : v ∈ w.children) : sizeOf v < sizeOf w := by
  cases w with
  | primitive _ | literal _ | enum _ | never | binary _ | noContent | ref _ => cases h
  | union variants _ =>
    have := List.sizeOf_lt_of_mem (show v ∈ variants from h)
    simp only [union.sizeOf_spec]
    omega
  | intersection parts =>
    have := List.sizeOf_lt_of_mem (show v ∈ parts from h)
    simp only [intersection.sizeOf_spec]
    omega
  | object fields _ =>
    obtain ⟨⟨name, u⟩, hu, rfl⟩ := List.mem_map.1 h
    have := List.sizeOf_lt_of_mem (show (name, u) ∈ fields from hu)
    simp only [object.sizeOf_spec, Prod.mk.sizeOf_spec] at this ⊢
    omega
  | transform base _ _ _ target =>
    rcases List.mem_cons.1 h with rfl | h
    · simp only [transform.sizeOf_spec]
      omega
    · obtain rfl := Option.mem_toList.1 h
      simp only [transform.sizeOf_spec, Option.some.sizeOf_spec]
      omega
  | array base | record base | optional base | nullable base | default base _ =>
    obtain rfl := List.mem_singleton.1 h
    simp only [array.sizeOf_spec, record.sizeOf_spec, optional.sizeOf_spec, nullable.sizeOf_spec,
      default.sizeOf_spec]
    omega

/-- What holds of a validator if it holds of all that it is made of holds of every validator. -/
theorem induction {P : Validator → Prop} (step : ∀ v, (∀ w ∈ v.children, P w) → P v)
    (v : Validator) : P v :=
  step v fun w _ => induction step w
termination_by sizeOf v
decreasing_by exact sizeOf_lt_of_mem_children ‹_›

/-- What passes from variants to their union holds of a whole if it holds of all variants that this expands
to. -/
theorem of_expand {P : Validator → Prop} (hunion : ∀ vs, (∀ v ∈ vs, P v) → P (.union vs none))
    {v : Validator} (h : ∀ w ∈ v.expand, P w) : P v := by
  induction v using Validator.induction with
  | step v ih =>
    unfold expand at h
    split at h
    next variants =>
      rw [expandAll_eq] at h
      refine hunion variants fun w hw => ih w hw fun u hu => ?_
      exact h u (List.mem_flatMap.2 ⟨w, hw, hu⟩)
    next => exact h v (List.mem_singleton_self v)

/-! ## References -/

/-- A reference to `name` stands somewhere in the validator. -/
def Refers (v : Validator) (name : String) : Prop := (ref name).Within v

variable {name : String}

theorem refers_iff {v : Validator} (h : v ≠ ref name) :
    v.Refers name ↔ ∃ u ∈ v.children, u.Refers name := by
  unfold Refers
  rw [within_iff, or_iff_right (Ne.symm h)]

@[simp] theorem refers_ref {other : String} : (ref other).Refers name ↔ other = name := by
  unfold Refers
  rw [within_iff]
  simp [children, eq_comm]

theorem not_refers_of_leaf {v : Validator} (leaf : v.children = []) (h : v ≠ ref name) :
    ¬ v.Refers name := by
  simp [refers_iff h, leaf]

@[simp] theorem not_refers_primitive {p : Primitive} : ¬ (primitive p).Refers name :=
  not_refers_of_leaf rfl nofun

@[simp] theorem not_refers_literal {value : Value} : ¬ (literal value).Refers name :=
  not_refers_of_leaf rfl nofun

@[simp] theorem not_refers_enum {values : List String} : ¬ (enum values).Refers name :=
  not_refers_of_leaf rfl nofun

@[simp] theorem not_refers_never : ¬ never.Refers name := not_refers_of_leaf rfl nofun

@[simp] theorem not_refers_binary {form : BinaryForm} : ¬ (binary form).Refers name :=
  not_refers_of_leaf rfl nofun

@[simp] theorem not_refers_noContent : ¬ noContent.Refers name := not_refers_of_leaf rfl nofun

@[simp] theorem refers_union {variants : List Validator} {discriminator : Option String} :
    (union variants discriminator).Refers name ↔ ∃ v ∈ variants, v.Refers name :=
  refers_iff nofun

@[simp] theorem refers_intersection {parts : List Validator} :
    (intersection parts).Refers name ↔ ∃ v ∈ parts, v.Refers name :=
  refers_iff nofun

@[simp] theorem refers_array {item : Validator} : (array item).Refers name ↔ item.Refers name := by
  simp [refers_iff, children]

@[simp] theorem refers_object {fields : List (String × Validator)} {extra : ExtraPolicy} :
    (object fields extra).Refers name ↔ ∃ field ∈ fields, field.2.Refers name := by
  rw [refers_iff (v := object fields extra) nofun]
  simp only [children, List.mem_map, exists_exists_and_eq_and]

@[simp] theorem refers_record {value : Validator} :
    (record value).Refers name ↔ value.Refers name := by
  simp [refers_iff, children]

@[simp] theorem refers_transform {base : Validator} {direction : TransformDirection}
    {kind : TransformKind} {delimiter : Option String} {target : Option Validator} :
    (transform base direction kind delimiter target).Refers name ↔
      base.Refers name ∨ ∃ v ∈ target, v.Refers name := by
  simp [refers_iff, children]

@[simp] theorem refers_optional {base : Validator} :
    (optional base).Refers name ↔ base.Refers name := by
  simp [refers_iff, children]

@[simp] theorem refers_nullable {base : Validator} :
    (nullable base).Refers name ↔ base.Refers name := by
  simp [refers_iff, children]

@[simp] theorem refers_default {base : Validator} {value : Value} :
    (default base value).Refers name ↔ base.Refers name := by
  simp [refers_iff, children]

theorem refers_unionOf {first : Validator} {rest : List Validator} :
    (unionOf first rest).Refers name ↔ ∃ v ∈ first :: rest, v.Refers name :=
  unionOf_iff (P := fun v => v.Refers name) fun _ => refers_union

theorem refers_of_unionOf? {variants : List Validator} {v : Validator}
    (h : unionOf? variants = some v) : v.Refers name ↔ ∃ w ∈ variants, w.Refers name :=
  iff_of_unionOf? (P := fun v => v.Refers name) h fun _ => refers_union

theorem refers_of_intersectionOf? {parts : List Validator} {v : Validator}
    (h : intersectionOf? parts = some v) : v.Refers name ↔ ∃ w ∈ parts, w.Refers name :=
  exists_of_intersectionOf? (P := fun v => v.Refers name) h fun _ => refers_intersection

end ApiContract.Validator
