import ApiContract.Proofs.Validator.Within

/-!
# Transforms within a validator

`v.Transforms t` says that the transform `t` stands somewhere in `v`. Where a validator stands is told by
the transforms around it: `v.Occurs around w` lists them from the outside to the inside, each with the
side on which `v` stands, that of the strings or that of the typed values. A date is native when it is a
value of its own type and not a string.
-/

namespace ApiContract

/-- The kind of the transforms that dates of a native type pass through. -/
def PrimitiveType.dateKind? : PrimitiveType → Option TransformKind
  | .date => some .date
  | .datetime => some .dateTime
  | .null | .boolean | .string | .number | .integer => none

/-- The parts of a transform. -/
structure Transform where
  base : Validator
  direction : TransformDirection
  kind : TransformKind
  delimiter : Option String
  target : Option Validator

namespace Transform

def validator (t : Transform) : Validator :=
  .transform t.base t.direction t.kind t.delimiter t.target

/-- What is parsed is checked by a target, and what is written is not; items that are joined, and they
alone, have a delimiter between them. -/
structure WellFormed (t : Transform) : Prop where
  parse : t.direction = .parse → t.target.isSome = true ∧ t.delimiter = none
  stringify : t.direction = .stringify → t.target = none
  delimiter : t.delimiter.isSome = true ↔ t.kind = .join

end Transform

/-- A transform around a place, and whether the place is on the side of its typed values: the base of
what is written, the target of what is parsed. -/
structure Enclosure where
  kind : TransformKind
  typed : Bool

namespace Validator

/-- The transform stands somewhere in the validator. -/
def Transforms (v : Validator) (t : Transform) : Prop := t.validator.Within v

/-- The first validator stands somewhere in the second, inside the transforms of a list. -/
inductive Occurs (v : Validator) : List Enclosure → Validator → Prop where
  | self : Occurs v [] v
  | child {around : List Enclosure} {w u : Validator} (outer : ∀ t : Transform, u ≠ t.validator)
    (member : w ∈ u.children) (inner : Occurs v around w) : Occurs v around u
  | base {around : List Enclosure} {t : Transform} (inner : Occurs v around t.base) :
    Occurs v (⟨t.kind, t.direction == .stringify⟩ :: around) t.validator
  | target {around : List Enclosure} {t : Transform} {w : Validator} (checked : t.target = some w)
    (inner : Occurs v around w) :
    Occurs v (⟨t.kind, t.direction == .parse⟩ :: around) t.validator

/-- Neither a transform nor a native date. -/
def IsOrdinary : Validator → Prop
  | .transform .. => False
  | .primitive p => p.type.dateKind? = none
  | _ => True

variable {v w base typed : Validator} {t : Transform} {around : List Enclosure} {p q : Primitive}
  {direction : TransformDirection} {kind : TransformKind} {delimiter : Option String}
  {checked : Option Validator}

theorem IsOrdinary.ne_transform (h : v.IsOrdinary) (t : Transform) : v ≠ t.validator := by
  rintro rfl
  exact h

theorem IsOrdinary.ne_date (h : v.IsOrdinary) (hp : p.type.dateKind? = some kind) :
    v ≠ primitive p := by
  rintro rfl
  exact Option.some_ne_none kind (hp.symm.trans h)

theorem primitive_ne_transform (t : Transform) : primitive p ≠ t.validator := by
  intro h
  cases h

/-! ## Transforms -/

theorem transforms_iff (h : ∀ t : Transform, v ≠ t.validator) :
    v.Transforms t ↔ ∃ w ∈ v.children, w.Transforms t := by
  unfold Transforms
  rw [within_iff, or_iff_right (h t).symm]

theorem transforms_nullable : (nullable v).Transforms t ↔ v.Transforms t := by
  rw [transforms_iff (v := nullable v) (IsOrdinary.ne_transform trivial)]
  simp [children]

theorem transforms_default {value : Value} : (default v value).Transforms t ↔ v.Transforms t := by
  rw [transforms_iff (v := default v value) (IsOrdinary.ne_transform trivial)]
  simp [children]

theorem not_transforms_primitive : ¬ (primitive p).Transforms t := by
  rw [transforms_iff primitive_ne_transform]
  simp [children]

theorem transforms_transform :
    (transform base direction kind delimiter checked).Transforms t ↔
      t = ⟨base, direction, kind, delimiter, checked⟩ ∨ base.Transforms t ∨
        ∃ w ∈ checked, w.Transforms t := by
  obtain ⟨b, d, k, l, c⟩ := t
  unfold Transforms
  rw [within_iff]
  simp [Transform.validator, children]

/-! ## Occurrences -/

theorem occurs_iff (h : v.IsOrdinary) (hw : v ≠ w) :
    w.Occurs around v ↔ ∃ u ∈ v.children, w.Occurs around u := by
  constructor
  · intro hv
    cases hv with
    | self => exact absurd rfl hw
    | child _ member inner => exact ⟨_, member, inner⟩
    | base => exact absurd rfl (h.ne_transform _)
    | target => exact absurd rfl (h.ne_transform _)
  · rintro ⟨u, hu, hw⟩
    exact .child h.ne_transform hu hw

theorem occurs_nullable (hw : w ≠ nullable v) : w.Occurs around (nullable v) ↔ w.Occurs around v := by
  rw [occurs_iff (v := nullable v) trivial hw.symm]
  simp [children]

theorem occurs_default {value : Value} (hw : w ≠ default v value) :
    w.Occurs around (default v value) ↔ w.Occurs around v := by
  rw [occurs_iff (v := default v value) trivial hw.symm]
  simp [children]

theorem occurs_primitive : (primitive p).Occurs around (primitive q) ↔ around = [] ∧ p = q := by
  constructor
  · generalize hv : primitive q = v
    intro h
    cases h with
    | self =>
      cases hv
      exact ⟨rfl, rfl⟩
    | child _ member =>
      subst hv
      cases member
    | base => exact absurd hv (primitive_ne_transform _)
    | target => exact absurd hv (primitive_ne_transform _)
  · rintro ⟨rfl, rfl⟩
    exact .self

/-- What is written is typed. -/
theorem occurs_stringify (h : w.Occurs around (transform base .stringify kind delimiter none))
    (hw : ∀ t : Transform, w ≠ t.validator) :
    ∃ inside, around = ⟨kind, true⟩ :: inside ∧ w.Occurs inside base := by
  generalize hv : transform base .stringify kind delimiter none = v at h
  cases h with
  | self => exact absurd hv.symm (hw ⟨_, _, _, _, _⟩)
  | child outer => exact absurd hv.symm (outer ⟨_, _, _, _, _⟩)
  | @base _ t inner =>
    obtain ⟨b, d, k, l, c⟩ := t
    cases hv
    exact ⟨_, rfl, inner⟩
  | @target _ t _ checked =>
    obtain ⟨b, d, k, l, c⟩ := t
    cases hv
    cases checked

/-- What is parsed is typed behind the strings. -/
theorem occurs_parse (h : w.Occurs around (transform base .parse kind delimiter (some typed)))
    (hw : ∀ t : Transform, w ≠ t.validator) (hbase : ∀ inside, ¬ w.Occurs inside base) :
    ∃ inside, around = ⟨kind, true⟩ :: inside ∧ w.Occurs inside typed := by
  generalize hv : transform base .parse kind delimiter (some typed) = v at h
  cases h with
  | self => exact absurd hv.symm (hw ⟨_, _, _, _, _⟩)
  | child outer => exact absurd hv.symm (outer ⟨_, _, _, _, _⟩)
  | @base _ t inner =>
    obtain ⟨b, d, k, l, c⟩ := t
    cases hv
    exact absurd inner (hbase _)
  | @target _ t _ checked inner =>
    obtain ⟨b, d, k, l, c⟩ := t
    cases hv
    cases checked
    exact ⟨_, rfl, inner⟩

/-- A validator that stands somewhere stands inside some transforms, none or more. -/
theorem within_iff_occurs : v.Within w ↔ ∃ around, v.Occurs around w := by
  constructor
  · intro h
    induction h with
    | self => exact ⟨[], .self⟩
    | @child w u member _ ih =>
      obtain ⟨around, ih⟩ := ih
      by_cases hu : ∃ t : Transform, u = t.validator
      · obtain ⟨t, rfl⟩ := hu
        rcases List.mem_cons.1 member with rfl | hw
        · exact ⟨_, .base ih⟩
        · exact ⟨_, .target (Option.mem_toList.1 hw) ih⟩
      · exact ⟨around, .child (fun t ht => hu ⟨t, ht⟩) member ih⟩
  · rintro ⟨around, h⟩
    induction h with
    | self => exact .self
    | child _ member _ ih => exact .child member ih
    | base _ ih => exact .child List.mem_cons_self ih
    | target checked _ ih => exact .child (List.mem_cons_of_mem _ (Option.mem_toList.2 checked)) ih

end Validator

end ApiContract
