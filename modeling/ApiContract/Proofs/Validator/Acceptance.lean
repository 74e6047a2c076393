import ApiContract.Proofs.Value.Same
import ApiContract.Validator.Basic
import Mathlib.Tactic.Tauto

/-!
# What validators accept

`v.Accepts I value` says that a validator accepts a value that is there, and `v.AdmitsAbsence` that the
value may be left out, for which an object asks of the fields that it does not find. Patterns, named
checks, declarations, binary payloads and transforms are taken as an `Interpretation` has them.
-/

namespace ApiContract

open ApiContract.Number

/-! ## Numbers -/

/-- The place of a number among all numbers, in steps of the grid of doubles; the infinities stand
before and behind all the others, and a NaN has no place. -/
def Bound.place : Bound → Option (Int × Int)
  | .int i => some (0, i * Binary64.steps)
  | .float .nan => none
  | .float (.infinite negative) => some (if negative then -1 else 1, 0)
  | .float (.finite negative m e) => some (0, Binary64.inSteps negative m e)

/-- The first number is not greater than the second. -/
def Bound.AtMost (a b : Bound) : Prop :=
  ∃ x ∈ a.place, ∃ y ∈ b.place, x.1 < y.1 ∨ x.1 = y.1 ∧ x.2 ≤ y.2

namespace Value

/-- The number that a value is, if it is one. -/
def number? : Value → Option Bound
  | .int i => some (.int i)
  | .float x => some (.float x)
  | _ => none

/-- A number without a fraction. -/
def IsInteger : Value → Prop
  | .int _ => True
  | .float x => x.toInt?.isSome = true
  | _ => False

/-- If the value is a number, it lies within the bounds. -/
def InBounds (minimum maximum : Option Bound) (v : Value) : Prop :=
  ∀ n ∈ v.number?, (∀ b ∈ minimum, b.AtMost n) ∧ ∀ b ∈ maximum, n.AtMost b

end Value

/-- A text has a length within the bounds. -/
def InLength (minLength maxLength : Option Int) (text : String) : Prop :=
  (∀ n ∈ minLength, n ≤ text.length) ∧ ∀ n ∈ maxLength, text.length ≤ n

/-! ## Acceptance -/

/-- What validators take from outside. -/
structure Interpretation where
  /-- The text matches the pattern. -/
  Matches : (pattern text : String) → Prop
  /-- The text passes the check. -/
  Passes : StringCheck → (text : String) → Prop
  /-- The value is one of the declaration of this name. -/
  Declared : (name : String) → Value → Prop
  /-- The value is a binary payload in this form. -/
  Binary : BinaryForm → Value → Prop
  /-- The transform makes the second value of the first. -/
  Makes : TransformDirection → TransformKind → (delimiter : Option String) → Value → Value → Prop

/-- The value is of the type. -/
def PrimitiveType.Holds : PrimitiveType → Value → Prop
  | .null, v => v = .null
  | .boolean, v => ∃ b, v = .bool b
  | .string, v => ∃ s, v = .text s
  | .number, v => v.number?.isSome = true
  | .integer, v => v.IsInteger
  | .date, v => ∃ d, v = .scalar (.date d)
  | .datetime, v => ∃ t, v = .scalar (.timestamp t)

/-- The value is of the type, and it meets the constraints if they apply to it. -/
def Primitive.Accepts (I : Interpretation) (p : Primitive) (v : Value) : Prop :=
  p.type.Holds v ∧
    (∀ s, v = .text s → InLength p.minLength p.maxLength s ∧ (∀ pattern ∈ p.pattern, I.Matches pattern s) ∧
      ∀ check ∈ p.check, I.Passes check s) ∧
    v.InBounds p.minimum p.maximum

namespace Validator

/-- The value may be absent. -/
inductive AdmitsAbsence : Validator → Prop where
  | optional {base : Validator} : AdmitsAbsence (.optional base)
  | default {base : Validator} {value : Value} : AdmitsAbsence (.default base value)
  | nullable {base : Validator} (h : AdmitsAbsence base) : AdmitsAbsence (.nullable base)
  | transform {base : Validator} {direction : TransformDirection} {kind : TransformKind}
    {delimiter : Option String} {target : Option Validator} (h : AdmitsAbsence base) :
    AdmitsAbsence (.transform base direction kind delimiter target)
  | union {variants : List Validator} {discriminator : Option String} {v : Validator}
    (member : v ∈ variants) (h : AdmitsAbsence v) : AdmitsAbsence (.union variants discriminator)
  | intersection {parts : List Validator} (h : ∀ v ∈ parts, AdmitsAbsence v) :
    AdmitsAbsence (.intersection parts)

/-- The validator accepts the value. -/
inductive Accepts (I : Interpretation) : Validator → Value → Prop where
  | primitive {p : Primitive} {v : Value} (h : p.Accepts I v) : Accepts I (.primitive p) v
  | literal {value v : Value} (h : v.same value = true) : Accepts I (.literal value) v
  | enum {values : List String} {s : String} (h : s ∈ values) : Accepts I (.enum values) (.text s)
  | binary {form : BinaryForm} {v : Value} (h : I.Binary form v) : Accepts I (.binary form) v
  | ref {name : String} {v : Value} (h : I.Declared name v) : Accepts I (.ref name) v
  | union {variants : List Validator} {discriminator : Option String} {w : Validator} {v : Value}
    (member : w ∈ variants) (h : Accepts I w v) : Accepts I (.union variants discriminator) v
  | intersection {parts : List Validator} {v : Value} (h : ∀ w ∈ parts, Accepts I w v) :
    Accepts I (.intersection parts) v
  | array {item : Validator} {items : List Value} (h : ∀ v ∈ items, Accepts I item v) :
    Accepts I (.array item) (.list items)
  | object {fields : List (String × Validator)} {extra : ExtraPolicy}
    {entries : List (Scalar × Value)}
    (present : ∀ f ∈ fields, ∀ v, Value.find? f.1 entries = some v → Accepts I f.2 v)
    (absent : ∀ f ∈ fields, Value.find? f.1 entries = none → f.2.AdmitsAbsence)
    (listed : extra = .closed → ∀ e ∈ entries, ∃ f ∈ fields, e.1 = .text f.1) :
    Accepts I (.object fields extra) (.map entries)
  | record {value : Validator} {entries : List (Scalar × Value)}
    (h : ∀ e ∈ entries, Accepts I value e.2) : Accepts I (.record value) (.map entries)
  | passes {base : Validator} {direction : TransformDirection} {kind : TransformKind}
    {delimiter : Option String} {v : Value} (h : Accepts I base v) :
    Accepts I (.transform base direction kind delimiter none) v
  | becomes {base target : Validator} {direction : TransformDirection} {kind : TransformKind}
    {delimiter : Option String} {v w : Value} (h : Accepts I base v)
    (made : I.Makes direction kind delimiter v w) (result : Accepts I target w) :
    Accepts I (.transform base direction kind delimiter (some target)) v
  | optional {base : Validator} {v : Value} (h : Accepts I base v) : Accepts I (.optional base) v
  | null {base : Validator} : Accepts I (.nullable base) .null
  | nullable {base : Validator} {v : Value} (h : Accepts I base v) : Accepts I (.nullable base) v
  | default {base : Validator} {value v : Value} (h : Accepts I base v) :
    Accepts I (.default base value) v

variable {I : Interpretation} {v : Value}

/-! ## Acceptance, shape by shape -/

@[simp] theorem accepts_primitive {p : Primitive} : (primitive p).Accepts I v ↔ p.Accepts I v :=
  ⟨fun | .primitive h => h, .primitive⟩

@[simp] theorem accepts_literal {value : Value} :
    (literal value).Accepts I v ↔ v.same value = true :=
  ⟨fun | .literal h => h, .literal⟩

@[simp] theorem accepts_enum {values : List String} :
    (enum values).Accepts I v ↔ ∃ s ∈ values, v = .text s :=
  ⟨fun | .enum h => ⟨_, h, rfl⟩, fun | ⟨_, h, e⟩ => e ▸ .enum h⟩

@[simp] theorem not_accepts_never : ¬ never.Accepts I v := nofun

@[simp] theorem accepts_ref {name : String} : (ref name).Accepts I v ↔ I.Declared name v :=
  ⟨fun | .ref h => h, .ref⟩

@[simp] theorem accepts_union {variants : List Validator} {discriminator : Option String} :
    (union variants discriminator).Accepts I v ↔ ∃ w ∈ variants, w.Accepts I v :=
  ⟨fun | .union member h => ⟨_, member, h⟩, fun | ⟨_, member, h⟩ => .union member h⟩

@[simp] theorem accepts_intersection {parts : List Validator} :
    (intersection parts).Accepts I v ↔ ∀ w ∈ parts, w.Accepts I v :=
  ⟨fun | .intersection h => h, .intersection⟩

@[simp] theorem accepts_array {item : Validator} :
    (array item).Accepts I v ↔ ∃ items, v = .list items ∧ ∀ w ∈ items, item.Accepts I w :=
  ⟨fun | .array h => ⟨_, rfl, h⟩, fun | ⟨_, e, h⟩ => e ▸ .array h⟩

theorem accepts_object {fields : List (String × Validator)} {extra : ExtraPolicy} :
    (object fields extra).Accepts I v ↔ ∃ entries, v = .map entries ∧
      (∀ f ∈ fields, ∀ w, Value.find? f.1 entries = some w → f.2.Accepts I w) ∧
      (∀ f ∈ fields, Value.find? f.1 entries = none → f.2.AdmitsAbsence) ∧
      (extra = .closed → ∀ e ∈ entries, ∃ f ∈ fields, e.1 = .text f.1) :=
  ⟨fun | .object present absent listed => ⟨_, rfl, present, absent, listed⟩,
    fun | ⟨_, e, present, absent, listed⟩ => e ▸ .object present absent listed⟩

theorem accepts_record {value : Validator} :
    (record value).Accepts I v ↔ ∃ entries, v = .map entries ∧ ∀ e ∈ entries, value.Accepts I e.2 :=
  ⟨fun | .record h => ⟨_, rfl, h⟩, fun | ⟨_, e, h⟩ => e ▸ .record h⟩

@[simp] theorem accepts_optional {base : Validator} :
    (optional base).Accepts I v ↔ base.Accepts I v :=
  ⟨fun | .optional h => h, .optional⟩

@[simp] theorem accepts_nullable {base : Validator} :
    (nullable base).Accepts I v ↔ v = .null ∨ base.Accepts I v :=
  ⟨fun | .null => .inl rfl | .nullable h => .inr h, fun | .inl e => e ▸ .null | .inr h => .nullable h⟩

@[simp] theorem accepts_default {base : Validator} {value : Value} :
    (default base value).Accepts I v ↔ base.Accepts I v :=
  ⟨fun | .default h => h, .default⟩

/-! ## Absence, shape by shape -/

@[simp] theorem admitsAbsence_optional {base : Validator} : (optional base).AdmitsAbsence := .optional

@[simp] theorem admitsAbsence_default {base : Validator} {value : Value} :
    (default base value).AdmitsAbsence := .default

@[simp] theorem admitsAbsence_nullable {base : Validator} :
    (nullable base).AdmitsAbsence ↔ base.AdmitsAbsence :=
  ⟨fun | .nullable h => h, .nullable⟩

@[simp] theorem admitsAbsence_transform {base : Validator} {direction : TransformDirection}
    {kind : TransformKind} {delimiter : Option String} {target : Option Validator} :
    (transform base direction kind delimiter target).AdmitsAbsence ↔ base.AdmitsAbsence :=
  ⟨fun | .transform h => h, .transform⟩

@[simp] theorem admitsAbsence_union {variants : List Validator} {discriminator : Option String} :
    (union variants discriminator).AdmitsAbsence ↔ ∃ w ∈ variants, w.AdmitsAbsence :=
  ⟨fun | .union member h => ⟨_, member, h⟩, fun | ⟨_, member, h⟩ => .union member h⟩

@[simp] theorem admitsAbsence_intersection {parts : List Validator} :
    (intersection parts).AdmitsAbsence ↔ ∀ w ∈ parts, w.AdmitsAbsence :=
  ⟨fun | .intersection h => h, .intersection⟩

end Validator

end ApiContract
