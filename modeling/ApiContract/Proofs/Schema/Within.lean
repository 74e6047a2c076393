import ApiContract.Schema.Compile
import Mathlib.Logic.Basic

/-!
# Inside a schema

`s.Within t` says that the schema `s` stands somewhere in `t`, at any depth and with `t` itself. Proofs
about all schemas go by `Schema.induction`, from the schemas that one is made of directly to itself. The
three compositions differ only in how their branches are combined: `Combination` holds what they share,
and `Schema.shapes` splits the schemas into the compositions and the five other shapes.
-/

namespace ApiContract

/-- The schema for keys that are not listed, if there is one. -/
def ExtraKeys.schema? {σ : Type} : ExtraKeys σ → Option σ
  | .typed schema => some schema
  | .unstated | .allowed _ => none

namespace Schema

/-- The schemas that a schema is made of directly. -/
def children : Schema → List Schema
  | .oneOf _ variants _ | .anyOf _ variants | .allOf _ variants => variants
  | .array _ items => [items]
  | .object _ properties _ extra => (properties.getD []).map (·.2) ++ extra.schema?.toList
  | .ref _ _ | .enum _ _ | .scalar _ _ => []

theorem items_mem_children {notes : Annotations} {items : Schema} :
    items ∈ (array notes items).children := List.mem_singleton_self _

theorem property_mem_children {notes : Annotations} {properties : Option (List (String × Schema))}
    {required : List String} {extra : ExtraKeys Schema} {p : String × Schema}
    (h : p ∈ properties.getD []) : p.2 ∈ (object notes properties required extra).children :=
  List.mem_append_left _ (List.mem_map_of_mem h)

theorem extra_mem_children {notes : Annotations} {properties : Option (List (String × Schema))}
    {required : List String} {extra : ExtraKeys Schema} {schema : Schema}
    (h : extra.schema? = some schema) :
    schema ∈ (object notes properties required extra).children := by
  apply List.mem_append_right
  rw [h]
  exact List.mem_singleton_self _

/-- The first schema stands somewhere in the second. -/
inductive Within (s : Schema) : Schema → Prop where
  | self : Within s s
  | child {t u : Schema} (member : t ∈ u.children) (inner : Within s t) : Within s u

theorem within_iff {s t : Schema} : s.Within t ↔ s = t ∨ ∃ u ∈ t.children, s.Within u := by
  constructor
  · rintro (_ | ⟨hu, hs⟩)
    · exact .inl rfl
    · exact .inr ⟨_, hu, hs⟩
  · rintro (rfl | ⟨u, hu, hs⟩)
    · exact .self
    · exact .child hu hs

/-- What holds at every depth of a schema holds of it and at every depth of its children. -/
theorem forall_within_iff {P : Schema → Prop} {schema : Schema} :
    (∀ t : Schema, t.Within schema → P t) ↔
      P schema ∧ ∀ u ∈ schema.children, ∀ t : Schema, t.Within u → P t := by
  constructor
  · exact fun h => ⟨h schema .self, fun u hu t ht => h t (.child hu ht)⟩
  · rintro ⟨hhere, hchildren⟩ t ht
    rcases within_iff.1 ht with rfl | ⟨u, hu, hwithin⟩
    · exact hhere
    · exact hchildren u hu t hwithin

theorem sizeOf_lt_of_mem_children {s t : Schema} (h : s ∈ t.children) : sizeOf s < sizeOf t := by
  cases t with
  | ref _ _ | enum _ _ | scalar _ _ => simp [children] at h
  | oneOf _ variants _ | anyOf _ variants | allOf _ variants =>
    have := List.sizeOf_lt_of_mem (show s ∈ variants from h)
    simp only [oneOf.sizeOf_spec, anyOf.sizeOf_spec, allOf.sizeOf_spec]
    omega
  | array _ items =>
    obtain rfl : s = items := by simpa [children] using h
    simp only [array.sizeOf_spec]
    omega
  | object _ properties _ extra =>
    rcases List.mem_append.1 h with h | h
    · cases properties with
      | none => cases h
      | some properties =>
        obtain ⟨⟨name, t⟩, ht, rfl⟩ := List.mem_map.1 h
        have := List.sizeOf_lt_of_mem (show (name, t) ∈ properties from ht)
        simp only [object.sizeOf_spec, Option.some.sizeOf_spec, Prod.mk.sizeOf_spec] at this ⊢
        omega
    · cases extra with
      | unstated | allowed _ => simp [ExtraKeys.schema?] at h
      | typed t =>
        obtain rfl : s = t := by simpa [ExtraKeys.schema?] using h
        simp only [object.sizeOf_spec, ExtraKeys.typed.sizeOf_spec]
        omega

/-- What holds of a schema if it holds of all that it is made of holds of every schema. -/
theorem induction {P : Schema → Prop} (step : ∀ schema, (∀ t ∈ schema.children, P t) → P schema)
    (schema : Schema) : P schema :=
  step schema fun t _ => induction step t
termination_by sizeOf schema
decreasing_by exact sizeOf_lt_of_mem_children ‹_›

/-! ## Compositions -/

/-- A composition: its branches, and how their validators are combined. -/
structure Combination where
  notes : Annotations
  variants : List Schema
  keyword : String
  combine : List Validator → Option Validator

/-- A schema that composes others. -/
inductive Composes : Schema → Combination → Prop where
  | oneOf (notes : Annotations) (variants : List Schema) (discriminator : Option String) :
    Composes (.oneOf notes variants discriminator)
      ⟨notes, variants, "oneOf", alternatives discriminator⟩
  | anyOf (notes : Annotations) (variants : List Schema) :
    Composes (.anyOf notes variants) ⟨notes, variants, "anyOf", Validator.unionOf?⟩
  | allOf (notes : Annotations) (variants : List Schema) :
    Composes (.allOf notes variants) ⟨notes, variants, "allOf", Validator.intersectionOf?⟩

theorem Composes.children {schema : Schema} {k : Combination} (h : schema.Composes k) :
    schema.children = k.variants := by cases h <;> rfl

theorem Composes.notes {schema : Schema} {k : Combination} (h : schema.Composes k) :
    schema.notes = k.notes := by cases h <;> rfl

theorem Composes.unique {schema : Schema} {k k' : Combination} (h : schema.Composes k)
    (h' : schema.Composes k') : k = k' := by
  cases h <;> cases h' <;> rfl

/-- A property that a union has when one of its variants does is had so by the validator of a `oneOf`. -/
theorem iff_of_alternatives {P : Validator → Prop} {discriminator : Option String}
    {variants : List Validator} {v : Validator} (hv : alternatives discriminator variants = some v)
    (h : ∀ variants, P (.union variants discriminator) ↔ ∃ w ∈ variants, P w) :
    P v ↔ ∃ w ∈ variants, P w := by
  match variants, hv with
  | [w], hv =>
    cases hv
    simp
  | _ :: _ :: _, hv =>
    cases hv
    exact h _

theorem forall_of_alternatives {P : Validator → Prop} {discriminator : Option String}
    {variants : List Validator} {v : Validator} (hv : alternatives discriminator variants = some v)
    (h : ∀ variants, P (.union variants discriminator) ↔ ∀ w ∈ variants, P w) :
    P v ↔ ∀ w ∈ variants, P w := by
  match variants, hv with
  | [w], hv =>
    cases hv
    simp
  | _ :: _ :: _, hv =>
    cases hv
    exact h _

/-- The shapes of schemas, with the three compositions as one. -/
@[elab_as_elim]
theorem shapes {P : Schema → Prop} (ref : ∀ notes target, P (.ref notes target))
    (composed : ∀ schema k, schema.Composes k → P schema)
    (enum : ∀ notes values, P (.enum notes values))
    (scalar : ∀ notes fields, P (.scalar notes fields))
    (array : ∀ notes items, P (.array notes items))
    (object : ∀ notes properties required extra, P (.object notes properties required extra))
    (schema : Schema) : P schema := by
  cases schema with
  | ref notes target => exact ref notes target
  | oneOf notes variants d => exact composed _ _ (.oneOf notes variants d)
  | anyOf notes variants => exact composed _ _ (.anyOf notes variants)
  | allOf notes variants => exact composed _ _ (.allOf notes variants)
  | enum notes values => exact enum notes values
  | scalar notes fields => exact scalar notes fields
  | array notes items => exact array notes items
  | object notes properties required extra => exact object notes properties required extra

end Schema

end ApiContract
