import ApiContract.Proofs.Validator.Within

/-!
# Defaults and optional validators

A default is met in a validator when it stands at the root or below it with nothing but `nullable` and
transforms around it. Optional validators are placed well when they stand directly in fields of objects
alone, and neither an optional validator nor a default is met right inside them: `PlacesOptionals`.
-/

namespace ApiContract.Validator

variable {v : Validator}

/-- A default is met on a way down from the root through `nullable` and both sides of transforms. -/
inductive MeetsDefault : Validator → Prop where
  | here {base : Validator} {value : Value} : MeetsDefault (.default base value)
  | nullable {base : Validator} (inner : MeetsDefault base) : MeetsDefault (.nullable base)
  | base {base : Validator} {direction : TransformDirection} {kind : TransformKind}
    {delimiter : Option String} {target : Option Validator} (inner : MeetsDefault base) :
    MeetsDefault (.transform base direction kind delimiter target)
  | target {base target : Validator} {direction : TransformDirection} {kind : TransformKind}
    {delimiter : Option String} (inner : MeetsDefault target) :
    MeetsDefault (.transform base direction kind delimiter (some target))

@[simp] theorem meetsDefault_default {base : Validator} {value : Value} :
    (default base value).MeetsDefault := .here

@[simp] theorem meetsDefault_nullable {base : Validator} :
    (nullable base).MeetsDefault ↔ base.MeetsDefault :=
  ⟨fun | .nullable inner => inner, .nullable⟩

@[simp] theorem meetsDefault_transform {base : Validator} {direction : TransformDirection}
    {kind : TransformKind} {delimiter : Option String} {target : Option Validator} :
    (transform base direction kind delimiter target).MeetsDefault ↔
      base.MeetsDefault ∨ ∃ t ∈ target, t.MeetsDefault := by
  constructor
  · rintro (_ | _ | inner | inner)
    · exact .inl inner
    · exact .inr ⟨_, rfl, inner⟩
  · rintro (inner | ⟨t, rfl, inner⟩)
    · exact .base inner
    · exact .target inner

@[simp] theorem not_meetsDefault_primitive {p : Primitive} : ¬ (primitive p).MeetsDefault := nofun

@[simp] theorem not_meetsDefault_literal {value : Value} : ¬ (literal value).MeetsDefault := nofun

@[simp] theorem not_meetsDefault_enum {values : List String} : ¬ (enum values).MeetsDefault := nofun

@[simp] theorem not_meetsDefault_never : ¬ never.MeetsDefault := nofun

@[simp] theorem not_meetsDefault_binary {form : BinaryForm} : ¬ (binary form).MeetsDefault := nofun

@[simp] theorem not_meetsDefault_ref {name : String} : ¬ (ref name).MeetsDefault := nofun

@[simp] theorem not_meetsDefault_union {variants : List Validator} {discriminator : Option String} :
    ¬ (union variants discriminator).MeetsDefault := nofun

@[simp] theorem not_meetsDefault_intersection {parts : List Validator} :
    ¬ (intersection parts).MeetsDefault := nofun

@[simp] theorem not_meetsDefault_array {item : Validator} : ¬ (array item).MeetsDefault := nofun

@[simp] theorem not_meetsDefault_object {fields : List (String × Validator)} {extra : ExtraPolicy} :
    ¬ (object fields extra).MeetsDefault := nofun

/-! ## Places -/

/-- The validator itself is not optional. -/
def Required (v : Validator) : Prop := ∀ base, v ≠ .optional base

/-- What may stand inside an optional validator. -/
structure Bare (v : Validator) : Prop where
  required : v.Required
  no_default : ¬ v.MeetsDefault

/-- Every optional validator stands directly in a field of an object, and inside it something bare. -/
structure PlacesOptionals (v : Validator) : Prop where
  required : v.Required
  inside : ∀ w base : Validator, w.Within v → optional base ∈ w.children →
    (∃ fields extra, w = .object fields extra) ∧ base.Bare

/-- What may stand in a field: optional validators are placed well in it, or it is one around something
bare. -/
def PlacedInField (v : Validator) : Prop :=
  v.PlacesOptionals ∨ ∃ base, v = .optional base ∧ base.PlacesOptionals ∧ ¬ base.MeetsDefault

theorem PlacesOptionals.of_within {w : Validator} (h : v.PlacesOptionals) (hw : w.Within v)
    (hrequired : w.Required) : w.PlacesOptionals where
  required := hrequired
  inside u base hu hbase := h.inside u base (hu.trans hw) hbase

/-- Outside objects no validator is made of optional ones directly. -/
theorem placesOptionals_iff (hrequired : v.Required) (hobject : ∀ fields extra, v ≠ .object fields extra) :
    v.PlacesOptionals ↔ ∀ u ∈ v.children, u.PlacesOptionals := by
  constructor
  · intro h u hu
    refine h.of_within (.child hu .self) ?_
    rintro base rfl
    obtain ⟨fields, extra, hv⟩ := (h.inside v base .self hu).1
    exact hobject fields extra hv
  · refine fun h => ⟨hrequired, fun w base hw hbase => ?_⟩
    obtain rfl | ⟨u, hu, hw⟩ := within_iff.1 hw
    · exact absurd rfl ((h _ hbase).required base)
    · exact (h u hu).inside w base hw hbase

theorem placesOptionals_object {fields : List (String × Validator)} {extra : ExtraPolicy} :
    (object fields extra).PlacesOptionals ↔ ∀ e ∈ fields, e.2.PlacedInField := by
  constructor
  · intro h e he
    have hchild : e.2 ∈ (object fields extra).children := List.mem_map_of_mem he
    by_cases hoptional : e.2.Required
    · exact .inl (h.of_within (.child hchild .self) hoptional)
    · simp only [Required, ne_eq, not_forall, not_not] at hoptional
      obtain ⟨base, hbase⟩ := hoptional
      have hbare : base.Bare := (h.inside _ base .self (hbase ▸ hchild)).2
      have hwithin : base.Within (object fields extra) :=
        .child hchild (hbase ▸ .child List.mem_cons_self .self)
      exact .inr ⟨base, hbase, h.of_within hwithin hbare.required, hbare.no_default⟩
  · refine fun h => ⟨nofun, fun w base hw hbase => ?_⟩
    obtain rfl | ⟨u, hu, hw⟩ := within_iff.1 hw
    · obtain ⟨e, he, hoptional⟩ := List.mem_map.1 hbase
      obtain hplaced | ⟨b, hb, hplaced, hdefault⟩ := h e he
      · exact absurd hoptional (hplaced.required base)
      · obtain rfl : b = base := optional.inj (hb.symm.trans hoptional)
        exact ⟨⟨fields, extra, rfl⟩, hplaced.required, hdefault⟩
    · obtain ⟨e, he, rfl⟩ := List.mem_map.1 hu
      obtain hplaced | ⟨b, hb, hplaced, -⟩ := h e he
      · exact hplaced.inside w base hw hbase
      · rw [hb, within_iff] at hw
        obtain rfl | ⟨_, hmem, hw⟩ := hw
        · exact absurd (List.mem_singleton.1 hbase).symm (hplaced.required base)
        · obtain rfl := List.mem_singleton.1 hmem
          exact hplaced.inside w base hw hbase

theorem placesOptionals_leaf (hrequired : v.Required) (hobject : ∀ fields extra, v ≠ .object fields extra)
    (hleaf : v.children = []) : v.PlacesOptionals :=
  (placesOptionals_iff hrequired hobject).2 (by simp [hleaf])

@[simp] theorem placesOptionals_primitive {p : Primitive} : (primitive p).PlacesOptionals :=
  placesOptionals_leaf nofun nofun rfl

@[simp] theorem placesOptionals_literal {value : Value} : (literal value).PlacesOptionals :=
  placesOptionals_leaf nofun nofun rfl

@[simp] theorem placesOptionals_enum {values : List String} : (enum values).PlacesOptionals :=
  placesOptionals_leaf nofun nofun rfl

@[simp] theorem placesOptionals_never : never.PlacesOptionals := placesOptionals_leaf nofun nofun rfl

@[simp] theorem placesOptionals_binary {form : BinaryForm} : (binary form).PlacesOptionals :=
  placesOptionals_leaf nofun nofun rfl

@[simp] theorem placesOptionals_noContent : noContent.PlacesOptionals :=
  placesOptionals_leaf nofun nofun rfl

@[simp] theorem placesOptionals_ref {name : String} : (ref name).PlacesOptionals :=
  placesOptionals_leaf nofun nofun rfl

@[simp] theorem placesOptionals_union {variants : List Validator} {discriminator : Option String} :
    (union variants discriminator).PlacesOptionals ↔ ∀ v ∈ variants, v.PlacesOptionals :=
  placesOptionals_iff nofun nofun

@[simp] theorem placesOptionals_intersection {parts : List Validator} :
    (intersection parts).PlacesOptionals ↔ ∀ v ∈ parts, v.PlacesOptionals :=
  placesOptionals_iff nofun nofun

@[simp] theorem placesOptionals_array {item : Validator} :
    (array item).PlacesOptionals ↔ item.PlacesOptionals := by
  simp [placesOptionals_iff (v := array item) nofun nofun, children]

@[simp] theorem placesOptionals_record {value : Validator} :
    (record value).PlacesOptionals ↔ value.PlacesOptionals := by
  simp [placesOptionals_iff (v := record value) nofun nofun, children]

@[simp] theorem placesOptionals_nullable {base : Validator} :
    (nullable base).PlacesOptionals ↔ base.PlacesOptionals := by
  simp [placesOptionals_iff (v := nullable base) nofun nofun, children]

@[simp] theorem placesOptionals_default {base : Validator} {value : Value} :
    (default base value).PlacesOptionals ↔ base.PlacesOptionals := by
  simp [placesOptionals_iff (v := default base value) nofun nofun, children]

@[simp] theorem placesOptionals_transform {base : Validator} {direction : TransformDirection}
    {kind : TransformKind} {delimiter : Option String} {target : Option Validator} :
    (transform base direction kind delimiter target).PlacesOptionals ↔
      base.PlacesOptionals ∧ ∀ t ∈ target, t.PlacesOptionals := by
  simp [placesOptionals_iff (v := transform base direction kind delimiter target) nofun nofun, children]

/-! ## Folds -/

theorem placesOptionals_of_unionOf? {variants : List Validator} (h : unionOf? variants = some v) :
    v.PlacesOptionals ↔ ∀ w ∈ variants, w.PlacesOptionals :=
  forall_of_unionOf? (P := PlacesOptionals) h fun _ => placesOptionals_union

theorem placesOptionals_of_intersectionOf? {parts : List Validator}
    (h : intersectionOf? parts = some v) : v.PlacesOptionals ↔ ∀ w ∈ parts, w.PlacesOptionals :=
  iff_of_intersectionOf? (P := PlacesOptionals) h fun _ => placesOptionals_intersection

end ApiContract.Validator
