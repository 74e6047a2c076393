import ApiContract.Proofs.Schema.Leaves
import ApiContract.Proofs.Validator.Optionals

/-!
# Defaults and optional validators of schemas

Whether a compiled schema has a default is computed beside its validator: a composition takes it over from
a single branch, a transform keeps it, and a binary payload has none. It always says whether a default is
met in the validator, and by that no optional validator is put around a default
(`marksDefault_compile`).
-/

namespace ApiContract

open Validator

/-- What a compiled schema says of defaults is so, and optional validators are placed well in it. -/
structure Compiled.MarksDefault (c : Compiled) : Prop where
  flag : c.hasDefault = true ↔ c.validator.MeetsDefault
  places : c.validator.PlacesOptionals

section Passages

variable {c : Compiled} {wire : Validator} {kind : TransformKind}

/-- A transform keeps the default and the places of the typed validator in it. -/
theorem Compiled.MarksDefault.convertScalar (h : c.MarksDefault) (hwire : ¬ wire.MeetsDefault)
    (hplaces : wire.PlacesOptionals) (direction : Direction) :
    Compiled.MarksDefault
      { c with validator := Schema.convertScalar c.validator wire kind direction } := by
  cases direction <;> constructor <;> simp [Schema.convertScalar, h.flag, h.places, hwire, hplaces]

theorem Compiled.MarksDefault.pass (h : c.MarksDefault) (hwire : ¬ wire.MeetsDefault)
    (hplaces : wire.PlacesOptionals) (direction : Option Direction) :
    Compiled.MarksDefault { c with validator := Schema.pass c.validator wire kind direction } := by
  cases direction with
  | none => exact h
  | some direction => exact h.convertScalar hwire hplaces direction

end Passages

namespace Schema

open Outcome

variable {s : Setting} {convert : Option Conversion} {style : ArrayStyle} {path : String}
  {notes : Annotations} {c : Compiled} {core : Validator}

/-! ## Annotations -/

theorem meetsDefault_wrap :
    (notes.wrap core).MeetsDefault ↔ core.MeetsDefault ∨ notes.default.isSome = true := by
  unfold Annotations.wrap
  cases notes.default <;> cases notes.nullable <;> simp

theorem placesOptionals_wrap : (notes.wrap core).PlacesOptionals ↔ core.PlacesOptionals :=
  notes.wrap_iff (fun _ => placesOptionals_nullable) fun _ _ => placesOptionals_default

theorem marksDefault_wrap (notes : Annotations) (hcore : ¬ core.MeetsDefault)
    (hplaces : core.PlacesOptionals) (dependsOn : List String) :
    Compiled.MarksDefault
      { validator := notes.wrap core, dependsOn := dependsOn, hasDefault := notes.default.isSome } where
  flag := by rw [meetsDefault_wrap, or_iff_right hcore]
  places := placesOptionals_wrap.2 hplaces

theorem marksDefault_primitive (notes : Annotations) (p : Primitive) :
    Compiled.MarksDefault
      { validator := notes.wrap (.primitive p), hasDefault := notes.default.isSome } :=
  marksDefault_wrap notes not_meetsDefault_primitive placesOptionals_primitive []

/-! ## Scalars and enums -/

theorem not_meetsDefault_enumValidator (values : List Value) :
    ¬ (enumValidator values).MeetsDefault := by
  unfold enumValidator
  split <;> simp

theorem placesOptionals_enumValidator (values : List Value) :
    (enumValidator values).PlacesOptionals := by
  unfold enumValidator
  split <;> simp

theorem marksDefault_enum {values : List Value} (h : compileEnum notes values path convert = .ok c) :
    c.MarksDefault := by
  obtain ⟨-, v, rfl, hv⟩ := compileEnum_ok.1 h
  have hbase := marksDefault_wrap notes (not_meetsDefault_enumValidator values)
    (placesOptionals_enumValidator values) []
  split at hv
  next =>
    obtain ⟨wire, -, rfl⟩ := hv
    exact hbase.convertScalar not_meetsDefault_enum placesOptionals_enum .fromString
  next =>
    obtain rfl := hv
    exact hbase.convertScalar not_meetsDefault_never placesOptionals_never .toString
  next =>
    obtain rfl := hv
    exact hbase

theorem marksDefault_scalar {fields : ScalarSchema}
    (h : (compileScalar s notes fields path convert).result = .ok c) : c.MarksDefault := by
  cases compileScalar_result h with
  | null => exact marksDefault_primitive notes _
  | typed htyped =>
    cases htyped with
    | boolean =>
      exact (marksDefault_primitive notes _).pass not_meetsDefault_enum placesOptionals_enum _
    | integer | number =>
      exact (marksDefault_primitive notes _).pass not_meetsDefault_primitive placesOptionals_primitive _
  | binary _ _ hdefault =>
    have hcore : ¬ (binaryBase s.use).MeetsDefault ∧ (binaryBase s.use).PlacesOptionals := by
      unfold binaryBase
      split
      · simp
      · simp
    simpa [hdefault] using marksDefault_wrap notes hcore.1 hcore.2 []
  | date isDate =>
    cases dateDirection s convert with
    | none =>
      dsimp only
      split
      · exact marksDefault_primitive notes _
      · exact marksDefault_primitive notes _
    | some direction =>
      exact (marksDefault_primitive notes _).convertScalar not_meetsDefault_primitive
        placesOptionals_primitive direction
  | plain => exact marksDefault_primitive notes _

/-! ## Containers -/

/-- A single branch of a composition is the composition, and several of them make one in which no default
is met at once. -/
theorem Composes.meetsDefault {schema : Schema} {k : Combination} (h : schema.Composes k)
    {branches : List Compiled} (hbranches : ∀ b ∈ branches, b.MarksDefault)
    (hcore : k.combine (branches.map (·.validator)) = some core) :
    core.MeetsDefault ↔ (branches.length == 1 && branches.any (·.hasDefault)) = true := by
  match branches with
  | [] => cases h <;> cases hcore
  | [b] =>
    obtain rfl : b.validator = core := by cases h <;> exact Option.some.inj hcore
    simp [(hbranches b List.mem_cons_self).flag]
  | _ :: _ :: _ =>
    have hnone : ¬ core.MeetsDefault := by
      cases h with
      | oneOf =>
        cases hcore
        exact not_meetsDefault_union
      | anyOf =>
        obtain ⟨_, rfl⟩ := exists_union_of_unionOf? hcore
        exact not_meetsDefault_union
      | allOf =>
        obtain ⟨_, rfl⟩ := exists_intersection_of_intersectionOf? hcore
        exact not_meetsDefault_intersection
    simp [hnone]

theorem Composes.placesOptionals {schema : Schema} {k : Combination} (h : schema.Composes k)
    {vs : List Validator} (hcore : k.combine vs = some core) :
    core.PlacesOptionals ↔ ∀ v ∈ vs, v.PlacesOptionals := by
  cases h with
  | oneOf => exact forall_of_alternatives hcore fun _ => placesOptionals_union
  | anyOf => exact placesOptionals_of_unionOf? hcore
  | allOf => exact placesOptionals_of_intersectionOf? hcore

theorem marksDefault_composes {schema : Schema} {k : Combination} (h : schema.Composes k)
    {branches : List Compiled} (hbranches : ∀ b ∈ branches, b.MarksDefault)
    (hcore : k.combine (branches.map (·.validator)) = some core) (dependsOn : List String) :
    Compiled.MarksDefault
      { validator := k.notes.wrap core, dependsOn := dependsOn,
        hasDefault :=
          branches.length == 1 && branches.any (·.hasDefault) || k.notes.default.isSome } where
  flag := by rw [Bool.or_eq_true, meetsDefault_wrap, h.meetsDefault hbranches hcore]
  places := by
    rw [placesOptionals_wrap, h.placesOptionals hcore, List.forall_mem_map]
    exact fun b hb => (hbranches b hb).places

theorem marksDefault_finishArray {item : Compiled} (hitem : item.MarksDefault)
    (h : finishArray notes path item = .ok c) : c.MarksDefault := by
  obtain ⟨-, rfl⟩ := finishArray_ok.1 h
  exact marksDefault_wrap notes not_meetsDefault_array (placesOptionals_array.2 hitem.places) _

theorem marksDefault_joinArray {array : Compiled} (harray : array.MarksDefault)
    (h : joinArray path convert style array = .ok c) : c.MarksDefault := by
  rw [joinArray_ok] at h
  split at h
  · obtain ⟨delimiter, -, rfl⟩ := h
    constructor <;> simp [harray.flag, harray.places]
  · exact h ▸ harray

/-- A value that need not be there is optional unless it has a default. -/
theorem placedInField_requireValue {required : Bool} {c' : Compiled} (hc : c.MarksDefault)
    (h : requireValue required path c = .ok c') : c'.validator.PlacedInField := by
  obtain ⟨-, rfl⟩ := requireValue_ok.1 h
  split
  next => exact .inl hc.places
  next hplain =>
    simp only [Bool.or_eq_true, not_or, Bool.not_eq_true] at hplain
    exact .inr ⟨_, rfl, hc.places, by simp [← hc.flag, hplain.2]⟩

theorem marksDefault_object {properties : Option (List (String × Schema))} {required : List String}
    {extra : ExtraKeys Schema} {fields : List (String × Compiled)}
    {compiled : ExtraKeys Validator × List String}
    (hfields : List.Forall₂ (FieldOf (fun _ _ c => c.MarksDefault) required)
      (properties.getD []) fields)
    (hextra : ExtraOf (fun _ _ c => c.MarksDefault) extra compiled)
    (h : finishObject notes path properties.isSome fields compiled = .ok c) : c.MarksDefault := by
  obtain ⟨-, rfl⟩ := finishObject_ok.1 h
  have hplaced (policy : ExtraPolicy) :
      (Validator.object (fields.map fun field => (field.1, field.2.validator)) policy).PlacesOptionals := by
    refine placesOptionals_object.2 (List.forall_mem_map.2 fun field hfield => ?_)
    obtain ⟨_, -, ⟨hmarks, hneeded⟩⟩ := hfields.exists_left hfield
    exact placedInField_requireValue hmarks hneeded
  cases hextra with
  | unstated => exact marksDefault_wrap notes not_meetsDefault_object (hplaced _) _
  | allowed allow => exact marksDefault_wrap notes not_meetsDefault_object (hplaced _) _
  | typed hmarks =>
    refine marksDefault_wrap notes not_meetsDefault_intersection ?_ _
    simpa using ⟨hplaced _, hmarks.places⟩

/-! ## The whole compilation -/

theorem marksDefault_compile (schema : Schema)
    (h : (compile s convert style path schema).result = .ok c) : c.MarksDefault := by
  refine compile_induction (P := fun _ _ c => c.MarksDefault) ?_ ?_ ?_ ?_ ?_ ?_ schema h
  · intro notes target key v convert _ _
    exact ⟨by simp, placesOptionals_ref⟩
  · intro schema k convert branches v hk hbranches hv
    refine marksDefault_composes hk (fun b hb => ?_) hv _
    obtain ⟨_, -, hmarks⟩ := hbranches.exists_left hb
    exact hmarks
  · intro notes values path convert c hc
    exact marksDefault_enum hc
  · intro notes fields path convert c hc
    exact marksDefault_scalar hc
  · intro notes items path convert style item array c _ hitem _ harray hc
    exact marksDefault_joinArray (marksDefault_finishArray hitem harray) hc
  · intro notes properties required extra path fields compiled c _ hfields hextra hc
    exact marksDefault_object hfields hextra hc

theorem placedInField_compileValue {schema : Schema} {required : Bool}
    (h : (schema.compileValue s required path convert style).result = .ok c) :
    c.validator.PlacedInField := by
  simp only [compileValue, Reported.result_bind, Reported.result_lift, bind_eq_ok] at h
  obtain ⟨compiled, hcompiled, hrequire⟩ := h
  exact placedInField_requireValue (marksDefault_compile schema hcompiled) hrequire

theorem placedInField_compileRepeated {schema : Schema} {required : Bool}
    (h : (schema.compileRepeated s required path convert).result = .ok c) :
    c.validator.PlacedInField := by
  unfold compileRepeated at h
  split at h
  next notes items =>
    simp only [compileValue, Reported.result_bind, Reported.result_lift, bind_eq_ok] at h
    obtain ⟨item, ⟨compiled, hcompiled, hitem⟩, array, harray, hrequire⟩ := h
    obtain ⟨-, rfl⟩ := requireValue_ok.1 hitem
    have hmarks := marksDefault_compile items hcompiled
    exact placedInField_requireValue (marksDefault_finishArray hmarks harray) hrequire
  next => cases h

end Schema

end ApiContract
