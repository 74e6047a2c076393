import ApiContract.Proofs.Schema.Acceptance

/-!
# Compilation keeps the meaning of schemas

In the shape of the wire a plain schema and its validator accept the same values: `accepts_compile`.
Along with this goes that a validator admits absence exactly when it carries a default (`Faithful`),
since the fields of an object may be left out when they are optional or have one.
-/

namespace ApiContract

namespace Schema

open Outcome Validator

/-- The schema itself has none of the shapes whose validators mean something else: a binary payload, a
composition with a default in a branch, and an object that lists some keys and constrains all others. -/
def PlainHere : Schema → Prop
  | .scalar _ fields => fields.type = .string →
      fields.format ≠ some "byte" ∧ fields.format ≠ some "binary"
  | .oneOf _ variants _ | .anyOf _ variants | .allOf _ variants =>
    ∀ t ∈ variants, t.notes.default = none
  | .object _ properties _ extra => properties.getD [] = [] ∨ extra.schema? = none
  | .ref _ _ | .enum _ _ | .array _ _ => True

/-- The schema has none of these shapes at any depth. -/
def Plain (schema : Schema) : Prop := ∀ t : Schema, t.Within schema → t.PlainHere

theorem Plain.here {schema : Schema} (h : schema.Plain) : schema.PlainHere := h schema .self

theorem Plain.of_child {schema t : Schema} (h : schema.Plain) (ht : t ∈ schema.children) : t.Plain :=
  fun _ hu => h _ (.child ht hu)

theorem plain_iff {schema : Schema} :
    schema.Plain ↔ schema.PlainHere ∧ ∀ t ∈ schema.children, t.Plain :=
  forall_within_iff

theorem Composes.plainHere {schema : Schema} {k : Combination} (h : schema.Composes k) :
    schema.PlainHere ↔ ∀ t ∈ k.variants, t.notes.default = none := by
  cases h <;> rfl

/-! ## Wrapping -/

variable {I : Interpretation} {s : Setting} {notes : Annotations} {path : String} {c : Compiled}

theorem accepts_wrap {core : Validator} {v : Value} :
    (notes.wrap core).Accepts I v ↔ NullAllowed notes v ∨ core.Accepts I v := by
  unfold Annotations.wrap NullAllowed
  cases notes.default <;> cases notes.nullable <;> simp

theorem admitsAbsence_wrap {core : Validator} :
    (notes.wrap core).AdmitsAbsence ↔ notes.default.isSome = true ∨ core.AdmitsAbsence := by
  unfold Annotations.wrap
  cases notes.default <;> cases notes.nullable <;> simp

/-- A validator that keeps the meaning of a schema, and that admits absence if it has a default, as it
can only have if the schema states one. -/
structure Faithful (I : Interpretation) (s : Setting) (schema : Schema) (c : Compiled) : Prop where
  accepts : ∀ v, c.validator.Accepts I v ↔ schema.Accepts I s v
  absence : c.validator.AdmitsAbsence ↔ c.hasDefault = true
  stated : c.hasDefault = true → schema.notes.default.isSome = true

theorem Faithful.wrap {schema : Schema} {core : Validator} {dependsOn : List String}
    (habsence : ¬ core.AdmitsAbsence)
    (h : ∀ v, schema.Accepts I s v ↔ NullAllowed schema.notes v ∨ core.Accepts I v) :
    Faithful I s schema
      { validator := schema.notes.wrap core, dependsOn, hasDefault := schema.notes.default.isSome } where
  accepts v := by rw [h, accepts_wrap]
  absence := by rw [admitsAbsence_wrap, or_iff_left habsence]
  stated := id

/-! ## References -/

theorem Faithful.ref {target key : String} (hkey : componentKey? target = some key)
    {dependsOn : List String} :
    Faithful I s (.ref notes target)
      { validator := .ref (s.declarationName key), dependsOn, hasDefault := false } where
  accepts v := by
    rw [accepts_ref, Validator.accepts_ref]
    simp [hkey]
  absence := iff_of_false nofun Bool.false_ne_true
  stated := nofun

/-! ## Compositions -/

theorem Composes.not_admitsAbsence {schema : Schema} {k : Combination} (h : schema.Composes k)
    {variants : List Validator} {v : Validator} (hv : k.combine variants = some v)
    (hvariants : ∀ w ∈ variants, ¬ w.AdmitsAbsence) : ¬ v.AdmitsAbsence := by
  have hnone : ¬ ∃ w ∈ variants, w.AdmitsAbsence := by
    rintro ⟨w, hw, h⟩
    exact hvariants w hw h
  cases h with
  | oneOf => rwa [iff_of_alternatives hv fun _ => admitsAbsence_union]
  | anyOf => rwa [iff_of_unionOf? hv fun _ => admitsAbsence_union]
  | allOf =>
    rw [iff_of_intersectionOf? hv fun _ => admitsAbsence_intersection]
    cases variants with
    | nil => cases hv
    | cons w rest => exact fun h => hvariants w (by simp) (h w (by simp))

theorem Composes.accepts {schema : Schema} {k : Combination} (h : schema.Composes k)
    {branches : List Compiled} {core : Validator}
    (hcore : k.combine (branches.map (·.validator)) = some core)
    (hbranches : List.Forall₂ (Faithful I s) k.variants branches) (v : Value) :
    schema.Accepts I s v ↔ NullAllowed schema.notes v ∨ core.Accepts I v := by
  have hsome : (∃ t ∈ k.variants, t.Accepts I s v) ↔
      ∃ w ∈ branches.map (·.validator), w.Accepts I v := by
    rw [hbranches.exists_iff fun t c h => (h.accepts v).symm]
    simp
  have hall : (∀ t ∈ k.variants, t.Accepts I s v) ↔
      ∀ w ∈ branches.map (·.validator), w.Accepts I v := by
    rw [hbranches.forall_iff fun t c h => (h.accepts v).symm]
    simp
  cases h with
  | oneOf =>
    rw [accepts_oneOf, hsome]
    exact or_congr_right
      (iff_of_alternatives (P := fun w => w.Accepts I v) hcore fun _ => accepts_union).symm
  | anyOf =>
    rw [accepts_anyOf, hsome]
    exact or_congr_right
      (iff_of_unionOf? (P := fun w => w.Accepts I v) hcore fun _ => accepts_union).symm
  | allOf =>
    rw [accepts_allOf, hall]
    exact or_congr_right
      (iff_of_intersectionOf? (P := fun w => w.Accepts I v) hcore fun _ => accepts_intersection).symm

theorem Faithful.composes {schema : Schema} {k : Combination} (h : schema.Composes k)
    (hplain : schema.PlainHere) {branches : List Compiled} {core : Validator}
    (hcore : k.combine (branches.map (·.validator)) = some core)
    (hbranches : List.Forall₂ (Faithful I s) k.variants branches) {dependsOn : List String} :
    Faithful I s schema
      { validator := k.notes.wrap core, dependsOn,
        hasDefault :=
          branches.length == 1 && branches.any (·.hasDefault) || k.notes.default.isSome } := by
  have hnone : ∀ b ∈ branches, b.hasDefault = false := by
    intro b hb
    obtain ⟨t, ht, hfaithful⟩ := hbranches.exists_left hb
    by_contra hdefault
    have hstated := hfaithful.stated (by simpa using hdefault)
    rw [h.plainHere.1 hplain t ht] at hstated
    cases hstated
  have hdefault : (branches.length == 1 && branches.any (·.hasDefault) || k.notes.default.isSome) =
      schema.notes.default.isSome := by
    have hany : branches.any (·.hasDefault) = false := by simpa using hnone
    rw [hany, h.notes]
    simp
  rw [hdefault, ← h.notes]
  refine .wrap (h.not_admitsAbsence hcore ?_) (h.accepts hcore hbranches)
  intro w hw
  obtain ⟨b, hb, rfl⟩ := List.mem_map.1 hw
  obtain ⟨t, _, hfaithful⟩ := hbranches.exists_left hb
  rw [hfaithful.absence, hnone b hb]
  exact Bool.false_ne_true

/-! ## Enums -/

theorem texts?_eq_some {values : List Value} {texts : List String} :
    texts? values = some texts ↔ values = texts.map .text := by
  induction values generalizing texts with
  | nil => cases texts <;> simp [texts?]
  | cons v rest ih =>
    constructor
    · intro h
      unfold texts? at h
      split at h
      next hnil => cases hnil
      next s rest' heq =>
        cases heq
        obtain ⟨texts, htexts, rfl⟩ := Option.map_eq_some_iff.1 h
        rw [ih.1 htexts, List.map_cons]
      next => cases h
    · rintro h
      cases texts with
      | nil => cases h
      | cons s texts =>
        obtain ⟨rfl, hrest⟩ := List.cons.inj h
        rw [texts?, ih.2 hrest]
        rfl

theorem accepts_enumValidator {values : List Value} {v : Value} :
    (enumValidator values).Accepts I v ↔ ∃ w ∈ values, v.same w = true := by
  unfold enumValidator
  split
  next => simp
  next texts _ htexts =>
    rw [texts?_eq_some.1 htexts, Validator.accepts_enum]
    simp [Value.same_text_iff]
  next => simp
  next => simp

theorem not_admitsAbsence_enumValidator (values : List Value) :
    ¬ (enumValidator values).AdmitsAbsence := by
  have hliteral : ∀ v, ¬ (literal v).AdmitsAbsence := fun _ => nofun
  unfold enumValidator
  split
  next => exact nofun
  next => exact nofun
  next => exact nofun
  next => simp [hliteral]

theorem Faithful.enum {values : List Value} (h : compileEnum notes values path none = .ok c) :
    Faithful I s (.enum notes values) c := by
  obtain ⟨-, v, rfl, rfl⟩ := compileEnum_ok.1 h
  refine .wrap (not_admitsAbsence_enumValidator values) fun v => ?_
  rw [accepts_enum, accepts_enumValidator]
  rfl

/-! ## Scalars -/

/-- The type without constraints asks for nothing else. -/
theorem accepts_type {type : PrimitiveType} {v : Value} :
    (Primitive.mk type none none none none none none).Accepts I v ↔ type.Holds v := by
  simp [Primitive.Accepts, InLength, Value.InBounds]

/-- Numbers are no texts, so that the bounds are all that is asked of them. -/
theorem accepts_numeric {type : PrimitiveType} {minimum maximum : Option Bound} {v : Value} :
    (Primitive.mk type none none none none minimum maximum).Accepts I v ↔
      type.Holds v ∧ v.InBounds minimum maximum := by
  simp [Primitive.Accepts, InLength]

/-- Texts are no numbers, so that no bound is asked of them. -/
theorem accepts_textual {check : Option StringCheck} {minLength maxLength : Option Int}
    {pattern : Option String} {v : Value} :
    (Primitive.mk .string check minLength maxLength pattern none none).Accepts I v ↔
      ∃ text, v = .text text ∧ InLength minLength maxLength text ∧
        (∀ p ∈ pattern, I.Matches p text) ∧ ∀ k ∈ check, I.Passes k text := by
  constructor
  · rintro ⟨⟨text, rfl⟩, h, -⟩
    exact ⟨text, rfl, h text rfl⟩
  · rintro ⟨text, rfl, h⟩
    refine ⟨⟨text, rfl⟩, ?_, ?_⟩
    · intro other hother
      cases hother
      exact h
    · simp [Value.InBounds, Value.number?]

theorem accepts_stringBase {fields : ScalarSchema} (h : fields.IsPlain) {v : Value} :
    (stringBase fields).Accepts I v ↔ fields.Accepts I v := by
  obtain ⟨htype, hformat⟩ := h
  simp only [List.mem_cons, List.not_mem_nil, or_false, not_or] at hformat
  rw [stringBase, accepts_primitive, accepts_textual]
  simp only [ScalarSchema.Accepts, htype, ScalarSchema.MeetsFormat]
  split
  next hdate => exact absurd hdate hformat.2.2.1
  next hdateTime => exact absurd hdateTime hformat.2.2.2
  next => rfl

theorem accepts_wireDate {fields : ScalarSchema} {isDate : Bool} (htype : fields.type = .string)
    (hformat : fields.format = some (if isDate then "date" else "date-time")) {v : Value} :
    (wireDate fields isDate).Accepts I v ↔ fields.Accepts I v := by
  rw [wireDate, accepts_primitive, accepts_textual]
  simp only [ScalarSchema.Accepts, htype, ScalarSchema.MeetsFormat, hformat]
  cases isDate <;> simp

theorem Typed.accepts {fields : ScalarSchema} {base wire : Validator} {rule : DefaultRule}
    {kind : TransformKind} (h : Typed fields base wire rule kind) {v : Value} :
    base.Accepts I v ↔ fields.Accepts I v := by
  cases h with
  | boolean h =>
    rw [Validator.type, accepts_primitive, accepts_type, ScalarSchema.Accepts, h]
    rfl
  | integer h =>
    rw [accepts_primitive, accepts_numeric, ScalarSchema.Accepts, h]
    rfl
  | number h =>
    rw [accepts_primitive, accepts_numeric, ScalarSchema.Accepts, h]
    rfl

theorem Typed.not_admitsAbsence {fields : ScalarSchema} {base wire : Validator} {rule : DefaultRule}
    {kind : TransformKind} (h : Typed fields base wire rule kind) : ¬ base.AdmitsAbsence := by
  cases h <;> exact nofun

theorem Faithful.scalar {fields : ScalarSchema} (hs : s.crossing = .request)
    (hplain : (Schema.scalar notes fields).PlainHere)
    (h : (compileScalar s notes fields path none).result = .ok c) :
    Faithful I s (.scalar notes fields) c := by
  have hcore : ∀ core : Validator, ¬ core.AdmitsAbsence →
      (∀ v, core.Accepts I v ↔ fields.Accepts I v) → Faithful I s (.scalar notes fields)
        { validator := notes.wrap core, hasDefault := notes.default.isSome } := by
    intro core habsence haccepts
    refine .wrap habsence fun v => ?_
    rw [accepts_scalar, haccepts]
    rfl
  cases compileScalar_result h with
  | null htype =>
    refine hcore _ nofun fun v => ?_
    rw [Validator.type, accepts_primitive, accepts_type, ScalarSchema.Accepts, htype]
    rfl
  | typed htyped => exact hcore _ htyped.not_admitsAbsence fun v => htyped.accepts
  | binary htype hformat =>
    obtain ⟨hbyte, hbinary⟩ := hplain htype
    rcases hformat with hformat | hformat
    · exact absurd hformat hbyte
    · exact absurd hformat hbinary
  | date isDate htype hformat =>
    have hdirection : dateDirection s none = none := by simp [dateDirection, hs]
    simp only [hdirection, hs]
    exact hcore _ nofun fun v => accepts_wireDate htype hformat
  | plain hplain => exact hcore _ nofun fun v => accepts_stringBase hplain

/-! ## Arrays -/

theorem Faithful.array {items : Schema} {item : Compiled} (hitem : Faithful I s items item)
    (h : finishArray notes path item = .ok c) : Faithful I s (.array notes items) c := by
  obtain ⟨-, rfl⟩ := finishArray_ok.1 h
  refine .wrap nofun fun v => ?_
  rw [accepts_array, Validator.accepts_array]
  simp only [hitem.accepts]
  rfl

/-! ## Objects -/

/-- A field keeps the meaning of its property, and may be left out if it is not required. -/
structure FieldFaithful (I : Interpretation) (s : Setting) (required : List String)
    (p : String × Schema) (f : String × Validator) : Prop where
  name : p.1 = f.1
  accepts : ∀ v, p.2.Accepts I s v ↔ f.2.Accepts I v
  absence : p.1 ∉ required ↔ f.2.AdmitsAbsence

theorem FieldOf.faithful {required : List String} {p : String × Schema} {f : String × Compiled}
    (h : FieldOf (fun schema _ c => Faithful I s schema c) required p f) :
    FieldFaithful I s required p (f.1, f.2.validator) := by
  cases h with
  | @intro name schema c _ _ hc hneeded =>
    obtain ⟨hdefault, rfl⟩ := requireValue_ok.1 hneeded
    refine ⟨rfl, fun v => ?_, ?_⟩
    · dsimp only
      split <;> simp [hc.accepts]
    · by_cases hrequired : name ∈ required
      · have hnone : c.hasDefault = false := hdefault (by simpa using hrequired)
        simp [hrequired, hc.absence, hnone]
      · cases hhas : c.hasDefault <;> simp [hrequired, hhas, hc.absence]

/-- Every required name is that of a property, so that the fields that must be there are those that are
required. -/
theorem required_iff {properties : List (String × Schema)} {required : List String}
    (h : danglingName? required properties = none) {entries : List (Scalar × Value)} :
    (∀ name ∈ required, Value.find? name entries ≠ none) ↔
      ∀ p ∈ properties, Value.find? p.1 entries = none → p.1 ∉ required := by
  constructor
  · intro hneeded p _ hnone hrequired
    exact hneeded p.1 hrequired hnone
  · intro hproperties name hname hnone
    have hlisted : properties.any (·.1 == name) = true := by
      simpa using List.find?_eq_none.1 h name hname
    obtain ⟨p, hp, heq⟩ := List.any_eq_true.1 hlisted
    obtain rfl : p.1 = name := by simpa using heq
    exact hproperties p hp hnone hname

theorem accepts_fields {properties : List (String × Schema)} {required : List String}
    {fields : List (String × Validator)} (hdangling : danglingName? required properties = none)
    (hfields : List.Forall₂ (FieldFaithful I s required) properties fields) {extra : ExtraPolicy}
    {v : Value} :
    (Validator.object fields extra).Accepts I v ↔ ∃ entries, v = .map entries ∧
      (∀ name ∈ required, Value.find? name entries ≠ none) ∧
      (∀ p ∈ properties, ∀ w, Value.find? p.1 entries = some w → p.2.Accepts I s w) ∧
      (extra = .closed → ∀ e ∈ entries, ∃ p ∈ properties, e.1 = .text p.1) := by
  rw [Validator.accepts_object]
  refine exists_congr fun entries => and_congr_right fun _ => ?_
  have hlisted : (∀ p ∈ properties, ∀ w, Value.find? p.1 entries = some w → p.2.Accepts I s w) ↔
      ∀ f ∈ fields, ∀ w, Value.find? f.1 entries = some w → f.2.Accepts I w :=
    hfields.forall_iff fun p f h => by simp only [h.name, h.accepts]
  have habsent : (∀ p ∈ properties, Value.find? p.1 entries = none → p.1 ∉ required) ↔
      ∀ f ∈ fields, Value.find? f.1 entries = none → f.2.AdmitsAbsence :=
    hfields.forall_iff fun p f h => by rw [h.absence, h.name]
  have hkeys : ∀ e : Scalar × Value, (∃ p ∈ properties, e.1 = .text p.1) ↔
      ∃ f ∈ fields, e.1 = .text f.1 := fun e => hfields.exists_iff fun p f h => by rw [h.name]
  rw [required_iff hdangling, hlisted, habsent]
  simp only [hkeys]
  tauto

/-- What two parts ask of the entries of a value is asked of the same entries. -/
theorem exists_map_and {P Q : List (Scalar × Value) → Prop} {v : Value} :
    ((∃ entries, v = .map entries ∧ P entries) ∧ ∃ entries, v = .map entries ∧ Q entries) ↔
      ∃ entries, v = .map entries ∧ P entries ∧ Q entries := by
  constructor
  · rintro ⟨⟨entries, rfl, hP⟩, other, hother, hQ⟩
    cases hother
    exact ⟨entries, rfl, hP, hQ⟩
  · rintro ⟨entries, rfl, hP, hQ⟩
    exact ⟨⟨entries, rfl, hP⟩, entries, rfl, hQ⟩

/-- An intersection with what is asked of the values of other keys asks it of all values. -/
theorem accepts_typedObject {properties : List (String × Schema)} {required : List String}
    {fields : List (String × Validator)} (hdangling : danglingName? required properties = none)
    (hfields : List.Forall₂ (FieldFaithful I s required) properties fields) {schema : Schema}
    {value : Validator} (hvalue : ∀ v, value.Accepts I v ↔ schema.Accepts I s v)
    {hasProperties : Bool} {v : Value} :
    (objectValidator fields hasProperties (.typed value)).Accepts I v ↔
      ∃ entries, v = .map entries ∧
        (∀ name ∈ required, Value.find? name entries ≠ none) ∧
        (∀ p ∈ properties, ∀ w, Value.find? p.1 entries = some w → p.2.Accepts I s w) ∧
        ∀ e ∈ entries, schema.Accepts I s e.2 := by
  rw [objectValidator, accepts_intersection, List.forall_mem_cons, List.forall_mem_singleton,
    accepts_fields hdangling hfields, Validator.accepts_record, exists_map_and]
  simp only [hvalue, reduceCtorEq, false_implies, and_true, and_assoc]

theorem not_admitsAbsence_objectValidator {fields : List (String × Validator)} {hasProperties : Bool}
    {extra : ExtraKeys Validator} : ¬ (objectValidator fields hasProperties extra).AdmitsAbsence := by
  have hobject {policy : ExtraPolicy} : ¬ (Validator.object fields policy).AdmitsAbsence := nofun
  cases extra with
  | unstated => exact hobject
  | allowed => exact hobject
  | typed => simp [objectValidator, hobject]

/-- What is asked of an object is what its compiled fields and the validator of other keys ask. -/
theorem Faithful.of_objectValidator {schema : Schema} (hnotes : schema.notes = notes)
    {hasProperties : Bool} {fields : List (String × Compiled)}
    {compiled : ExtraKeys Validator × List String}
    (h : finishObject notes path hasProperties fields compiled = .ok c)
    (haccepts : ∀ v, schema.Accepts I s v ↔ NullAllowed notes v ∨
      (objectValidator (fields.map fun f => (f.1, f.2.validator)) hasProperties compiled.1).Accepts
        I v) : Faithful I s schema c := by
  subst hnotes
  obtain ⟨-, rfl⟩ := finishObject_ok.1 h
  exact .wrap not_admitsAbsence_objectValidator haccepts

theorem FieldOf.forall_faithful {properties : List (String × Schema)} {required : List String}
    {fields : List (String × Compiled)}
    (h : List.Forall₂ (FieldOf (fun schema _ c => Faithful I s schema c) required) properties fields) :
    List.Forall₂ (FieldFaithful I s required) properties
      (fields.map fun f => (f.1, f.2.validator)) :=
  List.forall₂_map_right_iff.2 (h.imp fun _ _ hf => hf.faithful)

theorem Faithful.object {properties : Option (List (String × Schema))} {required : List String}
    {extra : ExtraKeys Schema} {fields : List (String × Compiled)}
    {compiled : ExtraKeys Validator × List String}
    (hplain : (Schema.object notes properties required extra).PlainHere)
    (hdangling : danglingName? required (properties.getD []) = none)
    (hfields : List.Forall₂ (FieldOf (fun schema _ c => Faithful I s schema c) required)
      (properties.getD []) fields)
    (hextra : ExtraOf (fun schema _ c => Faithful I s schema c) extra compiled)
    (h : finishObject notes path properties.isSome fields compiled = .ok c) :
    Faithful I s (.object notes properties required extra) c := by
  have hfields := FieldOf.forall_faithful hfields
  refine .of_objectValidator rfl h fun v => ?_
  rw [Schema.accepts_object]
  refine or_congr_right ?_
  cases hextra with
  | unstated =>
    rw [objectValidator, accepts_fields hdangling hfields]
    cases properties <;> simp [ExtraKeys.Open]
  | allowed allow =>
    rw [objectValidator, accepts_fields hdangling hfields]
    cases allow <;> simp [ExtraKeys.Open]
  | typed hschema =>
    have hnone : properties.getD [] = [] := by simpa [PlainHere, ExtraKeys.schema?] using hplain
    rw [accepts_typedObject hdangling hfields hschema.accepts]
    simp [hnone, ExtraKeys.Open]

/-! ## The whole compilation -/

theorem faithful_compile (I : Interpretation) (hs : s.crossing = .request) {style : ArrayStyle}
    (schema : Schema) (hplain : schema.Plain)
    (h : (compile s none style path schema).result = .ok c) : Faithful I s schema c := by
  refine compile_induction_of (P := Faithful I s) (fun _ _ h ht => h.of_child ht)
    ?_ ?_ ?_ ?_ ?_ ?_ schema hplain h
  · intro notes target key v hkey _
    exact .ref hkey
  · intro schema k branches core hplain hk hbranches hcore
    exact .composes hk hplain.here hcore hbranches
  · intro notes values path c hc
    exact .enum hc
  · intro notes fields path c hplain hc
    exact .scalar hs hplain.here hc
  · intro notes items path item c hitem hc
    exact .array hitem hc
  · intro notes properties required extra path fields compiled c hplain hdangling hfields hextra hc
    exact .object hplain.here hdangling hfields hextra hc

/-- A validator in the shape of the wire accepts the values that its schema accepts. -/
theorem accepts_compile (I : Interpretation) (hs : s.crossing = .request) {style : ArrayStyle}
    {schema : Schema} (hplain : schema.Plain)
    (h : (compile s none style path schema).result = .ok c) (v : Value) :
    c.validator.Accepts I v ↔ schema.Accepts I s v :=
  (faithful_compile I hs schema hplain h).accepts v

/-- A text with nothing else asked of it. -/
def anyText : Schema := .scalar ⟨none, false, none⟩ ⟨.string, none, none, none, none, none, none⟩

/-- An object with a name and perhaps a list of other names, which may be null. -/
def petSchema : Schema :=
  .object ⟨none, false, none⟩
    (some [("name", anyText), ("others", .array ⟨none, true, none⟩ anyText)]) ["name"] .unstated

/-- Patterns match themselves, and nothing else is taken from outside. -/
def literalPatterns : Interpretation where
  Matches pattern text := pattern = text
  Passes _ _ := False
  Declared _ _ := False
  Binary _ _ := False
  Makes _ _ _ _ _ := False

theorem plain_petSchema : petSchema.Plain := by
  have htext : anyText.Plain := by
    rw [anyText, plain_iff]
    simp [PlainHere, children]
  have hlist : (Schema.array ⟨none, true, none⟩ anyText).Plain := by
    rw [plain_iff]
    simp [PlainHere, children, htext]
  rw [petSchema, plain_iff]
  simp [PlainHere, children, ExtraKeys.schema?, htext, hlist]

theorem accepts_petSchema :
    ∃ c, (compile { document := .null, crossing := .request } none .standard "#" petSchema).result =
        .ok c ∧
      c.validator.Accepts literalPatterns (.object [("name", .text "Rex"), ("others", .null)]) ∧
      ¬ c.validator.Accepts literalPatterns (.object [("others", .list [.text "Max"])]) := by
  obtain ⟨c, h⟩ : ∃ c, (compile { document := .null, crossing := .request } none .standard "#"
      petSchema).result = .ok c := ⟨_, rfl⟩
  have hmeaning := accepts_compile literalPatterns rfl plain_petSchema h
  refine ⟨c, h, (hmeaning _).2 ?_, fun haccepted => ?_⟩
  · rw [petSchema, accepts_object]
    refine .inr ⟨_, rfl, ?_⟩
    simp [Value.find?, anyText, accepts_scalar, accepts_array, NullAllowed, ScalarSchema.Accepts,
      ScalarSchema.MeetsFormat, InLength, ExtraKeys.Open]
  · have haccepted := (hmeaning _).1 haccepted
    rw [petSchema, accepts_object] at haccepted
    rcases haccepted with ⟨hnullable, -⟩ | ⟨entries, hentries, hneeded, -⟩
    · cases hnullable
    · cases hentries
      exact hneeded "name" (by simp) (by simp [Value.find?])

end Schema

end ApiContract
