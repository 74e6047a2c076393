import ApiContract.Proofs.Schema.Leaves
import ApiContract.Proofs.Validator.Within

/-!
# References of compiled schemas

The references within a compiled schema are those of the schema, under the names of the declarations
that they lead to (`Schema.Names`), and the names that it depends on are the same again:
`tells_compile`. So what a compiled schema depends on can be read off its validator
(`tracksReferences_compile`).
-/

namespace ApiContract

/-- What is depended on are the declarations that references within the validator name, at any depth,
and no others. -/
def Compiled.TracksReferences (c : Compiled) : Prop :=
  ∀ name, name ∈ c.dependsOn ↔ c.validator.Refers name

namespace Schema

open Outcome

/-- A reference to `target` stands somewhere in the schema. -/
def PointsTo (schema : Schema) (target : String) : Prop :=
  ∃ notes, (Schema.ref notes target).Within schema

/-- The declaration `name` is that of a component schema to which a reference within the schema
leads. -/
def Names (s : Setting) (schema : Schema) (name : String) : Prop :=
  ∃ target key, schema.PointsTo target ∧ componentKey? target = some key ∧
    s.declarationName key = name

theorem pointsTo_ref {notes : Annotations} {t target : String} :
    (Schema.ref notes t).PointsTo target ↔ t = target := by
  constructor
  · rintro ⟨other, h⟩
    rcases within_iff.1 h with h | ⟨_, hu, _⟩
    · cases h; rfl
    · cases hu
  · rintro rfl
    exact ⟨notes, .self⟩

theorem PointsTo.of_child {schema t : Schema} {target : String} (ht : t ∈ schema.children)
    (h : t.PointsTo target) : schema.PointsTo target := by
  obtain ⟨notes, hw⟩ := h
  exact ⟨notes, .child ht hw⟩

theorem pointsTo_iff {schema : Schema} (h : ∀ notes target, schema ≠ .ref notes target)
    {target : String} : schema.PointsTo target ↔ ∃ t ∈ schema.children, t.PointsTo target := by
  constructor
  · rintro ⟨notes, hw⟩
    rcases within_iff.1 hw with rfl | ⟨u, hu, hw⟩
    · exact absurd rfl (h _ _)
    · exact ⟨u, hu, notes, hw⟩
  · rintro ⟨t, ht, hpoints⟩
    exact hpoints.of_child ht

variable {s : Setting} {name : String}

theorem names_iff {schema : Schema} (h : ∀ notes target, schema ≠ .ref notes target) :
    schema.Names s name ↔ ∃ t ∈ schema.children, t.Names s name := by
  simp only [Names, pointsTo_iff h]
  constructor
  · rintro ⟨target, key, ⟨t, ht, hpoints⟩, hkey⟩
    exact ⟨t, ht, target, key, hpoints, hkey⟩
  · rintro ⟨t, ht, target, key, hpoints, hkey⟩
    exact ⟨target, key, ⟨t, ht, hpoints⟩, hkey⟩

theorem names_composes {schema : Schema} {k : Combination} (h : schema.Composes k) :
    schema.Names s name ↔ ∃ t ∈ k.variants, t.Names s name := by
  rw [names_iff (by rintro notes target rfl; cases h), h.children]

theorem not_names_of_leaf {schema : Schema} (leaf : schema.children = [])
    (h : ∀ notes target, schema ≠ .ref notes target) : ¬ schema.Names s name := by
  simp [names_iff h, leaf]

/-! ## What the steps of a compilation keep -/

open Validator

theorem refers_wrap {notes : Annotations} {v : Validator} :
    (notes.wrap v).Refers name ↔ v.Refers name :=
  Annotations.wrap_iff (P := fun v => v.Refers name) (fun _ => refers_nullable) fun _ _ =>
    refers_default

theorem refers_convertScalar {typed wire : Validator} {kind : TransformKind} {direction : Direction}
    (h : ¬ wire.Refers name) :
    (convertScalar typed wire kind direction).Refers name ↔ typed.Refers name := by
  cases direction <;> simp [convertScalar, h]

theorem mem_unite {names : List (List String)} : name ∈ unite names ↔ ∃ ns ∈ names, name ∈ ns := by
  simp [unite, List.mem_eraseDups]

theorem Composes.refers {schema : Schema} {k : Combination} (h : schema.Composes k)
    {variants : List Validator} {v : Validator} (hv : k.combine variants = some v) :
    v.Refers name ↔ ∃ w ∈ variants, w.Refers name := by
  cases h with
  | oneOf => exact iff_of_alternatives (P := fun v => v.Refers name) hv fun _ => refers_union
  | anyOf => exact refers_of_unionOf? hv
  | allOf => exact refers_of_intersectionOf? hv

theorem refers_objectValidator {fields : List (String × Validator)} {hasProperties : Bool}
    {extra : ExtraKeys Validator} :
    (objectValidator fields hasProperties extra).Refers name ↔
      (∃ field ∈ fields, field.2.Refers name) ∨ ∃ v ∈ extra.schema?, v.Refers name := by
  cases extra <;> simp [objectValidator, ExtraKeys.schema?]

/-! ## Enums and scalars

They refer to nothing and depend on nothing, whatever they are wrapped into. -/

/-- Nothing within the compiled schema is a reference, and it depends on nothing. -/
def Independent (c : Compiled) : Prop := c.dependsOn = [] ∧ ∀ name, ¬ c.validator.Refers name

variable {notes : Annotations} {path : String} {convert : Option Conversion} {style : ArrayStyle}
  {c : Compiled}

theorem not_refers_enumValidator (values : List Value) : ¬ (enumValidator values).Refers name := by
  unfold enumValidator
  split <;> simp

theorem not_refers_pass {base wire : Validator} {kind : TransformKind} {direction : Option Direction}
    (hbase : ¬ base.Refers name) (hwire : ¬ wire.Refers name) :
    ¬ (pass (notes.wrap base) wire kind direction).Refers name := by
  cases direction with
  | none => exact mt refers_wrap.1 hbase
  | some direction => exact mt (refers_convertScalar hwire).1 (mt refers_wrap.1 hbase)

theorem independent_enum {values : List Value}
    (h : compileEnum notes values path convert = .ok c) : Independent c := by
  obtain ⟨-, v, rfl, hv⟩ := compileEnum_ok.1 h
  refine ⟨rfl, fun name => ?_⟩
  have hbase : ¬ (notes.wrap (enumValidator values)).Refers name :=
    mt refers_wrap.1 (not_refers_enumValidator values)
  split at hv
  · obtain ⟨wire, -, rfl⟩ := hv
    rwa [refers_convertScalar not_refers_enum]
  · subst hv
    rwa [refers_convertScalar not_refers_never]
  · exact hv ▸ hbase

theorem independent_scalar {fields : ScalarSchema}
    (h : (compileScalar s notes fields path convert).result = .ok c) : Independent c := by
  cases compileScalar_result h with
  | null => exact ⟨rfl, fun name => by simp [refers_wrap, Validator.type]⟩
  | typed ht =>
    refine ⟨rfl, fun name => ?_⟩
    cases ht with
    | boolean => exact not_refers_pass not_refers_primitive not_refers_enum
    | integer | number => exact not_refers_pass not_refers_primitive not_refers_primitive
  | binary =>
    refine ⟨rfl, fun name => ?_⟩
    cases s.use <;> simp [refers_wrap, binaryBase]
  | date isDate =>
    refine ⟨rfl, fun name => ?_⟩
    dsimp only
    split
    · split <;> simp [refers_wrap, nativeDate, wireDate, Validator.type]
    · rw [refers_convertScalar (by simp [wireDate]), refers_wrap]
      exact not_refers_primitive
  | plain => exact ⟨rfl, fun name => by simp [refers_wrap, stringBase]⟩

/-! ## The whole compilation -/

/-- What the compiled schema refers to, and what it depends on, are the names of the schema. -/
structure Tells (s : Setting) (name : String) (schema : Schema) (c : Compiled) : Prop where
  refers : c.validator.Refers name ↔ schema.Names s name
  depends : name ∈ c.dependsOn ↔ schema.Names s name

theorem Tells.of_independent {schema : Schema} (leaf : schema.children = [])
    (h : ∀ notes target, schema ≠ .ref notes target) (hc : Independent c) :
    Tells s name schema c where
  refers := iff_of_false (hc.2 name) (not_names_of_leaf leaf h)
  depends := iff_of_false (by simp [hc.1]) (not_names_of_leaf leaf h)

theorem Tells.of_requireValue {schema : Schema} {required : Bool} {c' : Compiled}
    (hc : Tells s name schema c) (h : requireValue required path c = .ok c') :
    Tells s name schema c' := by
  obtain ⟨-, rfl⟩ := requireValue_ok.1 h
  split
  · exact hc
  · exact ⟨by simpa using hc.refers, hc.depends⟩

theorem Tells.composes {schema : Schema} {k : Combination} {branches : List Compiled} {v : Validator}
    {hasDefault : Bool} (hk : schema.Composes k)
    (hbranches : List.Forall₂ (Tells s name) k.variants branches)
    (hv : k.combine (branches.map (·.validator)) = some v) :
    Tells s name schema
      { validator := k.notes.wrap v, dependsOn := unite (branches.map (·.dependsOn)), hasDefault } where
  refers := by
    rw [names_composes hk, refers_wrap, hk.refers hv,
      hbranches.exists_iff fun t b hb => hb.refers.symm]
    simp
  depends := by
    rw [names_composes hk, hbranches.exists_iff fun t b hb => hb.depends.symm]
    simp [mem_unite]

theorem Tells.array {items : Schema} {item array : Compiled} (hitem : Tells s name items item)
    (harray : finishArray notes path item = .ok array)
    (hc : joinArray path convert style array = .ok c) : Tells s name (.array notes items) c := by
  obtain ⟨-, rfl⟩ := finishArray_ok.1 harray
  have hnames : (Schema.array notes items).Names s name ↔ items.Names s name := by
    simp [names_iff, children]
  rw [joinArray_ok] at hc
  split at hc
  · obtain ⟨delimiter, -, rfl⟩ := hc
    exact ⟨by simp [refers_wrap, hnames, hitem.refers], by simp [hnames, hitem.depends]⟩
  · subst hc
    exact ⟨by simp [refers_wrap, hnames, hitem.refers], by simp [hnames, hitem.depends]⟩

theorem Tells.object {properties : Option (List (String × Schema))} {required : List String}
    {extra : ExtraKeys Schema} {fields : List (String × Compiled)}
    {compiled : ExtraKeys Validator × List String}
    (hfields : List.Forall₂ (FieldOf (fun schema _ c => Tells s name schema c) required)
      (properties.getD []) fields)
    (hextra : ExtraOf (fun schema _ c => Tells s name schema c) extra compiled)
    (hc : finishObject notes path properties.isSome fields compiled = .ok c) :
    Tells s name (.object notes properties required extra) c := by
  obtain ⟨-, rfl⟩ := finishObject_ok.1 hc
  have hfield : ∀ p f, FieldOf (fun schema _ c => Tells s name schema c) required p f →
      Tells s name p.2 f.2 := by
    rintro _ _ ⟨hc, hneeded⟩
    exact hc.of_requireValue hneeded
  have hnames : (Schema.object notes properties required extra).Names s name ↔
      (∃ p ∈ properties.getD [], p.2.Names s name) ∨ ∃ t ∈ extra.schema?, t.Names s name := by
    have hshape : ∀ other target, Schema.object notes properties required extra ≠ .ref other target :=
      nofun
    rw [names_iff hshape]
    simp only [children, List.mem_append, List.mem_map, or_and_right, exists_or,
      exists_exists_and_eq_and, Option.mem_toList, Option.mem_def]
  constructor
  · rw [hnames, refers_wrap, refers_objectValidator,
      hfields.exists_iff fun p f h => (hfield p f h).refers.symm]
    refine or_congr (by simp) ?_
    cases hextra with
    | unstated | allowed => simp [ExtraKeys.schema?]
    | typed h => simpa [ExtraKeys.schema?] using h.refers
  · rw [hnames, mem_unite, hfields.exists_iff fun p f h => (hfield p f h).depends.symm]
    simp only [List.mem_append, or_and_right, exists_or]
    refine or_congr (by simp) ?_
    cases hextra with
    | unstated | allowed => simp [ExtraKeys.schema?]
    | typed h => simpa [ExtraKeys.schema?] using h.depends

/-- What a compiled schema refers to and what it depends on, both read off its schema. -/
theorem tells_compile (schema : Schema)
    (h : (compile s convert style path schema).result = .ok c) (name : String) :
    Tells s name schema c := by
  refine compile_induction (P := fun schema _ c => Tells s name schema c) ?_ ?_ ?_ ?_ ?_ ?_ schema h
  · intro notes target key v convert hkey _
    have hnames : (Schema.ref notes target).Names s name ↔ s.declarationName key = name := by
      simp [Names, pointsTo_ref, hkey]
    exact ⟨by simp [hnames], by simp [hnames, eq_comm]⟩
  · intro schema k convert branches v hk hbranches hv
    exact .composes hk hbranches hv
  · intro notes values path convert c hc
    exact .of_independent rfl nofun (independent_enum hc)
  · intro notes fields path convert c hc
    exact .of_independent rfl nofun (independent_scalar hc)
  · intro notes items path convert style item array c _ hitem _ harray hc
    exact hitem.array harray hc
  · intro notes properties required extra path fields compiled c _ hfields hextra hc
    exact .object hfields hextra hc

theorem tells_compileValue {schema : Schema} {required : Bool}
    (h : (schema.compileValue s required path convert style).result = .ok c) (name : String) :
    Tells s name schema c := by
  simp only [compileValue, Reported.result_bind, Reported.result_lift, bind_eq_ok] at h
  obtain ⟨c', hc', h⟩ := h
  exact (tells_compile schema hc' name).of_requireValue h

theorem tells_compileRepeated {schema : Schema} {required : Bool}
    (h : (schema.compileRepeated s required path convert).result = .ok c) (name : String) :
    Tells s name schema c := by
  unfold compileRepeated at h
  split at h
  next notes items =>
    simp only [Reported.result_bind, Reported.result_lift, bind_eq_ok] at h
    obtain ⟨item, hitem, array, harray, h⟩ := h
    have hjoin : joinArray path none .standard array = .ok array := rfl
    exact ((tells_compileValue hitem name).array harray hjoin).of_requireValue h
  next => cases h

/-- Whatever compiles depends on the names of the references within it: a schema, a value that must or
need not be there, and an array whose items arrive apart. -/
theorem tracksReferences_compile (schema : Schema) :
    Gives Compiled.TracksReferences (compile s convert style path schema).result ∧
      ∀ required,
        Gives Compiled.TracksReferences (compileValue s required path schema convert style).result ∧
          Gives Compiled.TracksReferences (compileRepeated s required path schema convert).result := by
  have htells : ∀ {c : Compiled}, (∀ name, Tells s name schema c) → c.TracksReferences :=
    fun h name => (h name).depends.trans (h name).refers.symm
  refine ⟨fun c hc => htells (tells_compile schema hc), fun required => ⟨fun c hc => ?_, fun c hc => ?_⟩⟩
  · exact htells (tells_compileValue hc)
  · exact htells (tells_compileRepeated hc)

/-- Pets by their names, with the tags of all of them. -/
def kennelSchema : Schema :=
  .object ⟨none, false, none⟩
    (some [("tags", .array ⟨none, true, none⟩ (.ref ⟨none, false, none⟩ "#/components/schemas/Tag"))])
    [] (.typed (.oneOf ⟨none, false, none⟩
      [.ref ⟨none, false, none⟩ "#/components/schemas/Pet",
        .ref ⟨none, false, none⟩ "#/components/schemas/Tag"] none))

/-- The component schemas `Pet` and `Tag`, for what arrives in a request. -/
def kennelSetting : Setting where
  document := .object [("components", .object [("schemas", .object [
    ("Pet", .object []), ("Tag", .object [])])])]
  suffix := "__Req"

theorem tracksReferences_kennel :
    ∃ c, (compile kennelSetting none .standard "#" kennelSchema).result = .ok c ∧
      ∀ name, c.validator.Refers name ↔ name = "Tag__Req" ∨ name = "Pet__Req" := by
  have hdepends : (compile kennelSetting none .standard "#" kennelSchema).result.toOption.map
      (·.dependsOn) = some ["Tag__Req", "Pet__Req"] := by decide +kernel
  obtain ⟨c, hc, hdepends⟩ := eq_ok_of_toOption hdepends
  have htracks := (tracksReferences_compile kennelSchema).1 c hc
  refine ⟨c, hc, fun name => ?_⟩
  rw [← htracks name, hdepends]
  simp

end Schema

end ApiContract
