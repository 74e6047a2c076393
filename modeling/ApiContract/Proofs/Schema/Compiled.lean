import ApiContract.Proofs.Outcome
import ApiContract.Proofs.Schema.Within

/-!
# What compiled schemas are made of

For each shape of a schema, when it compiles and what from: a composition from its compiled branches, an
array from its compiled items, an object from its compiled properties and the validator of other keys.
Walks through branches and properties are told as `List.mapM`, their success as a pairing of schemas with
what they compile to.
-/

namespace ApiContract

/-- A validator with `nullable` and then `default` applied to it, whatever the default is. -/
def Annotations.wrap (notes : Annotations) (v : Validator) : Validator :=
  let v := if notes.nullable then .nullable v else v
  match notes.default with
  | none => v
  | some default => .default v default

/-- A property that goes through `nullable` and `default` goes through annotations. -/
theorem Annotations.wrap_iff {P : Validator → Prop} {notes : Annotations} {v : Validator}
    (hnullable : ∀ w, P (.nullable w) ↔ P w) (hdefault : ∀ w value, P (.default w value) ↔ P w) :
    P (notes.wrap v) ↔ P v := by
  unfold Annotations.wrap
  cases notes.default <;> cases notes.nullable <;> simp [hnullable, hdefault]

namespace Schema

open Outcome

variable {s : Setting} {convert : Option Conversion} {style : ArrayStyle} {path : String}
  {notes : Annotations} {c : Compiled}

theorem finish_eq_ok {rule : Option DefaultRule} {v w : Validator} {hasDefault : Bool} :
    finish notes path rule v = .ok (w, hasDefault) ↔
      notes.wrap v = w ∧ notes.default.isSome = hasDefault ∧
        ∀ default ∈ notes.default, ∀ r ∈ rule, r.accepts default = true := by
  unfold finish Annotations.wrap
  cases notes.default with
  | none => simp
  | some default =>
    cases rule with
    | none => simp
    | some rule =>
      by_cases h : rule.accepts default = true
      · simp [h]
      · simp [h, uncompilable]

/-! ## Walks -/

theorem compileBranches_eq_mapM (index : Nat) (variants : List Schema) :
    compileBranches s convert style path index variants =
      (variants.zipIdx index).mapM fun (schema, i) =>
        compile s convert style (Pointer.item path i) schema := by
  induction variants generalizing index with
  | nil => rfl
  | cons schema rest ih => simp only [compileBranches, List.zipIdx_cons, List.mapM_cons, ih]

/-- A property of an object, which has to be there if its name is required. -/
def compileProperty (s : Setting) (path : String) (required : List String)
    (property : String × Schema) : Reported (String × Compiled) := do
  let place := Pointer.child path property.1
  let c ← compile s none .standard place property.2
  return (property.1, ← requireValue (required.contains property.1) place c)

theorem compileProperties_eq_mapM (required : List String) (properties : List (String × Schema)) :
    compileProperties s path required properties =
      properties.mapM (compileProperty s path required) := by
  induction properties with
  | nil => rfl
  | cons property rest ih =>
    simp only [compileProperties, compileProperty, List.mapM_cons, bind_assoc, pure_bind, ih]

/-! ## Shapes -/

theorem compile_composes {schema : Schema} {k : Combination} (h : schema.Composes k) :
    compile s convert style path schema = (do
      let branches ← compileBranches s convert style (Pointer.raw path k.keyword) 0 k.variants
      composeBranches k.notes path branches k.combine k.keyword) := by
  cases h <;> rfl

/-- The last step of the compilation of an object, from its fields and from what is checked of keys
that are not listed. -/
def finishObject (notes : Annotations) (path : String) (hasProperties : Bool)
    (fields : List (String × Compiled)) (extra : ExtraKeys Validator × List String) :
    Except Fault Compiled := do
  let v := objectValidator (fields.map fun (name, c) => (name, c.validator)) hasProperties extra.1
  let (v, hasDefault) ← finish notes path (some .object) v
  return {
    validator := v, dependsOn := unite (fields.map (·.2.dependsOn) ++ [extra.2]), hasDefault }

theorem compile_object {properties : Option (List (String × Schema))} {required : List String}
    {extra : ExtraKeys Schema} :
    compile s convert style path (.object notes properties required extra) =
      (if convert.isSome then .fail (.uncompilable (.conversion .object) path)
      else
        match danglingName? required (properties.getD []) with
        | some name => .fail (.uncompilable (.danglingRequired name) path)
        | none => do
          let fields ← (properties.getD []).mapM
            (compileProperty s (Pointer.raw path "properties") required)
          let extra ← compileExtra s (Pointer.raw path "additionalProperties") extra
          finishObject notes path properties.isSome fields extra) := by
  simp only [finishObject, Reported.lift_bind, Reported.lift_pure]
  cases properties with
  | none => rfl
  | some properties =>
    simp only [← compileProperties_eq_mapM, Option.getD_some]
    rfl

/-! ## Success -/

/-- The name that a reference to a component schema gives, with its escapes undone. -/
def componentKey? (target : String) : Option String :=
  (componentPath.toList.isPrefixOf? target.toList).map fun segment =>
    Pointer.unescape (String.ofList segment)

/-- A reference compiles when it leads to something within the component schemas. -/
theorem compile_ref_ok {target : String} :
    (compile s convert style path (.ref notes target)).result = .ok c ↔
      ∃ key v, componentKey? target = some key ∧ Pointer.find s.document target = .ok v ∧
        { validator := .ref (s.declarationName key), dependsOn := [s.declarationName key] } = c := by
  simp only [compile, Reported.result_lift, compileRef, componentKey?]
  by_cases hlocal : Pointer.isLocal target = true
  · cases hsegment : componentPath.toList.isPrefixOf? target.toList with
    | none => simp [hlocal, uncompilable_ne_ok]
    | some segment =>
      simp only [hlocal, Bool.not_true, Bool.false_eq_true, ↓reduceIte, bind_eq_ok, pure_eq_ok,
        Option.map_some, Option.some.injEq, Pointer.follow]
      cases hfind : Pointer.find s.document target with
      | error problem => simp [uncompilable_ne_ok]
      | ok v => simp
  · have hnone : componentPath.toList.isPrefixOf? target.toList = none := by
      by_contra h
      obtain ⟨segment, hsegment⟩ := Option.ne_none_iff_exists'.1 h
      rw [List.isPrefixOf?_eq_some_iff_append_eq] at hsegment
      apply hlocal
      rw [Pointer.isLocal, ← hsegment]
      rfl
    simp [hlocal, hnone, uncompilable_ne_ok]

theorem compileBranches_ok {index : Nat} {variants : List Schema} {branches : List Compiled} :
    (compileBranches s convert style path index variants).result = .ok branches ↔
      List.Forall₂ (fun b c => (compile s convert style (Pointer.item path b.2) b.1).result = .ok c)
        (variants.zipIdx index) branches := by
  rw [compileBranches_eq_mapM, Reported.result_mapM, mapM_eq_ok]

theorem composeBranches_ok {branches : List Compiled} {combine : List Validator → Option Validator}
    {keyword : String} :
    composeBranches notes path branches combine keyword = .ok c ↔
      ∃ v, combine (branches.map (·.validator)) = some v ∧
        { validator := notes.wrap v, dependsOn := unite (branches.map (·.dependsOn)),
          hasDefault :=
            branches.length == 1 && branches.any (·.hasDefault) || notes.default.isSome } = c := by
  unfold composeBranches
  cases combine (branches.map (·.validator)) with
  | none => simp [uncompilable_ne_ok]
  | some v =>
    simp only [bind_eq_ok, pure_eq_ok, Prod.exists, finish_eq_ok]
    simp

theorem compile_composes_ok {schema : Schema} {k : Combination} (h : schema.Composes k) :
    (compile s convert style path schema).result = .ok c ↔
      ∃ branches v,
        List.Forall₂ (fun b c => (compile s convert style
            (Pointer.item (Pointer.raw path k.keyword) b.2) b.1).result = .ok c)
          k.variants.zipIdx branches ∧
        k.combine (branches.map (·.validator)) = some v ∧
        { validator := k.notes.wrap v, dependsOn := unite (branches.map (·.dependsOn)),
          hasDefault :=
            branches.length == 1 && branches.any (·.hasDefault) || k.notes.default.isSome } = c := by
  simp only [compile_composes h, Reported.result_bind, Reported.result_lift, bind_eq_ok,
    compileBranches_ok, composeBranches_ok, exists_and_left]

theorem requireValue_ok {required : Bool} {c' : Compiled} :
    requireValue required path c = .ok c' ↔
      (required = true → c.hasDefault = false) ∧
        (if required || c.hasDefault then c else { c with validator := .optional c.validator }) =
          c' := by
  unfold requireValue
  cases required <;> cases c.hasDefault <;> simp [uncompilable_ne_ok]

theorem finishArray_ok {item : Compiled} :
    finishArray notes path item = .ok c ↔
      (∀ default ∈ notes.default, DefaultRule.array.accepts default = true) ∧
        { validator := notes.wrap (.array item.validator), dependsOn := item.dependsOn,
          hasDefault := notes.default.isSome } = c := by
  simp only [finishArray, bind_eq_ok, pure_eq_ok, Prod.exists, finish_eq_ok]
  simp [and_comm]

/-- An array that stands for one string is joined by a delimiter, any other stays as it is. -/
theorem joinArray_ok {c' : Compiled} :
    joinArray path convert style c = .ok c' ↔
      if convert.isSome && !style.explode then
        ∃ delimiter, style.delimiter? = some delimiter ∧
          { c with validator := .transform c.validator .stringify .join (some delimiter) none } = c'
      else c = c' := by
  unfold joinArray
  split
  · cases style.delimiter? <;> simp [uncompilable_ne_ok]
  · simp

theorem compile_array_ok {items : Schema} :
    (compile s convert style path (.array notes items)).result = .ok c ↔
      convert.any (·.direction == .fromString) = false ∧
        ∃ item, (compile s convert .standard (Pointer.raw path "items") items).result = .ok item ∧
          item.hasDefault = false ∧
          ∃ array, finishArray notes path item = .ok array ∧
            joinArray path convert style array = .ok c := by
  simp only [compile]
  by_cases h : convert.any (·.direction == .fromString) = true
  · simp [h]
  · simp only [Bool.not_eq_true] at h
    simp only [h, Bool.false_eq_true, ↓reduceIte, Reported.result_bind, Reported.result_lift,
      bind_eq_ok, requireValue_ok]
    simp

theorem compileProperty_ok {required : List String} {property : String × Schema}
    {field : String × Compiled} :
    (compileProperty s path required property).result = .ok field ↔
      ∃ c, (compile s none .standard (Pointer.child path property.1) property.2).result = .ok c ∧
        ∃ c', requireValue (required.contains property.1) (Pointer.child path property.1) c = .ok c' ∧
          (property.1, c') = field := by
  simp only [compileProperty, Reported.result_bind, Reported.result_lift, Reported.result_pure,
    bind_eq_ok, Except.ok.injEq]

theorem compileExtra_ok {extra : ExtraKeys Schema} {compiled : ExtraKeys Validator × List String} :
    (compileExtra s path extra).result = .ok compiled ↔
      match extra with
      | .unstated => (.unstated, []) = compiled
      | .allowed allow => (.allowed allow, []) = compiled
      | .typed schema => ∃ c, (compile s none .standard path schema).result = .ok c ∧
          (.typed c.validator, c.dependsOn) = compiled := by
  cases extra with
  | unstated => simp [compileExtra]
  | allowed allow => simp [compileExtra]
  | typed schema =>
    simp only [compileExtra, Reported.result_bind, Reported.result_pure, bind_eq_ok,
      Except.ok.injEq]

theorem finishObject_ok {hasProperties : Bool} {fields : List (String × Compiled)}
    {extra : ExtraKeys Validator × List String} :
    finishObject notes path hasProperties fields extra = .ok c ↔
      (∀ default ∈ notes.default, DefaultRule.object.accepts default = true) ∧
        { validator := notes.wrap (objectValidator (fields.map fun (name, c) => (name, c.validator))
            hasProperties extra.1),
          dependsOn := unite (fields.map (·.2.dependsOn) ++ [extra.2]),
          hasDefault := notes.default.isSome } = c := by
  simp only [finishObject, bind_eq_ok, pure_eq_ok, Prod.exists, finish_eq_ok]
  simp [and_comm]

theorem compile_object_ok {properties : Option (List (String × Schema))} {required : List String}
    {extra : ExtraKeys Schema} :
    (compile s convert style path (.object notes properties required extra)).result = .ok c ↔
      convert = none ∧ danglingName? required (properties.getD []) = none ∧
        ∃ fields compiled,
          List.Forall₂ (fun p f =>
              (compileProperty s (Pointer.raw path "properties") required p).result = .ok f)
            (properties.getD []) fields ∧
          (compileExtra s (Pointer.raw path "additionalProperties") extra).result = .ok compiled ∧
          finishObject notes path properties.isSome fields compiled = .ok c := by
  rw [compile_object]
  cases convert with
  | some convert => simp
  | none =>
    cases danglingName? required (properties.getD []) with
    | some name => simp
    | none =>
      simp only [Option.isSome_none, Bool.false_eq_true, ↓reduceIte, Reported.result_bind,
        Reported.result_lift, Reported.result_mapM, bind_eq_ok, mapM_eq_ok, true_and,
        exists_and_left]

/-! ## Induction over success -/

/-- What a field of an object is compiled to, given what `P` says of its schema. -/
inductive FieldOf (P : Schema → Option Conversion → Compiled → Prop) (required : List String) :
    String × Schema → String × Compiled → Prop where
  | intro {name : String} {schema : Schema} {c c' : Compiled} {path : String} (compiled : P schema none c)
    (needed : requireValue (required.contains name) path c = .ok c') :
    FieldOf P required (name, schema) (name, c')

/-- What is checked of keys that are not listed, given what `P` says of their schema. -/
inductive ExtraOf (P : Schema → Option Conversion → Compiled → Prop) :
    ExtraKeys Schema → ExtraKeys Validator × List String → Prop where
  | unstated : ExtraOf P .unstated (.unstated, [])
  | allowed (allow : Bool) : ExtraOf P (.allowed allow) (.allowed allow, [])
  | typed {schema : Schema} {c : Compiled} (compiled : P schema none c) :
    ExtraOf P (.typed schema) (.typed c.validator, c.dependsOn)

/-- What holds of everything that compiles: `P` relates a schema, the conversion asked for and what the
schema compiles to. -/
theorem compile_induction {P : Schema → Option Conversion → Compiled → Prop}
    (ref : ∀ notes target key v convert, componentKey? target = some key →
      Pointer.find s.document target = .ok v →
      P (.ref notes target) convert
        { validator := .ref (s.declarationName key), dependsOn := [s.declarationName key] })
    (composed : ∀ schema k convert branches v, schema.Composes k →
      List.Forall₂ (fun t b => P t convert b) k.variants branches →
      k.combine (branches.map (·.validator)) = some v →
      P schema convert
        { validator := k.notes.wrap v, dependsOn := unite (branches.map (·.dependsOn)),
          hasDefault :=
            branches.length == 1 && branches.any (·.hasDefault) || k.notes.default.isSome })
    (enum : ∀ notes values path convert c, compileEnum notes values path convert = .ok c →
      P (.enum notes values) convert c)
    (scalar : ∀ notes fields path convert c,
      (compileScalar s notes fields path convert).result = .ok c → P (.scalar notes fields) convert c)
    (array : ∀ notes items path convert style item array c,
      convert.any (·.direction == .fromString) = false → P items convert item →
      item.hasDefault = false → finishArray notes path item = .ok array →
      joinArray path convert style array = .ok c → P (.array notes items) convert c)
    (object : ∀ notes properties required extra path fields compiled c,
      danglingName? required (properties.getD []) = none →
      List.Forall₂ (FieldOf P required) (properties.getD []) fields → ExtraOf P extra compiled →
      finishObject notes path properties.isSome fields compiled = .ok c →
      P (.object notes properties required extra) none c)
    (schema : Schema) (h : (compile s convert style path schema).result = .ok c) :
    P schema convert c := by
  induction schema using Schema.induction generalizing convert style path c with
  | step schema ih =>
    induction schema using shapes with
    | ref notes target =>
      obtain ⟨key, v, hkey, hv, rfl⟩ := compile_ref_ok.1 h
      exact ref notes target key v convert hkey hv
    | composed schema k hk =>
      obtain ⟨branches, v, hbranches, hv, rfl⟩ := (compile_composes_ok hk).1 h
      refine composed schema k convert branches v hk ?_ hv
      rw [hk.children] at ih
      exact hbranches.of_zipIdx fun t ht _ _ hb => ih t ht hb
    | enum notes values => exact enum notes values path convert c (by simpa [compile] using h)
    | scalar notes fields => exact scalar notes fields path convert c (by simpa [compile] using h)
    | array notes items =>
      obtain ⟨hconvert, item, hitem, hdefault, array', harray, hc⟩ := compile_array_ok.1 h
      exact array notes items path convert style item array' c hconvert
        (ih items items_mem_children hitem) hdefault harray hc
    | object notes properties required extra =>
      obtain ⟨rfl, hdangling, fields, compiled, hfields, hextra, hc⟩ := compile_object_ok.1 h
      refine object notes properties required extra path fields compiled c hdangling ?_ ?_ hc
      · refine hfields.imp_of_mem fun p hp f hf => ?_
        obtain ⟨b, hb, b', hb', rfl⟩ := compileProperty_ok.1 hf
        exact .intro (ih p.2 (property_mem_children hp) hb) hb'
      · have hextra := compileExtra_ok.1 hextra
        cases extra with
        | unstated => exact hextra ▸ .unstated
        | allowed allow => exact hextra ▸ .allowed allow
        | typed schema =>
          obtain ⟨b, hb, rfl⟩ := hextra
          exact .typed (ih schema (extra_mem_children rfl) hb)

/-- What holds of everything that compiles as it is, without a passage, where a condition on the schema
passes to what it is made of. -/
theorem compile_induction_of {P : Schema → Compiled → Prop} {Q : Schema → Prop}
    (child : ∀ schema t, Q schema → t ∈ schema.children → Q t)
    (ref : ∀ notes target key v, componentKey? target = some key →
      Pointer.find s.document target = .ok v →
      P (.ref notes target)
        { validator := .ref (s.declarationName key), dependsOn := [s.declarationName key] })
    (composed : ∀ schema k branches v, Q schema → schema.Composes k →
      List.Forall₂ P k.variants branches → k.combine (branches.map (·.validator)) = some v →
      P schema
        { validator := k.notes.wrap v, dependsOn := unite (branches.map (·.dependsOn)),
          hasDefault :=
            branches.length == 1 && branches.any (·.hasDefault) || k.notes.default.isSome })
    (enum : ∀ notes values path c, compileEnum notes values path none = .ok c →
      P (.enum notes values) c)
    (scalar : ∀ notes fields path c, Q (.scalar notes fields) →
      (compileScalar s notes fields path none).result = .ok c → P (.scalar notes fields) c)
    (array : ∀ notes items path item c, P items item → finishArray notes path item = .ok c →
      P (.array notes items) c)
    (object : ∀ notes properties required extra path fields compiled c,
      Q (.object notes properties required extra) →
      danglingName? required (properties.getD []) = none →
      List.Forall₂ (FieldOf (fun schema _ c => P schema c) required) (properties.getD []) fields →
      ExtraOf (fun schema _ c => P schema c) extra compiled →
      finishObject notes path properties.isSome fields compiled = .ok c →
      P (.object notes properties required extra) c)
    (schema : Schema) (hschema : Q schema)
    (h : (compile s none style path schema).result = .ok c) : P schema c := by
  refine compile_induction (s := s) (P := fun schema convert c => convert = none → Q schema → P schema c)
    ?_ ?_ ?_ ?_ ?_ ?_ schema h rfl hschema
  · intro notes target key v convert hkey hv _ _
    exact ref notes target key v hkey hv
  · intro schema k convert branches v hk hbranches hv hconvert hschema
    refine composed schema k branches v hschema hk (hbranches.imp_of_mem fun t ht b hb => ?_) hv
    exact hb hconvert (child schema t hschema (hk.children ▸ ht))
  · rintro notes values path convert c hc rfl -
    exact enum notes values path c hc
  · rintro notes fields path convert c hc rfl hschema
    exact scalar notes fields path c hschema hc
  · rintro notes items path convert style item array' c - hitem - harray hc rfl hschema
    obtain rfl : array' = c := by simpa [joinArray_ok] using hc
    have hitem := hitem rfl (child _ items hschema items_mem_children)
    exact array notes items path item array' hitem harray
  · intro notes properties required extra path fields compiled c hdangling hfields hextra hc _ hschema
    refine object notes properties required extra path fields compiled c hschema hdangling
      (hfields.imp_of_mem ?_) ?_ hc
    · rintro p hp f ⟨hcompiled, hneeded⟩
      exact .intro (hcompiled rfl (child _ _ hschema (property_mem_children hp))) hneeded
    · cases hextra with
      | unstated => exact .unstated
      | allowed allow => exact .allowed allow
      | typed hcompiled =>
        exact .typed (hcompiled rfl (child _ _ hschema (extra_mem_children rfl)))

end Schema

end ApiContract
