import ApiContract.Proofs.Schema.Meaning

/-!
# Values that may be absent

A value that need not be there is made optional unless its schema has a default, and one that has to be
there must not have any. Whether there is a default is told by `HasDefault`, but the validator admits
absence only where the schema `Supplies` one. The two differ for a value that is parsed from a string,
whose default stands behind the string, and for a composition of several branches, which has none of the
defaults of its branches. So what may be absent is what is not required except there:
`admitsAbsence_compileValue`.
-/

namespace ApiContract

namespace Schema

open Outcome Validator

/-- The schema states a default, which counts for every schema but a reference. -/
def OwnDefault (schema : Schema) : Prop :=
  schema.notes.default.isSome = true ∧ ∀ notes target, schema ≠ .ref notes target

/-- The value is made of a string that takes its place on the wire. -/
def Parsed (s : Setting) (convert : Option Conversion) : Schema → Prop
  | .scalar _ fields =>
    match fields.type with
    | .string => (fields.format = some "date" ∨ fields.format = some "date-time") ∧
        dateDirection s convert = some .fromString
    | _ => convert.map (·.direction) = some .fromString
  | .enum _ values => texts? values = none ∧ convert.map (·.direction) = some .fromString
  | _ => False

/-- A default of its own, or that of its only branch. -/
inductive HasDefault : Schema → Prop where
  | own {schema : Schema} (h : schema.OwnDefault) : HasDefault schema
  | branch {schema t : Schema} {k : Combination} (composes : schema.Composes k)
    (single : k.variants = [t]) (h : HasDefault t) : HasDefault schema

/-- A default takes the place of an absent value: one that is not parsed from a string, or such a default
in one of several alternatives or in all parts of an intersection. -/
inductive Supplies (s : Setting) (convert : Option Conversion) : Schema → Prop where
  | own {schema : Schema} (h : schema.OwnDefault) (direct : ¬ schema.Parsed s convert) :
    Supplies s convert schema
  | oneOf {notes : Annotations} {variants : List Schema} {discriminator : Option String} {t : Schema}
    (member : t ∈ variants) (h : Supplies s convert t) :
    Supplies s convert (.oneOf notes variants discriminator)
  | anyOf {notes : Annotations} {variants : List Schema} {t : Schema} (member : t ∈ variants)
    (h : Supplies s convert t) : Supplies s convert (.anyOf notes variants)
  | allOf {notes : Annotations} {variants : List Schema} (h : ∀ t ∈ variants, Supplies s convert t) :
    Supplies s convert (.allOf notes variants)

variable {s : Setting} {convert : Option Conversion} {notes : Annotations} {path : String}
  {c : Compiled}

/-! ## Schemas without branches -/

theorem not_ownDefault_ref {target : String} : ¬ (Schema.ref notes target).OwnDefault := by
  rintro ⟨-, h⟩
  exact h notes target rfl

theorem ownDefault_iff {schema : Schema} (h : ∀ notes target, schema ≠ .ref notes target) :
    schema.OwnDefault ↔ schema.notes.default.isSome = true :=
  and_iff_left h

theorem hasDefault_iff {schema : Schema} (h : ∀ k, ¬ schema.Composes k) :
    schema.HasDefault ↔ schema.OwnDefault := by
  constructor
  · intro hdefault
    cases hdefault with
    | own hown => exact hown
    | branch composes => exact absurd composes (h _)
  · exact .own

theorem supplies_iff {schema : Schema} (h : ∀ k, ¬ schema.Composes k) :
    schema.Supplies s convert ↔ schema.OwnDefault ∧ ¬ schema.Parsed s convert := by
  constructor
  · intro hsupplies
    cases hsupplies with
    | own hown direct => exact ⟨hown, direct⟩
    | oneOf => exact absurd (.oneOf _ _ _) (h _)
    | anyOf => exact absurd (.anyOf _ _) (h _)
    | allOf => exact absurd (.allOf _ _) (h _)
  · rintro ⟨hown, direct⟩
    exact .own hown direct

/-! ## Compositions -/

theorem Composes.ownDefault {schema : Schema} {k : Combination} (h : schema.Composes k) :
    schema.OwnDefault ↔ k.notes.default.isSome = true := by
  rw [ownDefault_iff (by rintro notes target rfl; cases h), h.notes]

theorem Composes.hasDefault {schema : Schema} {k : Combination} (h : schema.Composes k) :
    schema.HasDefault ↔ (∃ t, k.variants = [t] ∧ t.HasDefault) ∨ k.notes.default.isSome = true := by
  constructor
  · intro hdefault
    cases hdefault with
    | own hown => exact .inr (h.ownDefault.1 hown)
    | branch composes single hbranch =>
      obtain rfl := h.unique composes
      exact .inl ⟨_, single, hbranch⟩
  · rintro (⟨t, single, hbranch⟩ | hown)
    · exact .branch h single hbranch
    · exact .own (h.ownDefault.2 hown)

theorem supplies_oneOf {variants : List Schema} {discriminator : Option String} :
    (Schema.oneOf notes variants discriminator).Supplies s convert ↔
      (Schema.oneOf notes variants discriminator).OwnDefault ∨
        ∃ t ∈ variants, t.Supplies s convert := by
  constructor
  · intro h
    cases h with
    | own hown => exact .inl hown
    | oneOf member h => exact .inr ⟨_, member, h⟩
  · rintro (hown | ⟨t, member, h⟩)
    · exact .own hown id
    · exact .oneOf member h

theorem supplies_anyOf {variants : List Schema} :
    (Schema.anyOf notes variants).Supplies s convert ↔
      (Schema.anyOf notes variants).OwnDefault ∨ ∃ t ∈ variants, t.Supplies s convert := by
  constructor
  · intro h
    cases h with
    | own hown => exact .inl hown
    | anyOf member h => exact .inr ⟨_, member, h⟩
  · rintro (hown | ⟨t, member, h⟩)
    · exact .own hown id
    · exact .anyOf member h

theorem supplies_allOf {variants : List Schema} :
    (Schema.allOf notes variants).Supplies s convert ↔
      (Schema.allOf notes variants).OwnDefault ∨ ∀ t ∈ variants, t.Supplies s convert := by
  constructor
  · intro h
    cases h with
    | own hown => exact .inl hown
    | allOf h => exact .inr h
  · rintro (hown | h)
    · exact .own hown id
    · exact .allOf h

/-- A composition admits absence by a default of its own, or when its branches do. -/
theorem Composes.supplies {schema : Schema} {k : Combination} (h : schema.Composes k)
    {branches : List Compiled} {core : Validator}
    (hbranches : List.Forall₂ (fun t b => b.validator.AdmitsAbsence ↔ t.Supplies s convert)
      k.variants branches)
    (hcore : k.combine (branches.map (·.validator)) = some core) :
    (k.notes.wrap core).AdmitsAbsence ↔ schema.Supplies s convert := by
  have hsome : (∃ w ∈ branches.map (·.validator), w.AdmitsAbsence) ↔
      ∃ t ∈ k.variants, t.Supplies s convert := by
    rw [hbranches.exists_iff fun t b h => h.symm]
    simp
  have hall : (∀ w ∈ branches.map (·.validator), w.AdmitsAbsence) ↔
      ∀ t ∈ k.variants, t.Supplies s convert := by
    rw [hbranches.forall_iff fun t b h => h.symm]
    simp
  rw [admitsAbsence_wrap, ← h.ownDefault]
  cases h with
  | oneOf =>
    rw [iff_of_alternatives hcore fun _ => admitsAbsence_union, hsome, supplies_oneOf]
  | anyOf => rw [iff_of_unionOf? hcore fun _ => admitsAbsence_union, hsome, supplies_anyOf]
  | allOf =>
    rw [iff_of_intersectionOf? hcore fun _ => admitsAbsence_intersection, hall, supplies_allOf]

/-! ## The whole compilation -/

/-- What the compiled schema says of defaults, and whether its validator admits absence. -/
structure TellsAbsence (s : Setting) (schema : Schema) (convert : Option Conversion) (c : Compiled) :
    Prop where
  default : c.hasDefault = true ↔ schema.HasDefault
  absence : c.validator.AdmitsAbsence ↔ schema.Supplies s convert

/-- A schema without branches admits absence by its own default, if nothing stands before it. -/
theorem TellsAbsence.leaf {schema : Schema} (hcomposes : ∀ k, ¬ schema.Composes k)
    (href : ∀ notes target, schema ≠ .ref notes target)
    (hdefault : c.hasDefault = schema.notes.default.isSome)
    (habsence : c.validator.AdmitsAbsence ↔
      schema.notes.default.isSome = true ∧ ¬ schema.Parsed s convert) :
    TellsAbsence s schema convert c where
  default := by rw [hdefault, hasDefault_iff hcomposes, ownDefault_iff href]
  absence := by rw [habsence, supplies_iff hcomposes, ownDefault_iff href]

theorem TellsAbsence.composes {schema : Schema} {k : Combination} (h : schema.Composes k)
    {branches : List Compiled} {core : Validator} {dependsOn : List String}
    (hbranches : List.Forall₂ (fun t b => TellsAbsence s t convert b) k.variants branches)
    (hcore : k.combine (branches.map (·.validator)) = some core) :
    TellsAbsence s schema convert
      { validator := k.notes.wrap core, dependsOn,
        hasDefault :=
          branches.length == 1 && branches.any (·.hasDefault) || k.notes.default.isSome } where
  default := by
    rw [h.hasDefault, Bool.or_eq_true]
    refine or_congr_left ?_
    generalize k.variants = variants at hbranches
    -- Only a single branch is asked for its default.
    match hbranches with
    | .nil => simp
    | .cons hfirst .nil => simp [hfirst.default]
    | .cons _ (.cons _ _) => simp
  absence := h.supplies (hbranches.imp fun _ _ hb => hb.absence) hcore

theorem admitsAbsence_pass {typed wire : Validator} {kind : TransformKind}
    {direction : Option Direction} (hwire : ¬ wire.AdmitsAbsence) :
    (pass typed wire kind direction).AdmitsAbsence ↔
      typed.AdmitsAbsence ∧ direction ≠ some .fromString := by
  match direction with
  | none => simp [pass]
  | some .fromString => simp [pass, convertScalar, hwire]
  | some .toString => simp [pass, convertScalar]

theorem admitsAbsence_wrap_of_not {core : Validator} (h : ¬ core.AdmitsAbsence) :
    (notes.wrap core).AdmitsAbsence ↔ notes.default.isSome = true := by
  rw [admitsAbsence_wrap, or_iff_left h]

theorem TellsAbsence.enum {values : List Value} (h : compileEnum notes values path convert = .ok c) :
    TellsAbsence s (.enum notes values) convert c := by
  obtain ⟨-, v, rfl, hv⟩ := compileEnum_ok.1 h
  refine .leaf nofun nofun rfl ?_
  have hbase : (notes.wrap (enumValidator values)).AdmitsAbsence ↔ notes.default.isSome = true :=
    admitsAbsence_wrap_of_not (not_admitsAbsence_enumValidator values)
  by_cases hparsed : (Schema.enum notes values).Parsed s convert
  · obtain ⟨htexts, hdirection⟩ := id hparsed
    obtain ⟨⟨_, location⟩, rfl, rfl⟩ := Option.map_eq_some_iff.1 hdirection
    rw [htexts] at hv
    obtain ⟨wire, -, rfl⟩ := hv
    have hwire : ¬ (Validator.enum wire).AdmitsAbsence := nofun
    simp [convertScalar, hwire, hparsed]
  · have hv : v.AdmitsAbsence ↔ (notes.wrap (enumValidator values)).AdmitsAbsence := by
      split at hv
      next htexts => exact absurd ⟨htexts, rfl⟩ hparsed
      next => simp [hv, convertScalar]
      next => rw [hv]
    rw [hv, hbase, and_iff_left hparsed]
    rfl

theorem Typed.parsed {fields : ScalarSchema} {base wire : Validator} {rule : DefaultRule}
    {kind : TransformKind} (h : Typed fields base wire rule kind) :
    (Schema.scalar notes fields).Parsed s convert ↔
      convert.map (·.direction) = some .fromString := by
  cases h with
  | boolean h | integer h | number h => simp [Parsed, h]

theorem Typed.not_admitsAbsence_wire {fields : ScalarSchema} {base wire : Validator}
    {rule : DefaultRule} {kind : TransformKind} (h : Typed fields base wire rule kind) :
    ¬ wire.AdmitsAbsence := by
  cases h <;> exact nofun

theorem TellsAbsence.scalar {fields : ScalarSchema}
    (h : (compileScalar s notes fields path convert).result = .ok c) :
    TellsAbsence s (.scalar notes fields) convert c := by
  cases compileScalar_result h with
  | null htype hconvert =>
    have hnull : ¬ (Validator.type .null).AdmitsAbsence := nofun
    refine .leaf nofun nofun rfl ?_
    rw [admitsAbsence_wrap_of_not hnull]
    simp [Parsed, htype, hconvert, Schema.notes]
  | typed htyped =>
    refine .leaf nofun nofun rfl ?_
    rw [admitsAbsence_pass htyped.not_admitsAbsence_wire,
      admitsAbsence_wrap_of_not htyped.not_admitsAbsence, htyped.parsed]
    rfl
  | binary htype hformat hdefault =>
    have hbinary {form : BinaryForm} : ¬ (Validator.binary form).AdmitsAbsence := nofun
    have hbase : ¬ (binaryBase s.use).AdmitsAbsence := by
      unfold binaryBase
      split
      · simp [hbinary]
      · exact hbinary
    refine .leaf nofun nofun (by simp [Schema.notes, hdefault]) ?_
    rw [admitsAbsence_wrap_of_not hbase]
    simp [Schema.notes, hdefault]
  | date isDate htype hformat =>
    have hparsed : (Schema.scalar notes fields).Parsed s convert ↔
        dateDirection s convert = some .fromString := by
      cases isDate <;> simp [Parsed, htype, hformat]
    have hnative : ¬ (nativeDate isDate).AdmitsAbsence := nofun
    have hwire : ¬ (wireDate fields isDate).AdmitsAbsence := nofun
    refine .leaf nofun nofun rfl ?_
    rw [hparsed]
    cases dateDirection s convert with
    | none =>
      have hcore : ¬ (if s.crossing = .handler then nativeDate isDate
          else wireDate fields isDate).AdmitsAbsence := by
        split
        · exact hnative
        · exact hwire
      simp [admitsAbsence_wrap_of_not hcore, Schema.notes]
    | some direction =>
      have hpass : (pass (notes.wrap (nativeDate isDate)) (wireDate fields isDate) (dateKind isDate)
          (some direction)).AdmitsAbsence ↔ _ := admitsAbsence_pass hwire
      rwa [admitsAbsence_wrap_of_not hnative] at hpass
  | plain hplain =>
    have hbase : ¬ (stringBase fields).AdmitsAbsence := nofun
    refine .leaf nofun nofun rfl ?_
    rw [admitsAbsence_wrap_of_not hbase]
    obtain ⟨htype, hformat⟩ := hplain
    have hparsed : ¬ (Schema.scalar notes fields).Parsed s convert := by
      simp only [Parsed, htype]
      rintro ⟨hdate | hdateTime, -⟩
      · simp [hdate] at hformat
      · simp [hdateTime] at hformat
    rw [and_iff_left hparsed]
    rfl

theorem TellsAbsence.array {items : Schema} {style : ArrayStyle} {item array : Compiled}
    (harray : finishArray notes path item = .ok array)
    (hc : joinArray path convert style array = .ok c) :
    TellsAbsence s (.array notes items) convert c := by
  obtain ⟨-, rfl⟩ := finishArray_ok.1 harray
  have hcore : ¬ (Validator.array item.validator).AdmitsAbsence := nofun
  rw [joinArray_ok] at hc
  -- A joined array is transformed as a whole, default included.
  split at hc
  · obtain ⟨delimiter, -, rfl⟩ := hc
    refine .leaf nofun nofun rfl ?_
    simp [admitsAbsence_wrap_of_not hcore, Parsed, Schema.notes]
  · subst hc
    refine .leaf nofun nofun rfl ?_
    simp [admitsAbsence_wrap_of_not hcore, Parsed, Schema.notes]

/-- What a compiled schema tells of defaults is what the schema has, and its validator admits absence
where the schema supplies one. -/
theorem tellsAbsence_compile {style : ArrayStyle} (schema : Schema)
    (h : (compile s convert style path schema).result = .ok c) :
    TellsAbsence s schema convert c := by
  refine compile_induction (P := fun schema convert c => TellsAbsence s schema convert c)
    ?_ ?_ ?_ ?_ ?_ ?_ schema h
  · intro notes target key v convert _ _
    have hcomposes : ∀ k, ¬ (Schema.ref notes target).Composes k := nofun
    have hnot : ¬ (Validator.ref (s.declarationName key)).AdmitsAbsence := nofun
    constructor
    · simp [hasDefault_iff hcomposes, not_ownDefault_ref]
    · simp [supplies_iff hcomposes, not_ownDefault_ref, hnot]
  · intro schema k convert branches v hk hbranches hv
    exact .composes hk hbranches hv
  · intro notes values path convert c hc
    exact .enum hc
  · intro notes fields path convert c hc
    exact .scalar hc
  · intro notes items path convert style item array c _ _ _ harray hc
    exact .array harray hc
  · intro notes properties required extra path fields compiled c _ _ _ hc
    obtain ⟨-, rfl⟩ := finishObject_ok.1 hc
    refine .leaf nofun nofun rfl ?_
    simp [admitsAbsence_wrap_of_not not_admitsAbsence_objectValidator, Parsed, Schema.notes]

/-- A value that is not required may be absent unless it has a default that it does not supply; a value
that is required has no default, and may be absent only if it supplies one all the same. -/
theorem admitsAbsence_compileValue {schema : Schema} {required : Bool} {style : ArrayStyle}
    (h : (schema.compileValue s required path convert style).result = .ok c) :
    (required = false →
        (c.validator.AdmitsAbsence ↔ (schema.HasDefault → schema.Supplies s convert))) ∧
      (required = true →
        ¬ schema.HasDefault ∧ (c.validator.AdmitsAbsence ↔ schema.Supplies s convert)) := by
  simp only [compileValue, Reported.result_bind, Reported.result_lift, bind_eq_ok] at h
  obtain ⟨compiled, hcompiled, hrequire⟩ := h
  obtain ⟨hdefault, habsence⟩ := tellsAbsence_compile schema hcompiled
  obtain ⟨hnone, rfl⟩ := requireValue_ok.1 hrequire
  constructor
  · rintro rfl
    by_cases hhas : schema.HasDefault
    · have hflag : compiled.hasDefault = true := hdefault.2 hhas
      simp [hflag, hhas, habsence]
    · have hflag : compiled.hasDefault = false := by simpa [hhas] using hdefault
      simp [hflag, hhas]
  · rintro rfl
    have hflag := hnone rfl
    have hhas : ¬ schema.HasDefault := by simpa [hflag] using hdefault
    simp [hhas, habsence]

/-- The number of a page, which is the first one unless it is stated. -/
def pageSchema : Schema :=
  .scalar ⟨some (.int 1), false, none⟩ ⟨.integer, none, none, none, none, none, none⟩

/-- A name or a number, of which the name has a default. -/
def sortSchema : Schema :=
  .anyOf ⟨none, false, none⟩
    [.scalar ⟨some (.text "name"), false, none⟩ ⟨.string, none, none, none, none, none, none⟩,
      .scalar ⟨none, false, none⟩ ⟨.integer, none, none, none, none, none, none⟩]

/-- The page may not be left out of a query although it need not be there, and what is sorted by may be
left out although it has to be there. -/
theorem absence_of_defaults :
    (∃ c, (pageSchema.compileValue { document := .null } false "#" (some ⟨.fromString, .query⟩)
        .standard).result = .ok c ∧ ¬ c.validator.AdmitsAbsence) ∧
      ∃ c, (sortSchema.compileValue { document := .null } true "#" none .standard).result = .ok c ∧
        c.validator.AdmitsAbsence := by
  constructor
  · obtain ⟨c, h⟩ : ∃ c, (pageSchema.compileValue { document := .null } false "#"
        (some ⟨.fromString, .query⟩) .standard).result = .ok c := ⟨_, rfl⟩
    refine ⟨c, h, fun habsence => ?_⟩
    have hhas : pageSchema.HasDefault := .own ⟨rfl, nofun⟩
    have hcomposes : ∀ k, ¬ pageSchema.Composes k := by
      intro k hk
      cases hk
    have hsupplies := ((admitsAbsence_compileValue h).1 rfl).1 habsence hhas
    exact ((supplies_iff hcomposes).1 hsupplies).2 rfl
  · obtain ⟨c, h⟩ : ∃ c, (sortSchema.compileValue { document := .null } true "#" none
        .standard).result = .ok c := ⟨_, rfl⟩
    have hdirect : ¬ (Schema.scalar ⟨some (.text "name"), false, none⟩
        ⟨.string, none, none, none, none, none, none⟩).Parsed { document := .null } none := by
      simp [Parsed]
    have hsupplies : sortSchema.Supplies { document := .null } none :=
      .anyOf (.head _) (.own ⟨rfl, nofun⟩ hdirect)
    exact ⟨c, h, ((admitsAbsence_compileValue h).2 rfl).2.2 hsupplies⟩

end Schema

end ApiContract
