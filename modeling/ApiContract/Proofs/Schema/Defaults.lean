import ApiContract.Proofs.Schema.Leaves

/-!
# What defaults have to be

A schema that goes by its type compiles in two stages: its parts first, and then its annotations, with the
default among them (`Staged`). Each type has a rule for defaults that agrees with what it declares, except
for the null type, which has none. So where no part fails, the schema compiles exactly when its default is
of the declared type or that type is null (`compile_default`).
-/

namespace ApiContract

/-- The value is of the type. A boolean is no number, and a number without a fraction is an integer only
if it is written as one. -/
def ScalarType.Holds : ScalarType → Value → Prop
  | .null, v => v = .null
  | .boolean, v => ∃ b, v = .bool b
  | .string, v => ∃ t, v = .text t
  | .integer, v => ∃ i, v = .int i
  | .number, v => (∃ i, v = .int i) ∨ ∃ x, v = .float x

/-- A string that stands for bytes. -/
def ScalarSchema.IsBinary (fields : ScalarSchema) : Prop :=
  fields.type = .string ∧ fields.format ∈ [some "byte", some "binary"]

/-- What a scalar asks of its default. -/
def ScalarSchema.defaultRule? (fields : ScalarSchema) : Option DefaultRule :=
  match fields.type with
  | .null => none
  | .boolean => some .boolean
  | .integer => some .integer
  | .number => some .number
  | .string =>
    if fields.format ∈ [some "date", some "date-time"] then some .date else some .string

namespace Schema

open Outcome

/-- A schema that goes by its type, other than a string that stands for bytes. -/
inductive GoesByType : Schema → Prop where
  | scalar {notes : Annotations} {fields : ScalarSchema} (h : ¬ fields.IsBinary) :
    GoesByType (.scalar notes fields)
  | array {notes : Annotations} {items : Schema} : GoesByType (.array notes items)
  | object {notes : Annotations} {properties : Option (List (String × Schema))}
    {required : List String} {extra : ExtraKeys Schema} :
    GoesByType (.object notes properties required extra)

/-- The value is of the type that the schema declares. -/
inductive HasType : Schema → Value → Prop where
  | scalar {notes : Annotations} {fields : ScalarSchema} {v : Value} (h : fields.type.Holds v) :
    HasType (.scalar notes fields) v
  | array {notes : Annotations} {items : Schema} {vs : List Value} :
    HasType (.array notes items) (.list vs)
  | object {notes : Annotations} {properties : Option (List (String × Schema))}
    {required : List String} {extra : ExtraKeys Schema} {entries : List (Scalar × Value)} :
    HasType (.object notes properties required extra) (.map entries)

/-- A schema of the null type. -/
def IsOfNull (schema : Schema) : Prop :=
  ∃ notes fields, schema = .scalar notes fields ∧ fields.type = .null

/-- What a schema that goes by its type asks of its default. -/
def defaultRule? : Schema → Option DefaultRule
  | .scalar _ fields => fields.defaultRule?
  | .array _ _ => some .array
  | .object _ _ _ _ => some .object
  | _ => none

variable {s : Setting} {style : ArrayStyle} {path : String} {notes : Annotations} {schema : Schema}

/-! ## The rules -/

theorem accepts_scalarRule {fields : ScalarSchema} {v : Value} :
    (∀ rule ∈ fields.defaultRule?, rule.accepts v = true) ↔
      fields.type.Holds v ∨ fields.type = .null := by
  unfold ScalarSchema.defaultRule?
  cases fields.type with
  | null => simp
  | boolean => rcases v with (_ | _ | _ | _ | _ | _ | _ | _) | _ | _ | _ <;>
      simp [ScalarType.Holds, DefaultRule.boolean]
  | integer => rcases v with (_ | _ | _ | _ | _ | _ | _ | _) | _ | _ | _ <;>
      simp [ScalarType.Holds, DefaultRule.integer]
  | number => rcases v with (_ | _ | _ | _ | _ | _ | _ | _) | _ | _ | _ <;>
      simp [ScalarType.Holds, DefaultRule.number, DefaultRule.isNumber]
  | string =>
    have htext : v.isText = true ↔ ScalarType.string.Holds v := by
      rcases v with (_ | _ | _ | _ | _ | _ | _ | _) | _ | _ | _ <;>
        simp [ScalarType.Holds, Value.isText]
    dsimp only
    split <;> simp [DefaultRule.date, DefaultRule.string, htext]

/-- The rule of a schema and its type ask the same of a default, but for the null type. -/
theorem accepts_defaultRule (h : schema.GoesByType) {v : Value} :
    (∀ rule ∈ schema.defaultRule?, rule.accepts v = true) ↔ schema.HasType v ∨ schema.IsOfNull := by
  cases h with
  | @scalar notes fields h =>
    have hnull : (Schema.scalar notes fields).IsOfNull ↔ fields.type = .null := by simp [IsOfNull]
    have htype : (Schema.scalar notes fields).HasType v ↔ fields.type.Holds v :=
      ⟨fun | .scalar h => h, .scalar⟩
    rw [hnull, htype]
    exact accepts_scalarRule
  | @array notes items =>
    have hnull : ¬ (Schema.array notes items).IsOfNull := by simp [IsOfNull]
    have htype : (Schema.array notes items).HasType v ↔ DefaultRule.array.accepts v = true := by
      constructor
      · rintro ⟨⟩
        rfl
      · cases v with
        | list vs => exact fun _ => .array
        | scalar | map | set | endless => exact nofun
    simp [defaultRule?, hnull, htype]
  | @object notes properties required extra =>
    have hnull : ¬ (Schema.object notes properties required extra).IsOfNull := by simp [IsOfNull]
    have htype : (Schema.object notes properties required extra).HasType v ↔
        DefaultRule.object.accepts v = true := by
      constructor
      · rintro ⟨⟩
        rfl
      · cases v with
        | map entries => exact fun _ => .object
        | scalar | list | set | endless => exact nofun
    simp [defaultRule?, hnull, htype]

/-! ## The two stages -/

/-- A fault of a part of a schema: of the items of an array, of a property or the other keys of an object,
or of a name that is required and no property. -/
inductive PartFails (s : Setting) (path : String) : Schema → Fault → Prop where
  | items {notes : Annotations} {items : Schema} {fault : Fault}
    (h : (items.compileValue s true (Pointer.raw path "items")).result = .error fault) :
    PartFails s path (.array notes items) fault
  | dangling {notes : Annotations} {properties : Option (List (String × Schema))}
    {required : List String} {extra : ExtraKeys Schema} {name : String}
    (h : danglingName? required (properties.getD []) = some name) :
    PartFails s path (.object notes properties required extra)
      (.uncompilable (.danglingRequired name) path)
  | property {notes : Annotations} {properties : Option (List (String × Schema))}
    {required : List String} {extra : ExtraKeys Schema} {p : String × Schema} {fault : Fault}
    (mem : p ∈ properties.getD [])
    (h : (compileProperty s (Pointer.raw path "properties") required p).result = .error fault) :
    PartFails s path (.object notes properties required extra) fault
  | extra {notes : Annotations} {properties : Option (List (String × Schema))}
    {required : List String} {extra : ExtraKeys Schema} {fault : Fault}
    (h : (compileExtra s (Pointer.raw path "additionalProperties") extra).result = .error fault) :
    PartFails s path (.object notes properties required extra) fault

/-- A compilation that goes through parts, which succeed exactly when nothing has the property `P` of
their faults, and then through annotations under a rule for the default. -/
inductive Staged (notes : Annotations) (path : String) (rule : Option DefaultRule)
    (P : Fault → Prop) : Except Fault Compiled → Prop where
  | intro {α : Type} {parts : Except Fault α} (base : α → Validator)
    (make : α → Validator × Bool → Compiled) (fails : FailsAs P parts)
    (sound : ∀ a, parts = .ok a → ∀ fault, ¬ P fault) :
    Staged notes path rule P (do
      let a ← parts
      let finished ← finish notes path rule (base a)
      return make a finished)

/-- The default that a rule does not accept. -/
def RefusedDefault (notes : Annotations) (path : String) (rule : Option DefaultRule)
    (fault : Fault) : Prop :=
  ∃ default ∈ notes.default, ∃ r ∈ rule, ¬ r.accepts default = true ∧
    fault = .uncompilable (.wrongDefault default r.expected) (Pointer.raw path "default")

theorem failsAs_refusedDefault {rule : Option DefaultRule} {v : Validator} :
    FailsAs (RefusedDefault notes path rule) (finish notes path rule v) := by
  unfold finish
  cases hdefault : notes.default with
  | none => exact failsAs_ok _
  | some default =>
    cases rule with
    | none => exact failsAs_ok _
    | some rule =>
      dsimp only
      split
      next => exact failsAs_ok _
      next h => exact failsAs_error.2 ⟨default, hdefault, rule, rfl, h, rfl⟩

namespace Staged

variable {rule : Option DefaultRule} {P : Fault → Prop} {x : Except Fault Compiled}

theorem ok_iff (h : Staged notes path rule P x) :
    (∃ c, x = .ok c) ↔ (∀ fault, ¬ P fault) ∧
      ∀ default ∈ notes.default, ∀ r ∈ rule, r.accepts default = true := by
  cases h with
  | @intro _ parts base make fails sound =>
    constructor
    · rintro ⟨c, hc⟩
      obtain ⟨a, ha, hc⟩ := bind_eq_ok.1 hc
      obtain ⟨finished, hfinished, -⟩ := bind_eq_ok.1 hc
      exact ⟨sound a ha, (finish_eq_ok.1 hfinished).2.2⟩
    · rintro ⟨hparts, hdefault⟩
      cases parts with
      | error fault => exact absurd (failsAs_error.1 fails) (hparts fault)
      | ok a =>
        have hfinish : finish notes path rule (base a) =
            .ok (notes.wrap (base a), notes.default.isSome) := finish_eq_ok.2 ⟨rfl, rfl, hdefault⟩
        exact ⟨_, bind_eq_ok.2 ⟨a, rfl, bind_eq_ok.2 ⟨_, hfinish, rfl⟩⟩⟩

theorem fails (h : Staged notes path rule P x) :
    FailsAs (fun fault => P fault ∨ RefusedDefault notes path rule fault) x := by
  obtain ⟨base, make, fails, -⟩ := h
  refine (fails.imp fun _ => .inl).bind fun a _ => ?_
  exact (failsAs_refusedDefault.imp fun _ => .inr).bind fun _ _ => failsAs_pure _

theorem of_error {fault : Fault} (h : P fault) : Staged notes path rule P (.error fault) := by
  have hparts : Staged notes path rule P (do
      let _ ← (.error fault : Except Fault Unit)
      let finished ← finish notes path rule .never
      return { validator := finished.1 }) :=
    .intro (fun _ => .never) _ (failsAs_error.2 h) nofun
  exact hparts

/-- Where there are no parts, nothing but the default can fail. -/
theorem of_finish {v : Validator} (hP : ∀ fault, ¬ P fault) (make : Validator × Bool → Compiled) :
    Staged notes path rule P (do
      let finished ← finish notes path rule v
      return make finished) := by
  have hparts : Staged notes path rule P (do
      let _ ← (.ok () : Except Fault Unit)
      let finished ← finish notes path rule v
      return make finished) :=
    .intro (fun _ => v) (fun _ => make) (failsAs_ok ()) fun _ _ => hP
  exact hparts

end Staged

/-! ## The stages of each type -/

theorem staged_string {fields : ScalarSchema} {P : Fault → Prop} (hP : ∀ fault, ¬ P fault)
    (h : fields.format ∉ [some "byte", some "binary"]) :
    Staged notes path
      (if fields.format ∈ [some "date", some "date-time"] then some .date else some .string) P
      (compileString s notes fields path none).result := by
  have hdate (isDate : Bool) :
      Staged notes path (some .date) P (compileDate s notes fields isDate path none) := by
    unfold compileDate
    cases dateDirection s none with
    | none => exact .of_finish hP _
    | some direction => exact .of_finish hP _
  generalize hrule : (if fields.format ∈ [some "date", some "date-time"] then
    some DefaultRule.date else some DefaultRule.string) = rule
  unfold compileString
  split
  next format => simp [format] at h
  next format => simp [format] at h
  next format =>
    rw [← hrule, if_pos (by simp [format])]
    exact hdate true
  next format =>
    rw [← hrule, if_pos (by simp [format])]
    exact hdate false
  next _ _ notDate notDateTime =>
    rw [← hrule, if_neg (by simpa using ⟨notDate, notDateTime⟩), result_compilePlainString]
    exact .of_finish hP _

theorem staged_scalar {fields : ScalarSchema} (h : ¬ fields.IsBinary) :
    Staged notes path fields.defaultRule? (PartFails s path (.scalar notes fields))
      (compileScalar s notes fields path none).result := by
  have hparts : ∀ fault, ¬ PartFails s path (.scalar notes fields) fault := fun _ => nofun
  unfold compileScalar ScalarSchema.defaultRule?
  cases htype : fields.type with
  | null => exact .of_finish hparts _
  | boolean => exact .of_finish hparts _
  | integer => exact .of_finish hparts _
  | number => exact .of_finish hparts _
  | string => exact staged_string hparts fun hmem => h ⟨htype, hmem⟩

theorem staged_array {items : Schema} :
    Staged notes path (some .array) (PartFails s path (.array notes items))
      (compile s none style path (.array notes items)).result := by
  have hparts : (compile s none style path (.array notes items)).result = (do
      let item ← (items.compileValue s true (Pointer.raw path "items")).result
      let finished ← finish notes path (some .array) (.array item.validator)
      return { validator := finished.1, dependsOn := item.dependsOn, hasDefault := finished.2 }) := by
    simp only [compile, compileValue, finishArray, joinArray, Option.any_none, Option.isSome_none,
      Bool.false_and, Bool.false_eq_true, ↓reduceIte, Reported.result_bind, Reported.result_lift,
      bind_assoc, pure_bind]
    rfl
  rw [hparts]
  refine .intro _ (fun item finished => _) (fun fault hfault => .items hfault) fun item hitem => ?_
  rintro fault ⟨hfault⟩
  rw [hitem] at hfault
  cases hfault

theorem staged_object {properties : Option (List (String × Schema))} {required : List String}
    {extra : ExtraKeys Schema} :
    Staged notes path (some .object) (PartFails s path (.object notes properties required extra))
      (compile s none style path (.object notes properties required extra)).result := by
  simp only [compile_object, Option.isSome_none, Bool.false_eq_true, ↓reduceIte]
  cases hdangling : danglingName? required (properties.getD []) with
  | some name => exact .of_error (.dangling hdangling)
  | none =>
    have hparts :
        (do
          let fields ← (properties.getD []).mapM
            (compileProperty s (Pointer.raw path "properties") required)
          let extra ← compileExtra s (Pointer.raw path "additionalProperties") extra
          liftM (finishObject notes path properties.isSome fields extra) : Reported Compiled).result =
        (do
          let parts ← (do
            let fields ← (properties.getD []).mapM fun p =>
              (compileProperty s (Pointer.raw path "properties") required p).result
            let extra ← (compileExtra s (Pointer.raw path "additionalProperties") extra).result
            return (fields, extra))
          let finished ← finish notes path (some .object) (objectValidator
            (parts.1.map fun p => (p.1, p.2.validator)) properties.isSome parts.2.1)
          return {
            validator := finished.1, dependsOn := unite (parts.1.map (·.2.dependsOn) ++ [parts.2.2]),
            hasDefault := finished.2 }) := by
      simp only [finishObject, Reported.result_bind, Reported.result_lift, Reported.result_mapM,
        bind_assoc, pure_bind]
    rw [hparts]
    refine .intro _ (fun parts finished => _) ?_ ?_
    · refine (failsAs_mapM fun p hp fault hfault => .property hp hfault).bind fun _ _ => ?_
      exact FailsAs.bind (fun fault hfault => .extra hfault) fun _ _ => failsAs_pure _
    · intro parts hparts fault hfails
      obtain ⟨fields, hfields, hextra⟩ := bind_eq_ok.1 hparts
      obtain ⟨compiled, hcompiled, -⟩ := bind_eq_ok.1 hextra
      cases hfails with
      | dangling h => rw [hdangling] at h; cases h
      | property mem h =>
        obtain ⟨field, -, hfield⟩ := (mapM_eq_ok.1 hfields).exists_right mem
        rw [hfield] at h
        cases h
      | extra h =>
        rw [hcompiled] at h
        cases h

theorem staged_compile (h : schema.GoesByType) :
    Staged schema.notes path schema.defaultRule? (PartFails s path schema)
      (compile s none style path schema).result := by
  cases h with
  | scalar h => exact staged_scalar h
  | array => exact staged_array
  | object => exact staged_object

/-! ## Defaults -/

/-- Where no part fails, a schema that goes by its type compiles exactly when its default is of that type
or the type is null; otherwise the fault is one of a part, or it is that of the default. -/
theorem compile_default {default : Value} (htyped : schema.GoesByType)
    (hdefault : schema.notes.default = some default) :
    ((∃ c, (compile s none style path schema).result = .ok c) ↔
        (∀ fault, ¬ PartFails s path schema fault) ∧
          (schema.HasType default ∨ schema.IsOfNull)) ∧
      ∀ fault, (compile s none style path schema).result = .error fault →
        PartFails s path schema fault ∨
          ¬ schema.HasType default ∧ ¬ schema.IsOfNull ∧ ∃ expected,
            fault = .uncompilable (.wrongDefault default expected) (Pointer.raw path "default") := by
  have hstaged : Staged schema.notes path schema.defaultRule? (PartFails s path schema)
      (compile s none style path schema).result := staged_compile htyped
  constructor
  · rw [hstaged.ok_iff, ← accepts_defaultRule htyped, hdefault]
    simp only [Option.mem_some_iff, forall_eq']
  · intro fault hfault
    refine (hstaged.fails fault hfault).imp_right ?_
    rintro ⟨d, hd, rule, hrule, hrefused, rfl⟩
    obtain rfl : default = d := Option.some.inj (hdefault.symm.trans hd)
    have hneither : ¬ (schema.HasType default ∨ schema.IsOfNull) := by
      rw [← accepts_defaultRule htyped]
      exact fun h => hrefused (h rule hrule)
    rw [not_or] at hneither
    exact ⟨hneither.1, hneither.2, rule.expected, rfl⟩

/-- Nothing at all, with the default 5. -/
def nothing : Schema :=
  .scalar ⟨some (.int 5), false, none⟩ ⟨.null, none, none, none, none, none, none⟩

/-- A list of integers, with the default 5. -/
def integers : Schema :=
  .array ⟨some (.int 5), false, none⟩
    (.scalar ⟨none, false, none⟩ ⟨.integer, none, none, none, none, none, none⟩)

/-- The default is neither null nor a list. Beside the one type it is let through, beside the other it is
refused. -/
theorem default_integers :
    nothing.GoesByType ∧ ¬ nothing.HasType (.int 5) ∧
      (∃ c, (compile { document := .object [] } none .standard "#/s" nothing).result = .ok c) ∧
      integers.GoesByType ∧ ¬ integers.HasType (.int 5) ∧
      ∃ expected, (compile { document := .object [] } none .standard "#/s" integers).result =
        .error (.uncompilable (.wrongDefault (.int 5) expected) "#/s/default") := by
  have hnothing : nothing.GoesByType := .scalar nofun
  have hintegers : integers.GoesByType := .array
  have hnull : ∃ c, (compile { document := .object [] } none .standard "#/s" nothing).result = .ok c :=
    (compile_default hnothing rfl).1.2 ⟨fun _ => nofun, .inr ⟨_, _, rfl, rfl⟩⟩
  obtain ⟨fault, hfault⟩ : ∃ fault,
      (compile { document := .object [] } none .standard "#/s" integers).result = .error fault := ⟨_, rfl⟩
  have hparts : ¬ PartFails { document := .object [] } "#/s" integers fault := by
    rintro ⟨hitems⟩
    cases hitems
  obtain ⟨-, -, expected, rfl⟩ := ((compile_default hintegers rfl).2 fault hfault).resolve_left hparts
  refine ⟨hnothing, ?_, hnull, hintegers, nofun, expected, hfault⟩
  rintro ⟨⟨⟩⟩

end Schema

end ApiContract
