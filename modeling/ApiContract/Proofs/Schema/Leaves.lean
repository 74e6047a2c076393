import ApiContract.Proofs.Schema.Compiled
import Mathlib.Tactic.Tauto

/-!
# What scalars and enums compile to

Every scalar is a constrained validator, wrapped as its annotations say and then, where a direction is
given, into its passage to or from strings: `pass` is that last step. For each kind of scalar there is
one statement of when it compiles and what to.
-/

namespace ApiContract

/-- The default, if there is one, is what the rule asks for. -/
def DefaultRule.Passes (rule : DefaultRule) (notes : Annotations) : Prop :=
  ∀ default ∈ notes.default, rule.accepts default = true

/-- A string with none of the formats that change its representation. -/
def ScalarSchema.IsPlain (fields : ScalarSchema) : Prop :=
  fields.type = .string ∧
    fields.format ∉ [some "byte", some "binary", some "date", some "date-time"]

namespace Schema

open Outcome

variable {s : Setting} {convert : Option Conversion} {path : String} {notes : Annotations}
  {c : Compiled}

/-- A constrained validator in its passage, or as it is where no direction is given. -/
def pass (typed wire : Validator) (kind : TransformKind) : Option Direction → Validator
  | none => typed
  | some direction => convertScalar typed wire kind direction

theorem finish_ok {rule : DefaultRule} {v : Validator} {r : Validator × Bool} :
    finish notes path (some rule) v = .ok r ↔
      rule.Passes notes ∧ (notes.wrap v, notes.default.isSome) = r := by
  obtain ⟨w, hasDefault⟩ := r
  rw [finish_eq_ok]
  simp only [DefaultRule.Passes, Option.mem_some_iff, forall_eq', Prod.mk.injEq]
  tauto

theorem finish_none_ok {v : Validator} {r : Validator × Bool} :
    finish notes path none v = .ok r ↔ (notes.wrap v, notes.default.isSome) = r := by
  obtain ⟨w, hasDefault⟩ := r
  rw [finish_eq_ok]
  simp

theorem compileTyped_ok {base wire : Validator} {rule : DefaultRule} {kind : TransformKind} :
    compileTyped notes path convert base wire rule kind = .ok c ↔
      rule.Passes notes ∧
        { validator := pass (notes.wrap base) wire kind (convert.map (·.direction)),
          hasDefault := notes.default.isSome } = c := by
  cases convert <;> simp [compileTyped, map_eq_ok, finish_ok, pass, and_assoc]

/-! ## Dates -/

/-- A date that passes the boundary is native inside; any other is native only for a handler. -/
theorem compileDate_ok {fields : ScalarSchema} {isDate : Bool} :
    compileDate s notes fields isDate path convert = .ok c ↔
      DefaultRule.date.Passes notes ∧
        { validator :=
            match dateDirection s convert with
            | none => notes.wrap (if s.crossing = .handler then nativeDate isDate
                else wireDate fields isDate)
            | some direction => convertScalar (notes.wrap (nativeDate isDate))
                (wireDate fields isDate) (dateKind isDate) direction,
          hasDefault := notes.default.isSome } = c := by
  simp only [compileDate]
  cases dateDirection s convert <;> simp [map_eq_ok, finish_ok, and_assoc]

/-! ## Other strings -/

/-- A binary payload takes no constraint, no default and no passage. -/
theorem compileBinary_ok {fields : ScalarSchema} {format : String} :
    compileBinary s notes fields format path convert = .ok c ↔
      fields.minLength = none ∧ fields.maxLength = none ∧ fields.pattern = none ∧
        notes.default = none ∧ convert = none ∧
        { validator := notes.wrap (binaryBase s.use) } = c := by
  unfold compileBinary
  cases fields.minLength <;> cases fields.maxLength <;> cases fields.pattern <;>
    cases notes.default <;> cases convert <;>
    simp [uncompilable_ne_ok, map_eq_ok, finish_none_ok]

/-- An unknown format is told of, and nothing else comes of it. -/
theorem result_compilePlainString {fields : ScalarSchema} :
    (compilePlainString notes fields path).result = (do
      let (v, hasDefault) ← finish notes path (some .string) (stringBase fields)
      return { validator := v, hasDefault }) := by
  simp only [compilePlainString]
  split <;> simp only [Reported.result_bind, Reported.result_lift, Reported.result_pure,
    Reported.result_warn] <;> rfl

theorem compilePlainString_ok {fields : ScalarSchema} :
    (compilePlainString notes fields path).result = .ok c ↔
      DefaultRule.string.Passes notes ∧
        { validator := notes.wrap (stringBase fields), hasDefault := notes.default.isSome } = c := by
  simp [result_compilePlainString, map_eq_ok, finish_ok, and_assoc]

/-! ## Enums -/

/-- An enum of other values than texts passes the boundary as literals; written, each value has its own
text. -/
theorem compileEnum_ok {values : List Value} :
    compileEnum notes values path convert = .ok c ↔
      (DefaultRule.member values).Passes notes ∧
        ∃ v, { validator := v, hasDefault := notes.default.isSome } = c ∧
          match convert, texts? values with
          | some ⟨.fromString, _⟩, none => ∃ wire, values.mapM wireText = .ok wire ∧
              v = convertScalar (notes.wrap (enumValidator values)) (.enum wire) .literal .fromString
          | some ⟨.toString, _⟩, none =>
              v = convertScalar (notes.wrap (enumValidator values)) .never .literal .toString
          | _, _ => v = notes.wrap (enumValidator values) := by
  simp only [compileEnum, bind_eq_ok, Prod.exists, finish_ok, Prod.mk.injEq]
  cases convert with
  | none => simp [pure_eq_ok]
  | some convert =>
    obtain ⟨_ | _, location⟩ := convert
    · cases texts? values with
      | some texts => simp [pure_eq_ok]
      | none => simp [map_eq_ok, and_comm]
    · cases texts? values <;> simp [pure_eq_ok, convertScalar]

/-! ## Scalars -/

/-- The parts of a scalar that is parsed from a string of its own form: the typed validator and that of
the string, what a default has to be, and the kind of the passage. -/
inductive Typed (fields : ScalarSchema) :
    Validator → Validator → DefaultRule → TransformKind → Prop where
  | boolean (h : fields.type = .boolean) :
    Typed fields (.type .boolean) (.enum ["true", "false"]) .boolean .boolean
  | integer (h : fields.type = .integer) :
    Typed fields (.primitive { type := .integer, minimum := fields.minimum, maximum := fields.maximum })
      (.primitive { type := .string, pattern := some integerPattern }) .integer .integer
  | number (h : fields.type = .number) :
    Typed fields (.primitive { type := .number, minimum := fields.minimum, maximum := fields.maximum })
      (.primitive { type := .string, pattern := some numberPattern }) .number .number

/-- What a scalar compiles to, kind by kind. -/
inductive ScalarResult (s : Setting) (notes : Annotations) (fields : ScalarSchema)
    (convert : Option Conversion) : Compiled → Prop where
  | null (h : fields.type = .null) (stays : convert = none) :
    ScalarResult s notes fields convert
      { validator := notes.wrap (.type .null), hasDefault := notes.default.isSome }
  | typed {base wire : Validator} {rule : DefaultRule} {kind : TransformKind}
    (h : Typed fields base wire rule kind) (passes : rule.Passes notes) :
    ScalarResult s notes fields convert
      { validator := pass (notes.wrap base) wire kind (convert.map (·.direction)),
        hasDefault := notes.default.isSome }
  | binary (h : fields.type = .string) (format : fields.format = some "byte" ∨
      fields.format = some "binary") (noDefault : notes.default = none) (stays : convert = none) :
    ScalarResult s notes fields convert { validator := notes.wrap (binaryBase s.use) }
  | date (isDate : Bool) (h : fields.type = .string)
    (format : fields.format = some (if isDate then "date" else "date-time"))
    (passes : DefaultRule.date.Passes notes) :
    ScalarResult s notes fields convert
      { validator :=
          match dateDirection s convert with
          | none => notes.wrap (if s.crossing = .handler then nativeDate isDate
              else wireDate fields isDate)
          | some direction => convertScalar (notes.wrap (nativeDate isDate))
              (wireDate fields isDate) (dateKind isDate) direction,
        hasDefault := notes.default.isSome }
  | plain (h : fields.IsPlain) (passes : DefaultRule.string.Passes notes) :
    ScalarResult s notes fields convert
      { validator := notes.wrap (stringBase fields), hasDefault := notes.default.isSome }

theorem compileString_result {fields : ScalarSchema} (ht : fields.type = .string)
    (h : (compileString s notes fields path convert).result = .ok c) :
    ScalarResult s notes fields convert c := by
  unfold compileString at h
  split at h
  next format =>
    obtain ⟨-, -, -, hdefault, hconvert, rfl⟩ := compileBinary_ok.1 h
    exact .binary ht (.inl format) hdefault hconvert
  next format =>
    obtain ⟨-, -, -, hdefault, hconvert, rfl⟩ := compileBinary_ok.1 h
    exact .binary ht (.inr format) hdefault hconvert
  next format =>
    obtain ⟨hpasses, rfl⟩ := compileDate_ok.1 h
    exact .date true ht format hpasses
  next format =>
    obtain ⟨hpasses, rfl⟩ := compileDate_ok.1 h
    exact .date false ht format hpasses
  next hbyte hbinary hdate hdateTime =>
    obtain ⟨hpasses, rfl⟩ := compilePlainString_ok.1 h
    exact .plain ⟨ht, by simpa using ⟨hbyte, hbinary, hdate, hdateTime⟩⟩ hpasses

theorem compileScalar_result {fields : ScalarSchema}
    (h : (compileScalar s notes fields path convert).result = .ok c) :
    ScalarResult s notes fields convert c := by
  unfold compileScalar at h
  split at h
  next ht => exact compileString_result ht h
  next ht =>
    cases convert with
    | some convert => cases h
    | none =>
      simp only [Option.isSome_none, Bool.false_eq_true, ↓reduceIte, Reported.result_lift,
        bind_eq_ok, Prod.exists, finish_none_ok, Prod.mk.injEq, pure_eq_ok] at h
      obtain ⟨_, _, ⟨rfl, rfl⟩, rfl⟩ := h
      exact .null ht rfl
  next ht =>
    obtain ⟨hpasses, rfl⟩ := compileTyped_ok.1 h
    exact .typed (.boolean ht) hpasses
  next ht =>
    obtain ⟨hpasses, rfl⟩ := compileTyped_ok.1 h
    exact .typed (.integer ht) hpasses
  next ht =>
    obtain ⟨hpasses, rfl⟩ := compileTyped_ok.1 h
    exact .typed (.number ht) hpasses

end Schema

end ApiContract
