import ApiContract.Proofs.Schema.Alike
import ApiContract.Proofs.Schema.Faults
import ApiContract.Proofs.Validator.Written

/-!
# Parsing and writing mirror each other

A schema compiles alike for values that arrive and for values that leave (`Twins`), where the validator
of what leaves is that of what arrives in its written form (`Validator.written`). One compilation can
fail by itself: the literals that are parsed from strings are spelled as JSON, and a value without a JSON
form ends it in an unexpected fault. `follows_compile` excuses that fault; with values that only cross
the wire it does not occur (`alike_crossings`), and in parameters it is all that tells the two passages
apart (`passagesMirror_iff`).
-/

namespace ApiContract

/-- The second validator is the first in its written form; all else is the same. -/
structure Compiled.Mirrors (c c' : Compiled) : Prop where
  validator : c'.validator = c.validator.written
  dependsOn : c'.dependsOn = c.dependsOn
  hasDefault : c'.hasDefault = c.hasDefault

theorem Compiled.Image.mirrors {c c' : Compiled} (h : c.Image Validator.written id c') :
    c.Mirrors c' :=
  ⟨h.validator, h.dependsOn.trans (List.map_id _), h.hasDefault⟩

/-- Two compilations of schemas, of values that arrive and of values that leave: with the crossings of
the two sides of an exchange, or with the two passages of a parameter. -/
inductive Twins : Setting → Option Conversion → Setting → Option Conversion → Prop where
  | crossing (s : Setting) (arrives : s.crossing = .parse) :
    Twins s none { s with crossing := .stringify } none
  | passage (s : Setting) (location : Location) :
    Twins s (some ⟨.fromString, location⟩) s (some ⟨.toString, location⟩)

namespace Schema

open Outcome Reported Validator

/-- No array stands in the schema. -/
def ArrayFree (schema : Schema) : Prop := ∀ notes items, ¬ (array notes items).Within schema

/-- The fault of a literal without a JSON form. -/
def isUnexpected (fault : Fault) : Prop := fault = .unexpected

variable {s s' : Setting} {convert convert' : Option Conversion} {style : ArrayStyle} {path : String}
  {notes : Annotations}

/-! ## Leaves -/

/-- What is parsed on one side is written on the other. -/
theorem agree_finish_passage {rule : Option DefaultRule} {core wire : Validator}
    {kind : TransformKind} :
    Agree (Compiled.Image written id)
      (do
        let (v, hasDefault) ← finish notes path rule core
        return { validator := convertScalar v wire kind .fromString, hasDefault })
      (do
        let (v, hasDefault) ← finish notes path rule core
        return { validator := convertScalar v wire kind .toString, hasDefault }) :=
  agree_finish_same (k := fun v => convertScalar v wire kind .fromString)
    (l := fun v => convertScalar v wire kind .toString) rfl

theorem agree_compileTyped (h : Twins s convert s' convert') {base wire : Validator}
    {rule : DefaultRule} {kind : TransformKind} (hbase : base.written = base) :
    Agree (Compiled.Image written id) (compileTyped notes path convert base wire rule kind)
      (compileTyped notes path convert' base wire rule kind) := by
  cases h with
  | crossing => exact agree_finish_unchanged morphism_written hbase
  | passage => exact agree_finish_passage

/-- A date is native inside on both sides of the boundary that it passes. -/
theorem agree_compileDate (h : Twins s convert s' convert') {fields : ScalarSchema} {isDate : Bool} :
    Agree (Compiled.Image written id) (compileDate s notes fields isDate path convert)
      (compileDate s' notes fields isDate path convert') := by
  have hfrom : dateDirection s convert = some .fromString := by
    cases h with
    | crossing arrives => simp [dateDirection, arrives]
    | passage => rfl
  have hto : dateDirection s' convert' = some .toString := by cases h <;> rfl
  unfold compileDate
  rw [hfrom, hto]
  exact agree_finish_passage

theorem alike_compileScalar (h : Twins s convert s' convert') {fields : ScalarSchema} :
    Reported.Alike (Compiled.Image written id) (compileScalar s notes fields path convert)
      (compileScalar s' notes fields path convert') := by
  refine alike_compileScalar_of morphism_written (fun v => written_of_leaf) ?_ ?_ ?_ ?_
  · cases h <;> rfl
  · cases h <;> rfl
  · intro base wire rule kind htyped
    exact agree_compileTyped h (by cases htyped <;> exact written_of_leaf rfl)
  · exact fun isDate _ _ => agree_compileDate h

theorem follows_compileEnum (h : Twins s convert s' convert') {values : List Value} :
    (∃ fault, compileEnum notes values path convert = .error fault ∧ isUnexpected fault) ∨
      Agree (Compiled.Image written id) (compileEnum notes values path convert)
        (compileEnum notes values path convert') := by
  cases h with
  | crossing => exact .inr (agree_compileEnum_none morphism_written fun v => written_of_leaf)
  | passage =>
    have hbase := enumValidator_map morphism_written (fun v => written_of_leaf) values
    unfold compileEnum
    cases texts? values with
    | some texts => exact .inr (agree_finish_unchanged morphism_written hbase)
    | none =>
      cases finish notes path (some (.member values)) (enumValidator values) with
      | error fault => exact .inr (.error fault)
      | ok finished =>
        cases hwire : values.mapM wireText with
        | ok wire =>
          refine .inr ?_
          simp only [bind, Except.bind, pure, Except.pure]
          exact .ok ⟨by simp [convertScalar], rfl, rfl⟩
        | error fault =>
          refine .inl ⟨fault, ?_, failsAs_wireTexts values fault hwire⟩
          simp only [bind, Except.bind]

/-! ## Whole schemas -/

/-- The two compilations of a schema mirror each other, unless the first meets a literal that cannot be
spelled in a string. Arrays are written to strings but not parsed from them. -/
theorem follows_compile (h : Twins s convert s' convert') (schema : Schema)
    (hfree : convert.isSome = true → schema.ArrayFree) :
    Follows isUnexpected (Compiled.Image written id) (compile s convert style path schema)
      (compile s' convert' style path schema) := by
  refine follows_compile_of_leaves morphism_written Function.injective_id schema ⟨?_, ?_, ?_, ?_, ?_⟩
  · intro notes target path _
    exact agree_compileRef_of_eq (fun v => written_of_leaf) (by cases h <;> rfl)
  · exact fun notes values path _ => follows_compileEnum h
  · exact fun notes fields path _ => alike_compileScalar h
  · intro notes items hwithin
    cases h with
    | crossing => exact ⟨rfl, fun path style c c' hc => .ok hc⟩
    | passage => exact absurd hwithin (hfree rfl notes items)
  · cases h <;> rfl

/-- Values that cross the wire as they are parsed and written mirror each other in every schema. -/
theorem alike_crossings (arrives : s.crossing = .parse) (schema : Schema) :
    Reported.Alike (Compiled.Image written id) (compile s none style path schema)
      (compile { s with crossing := .stringify } none style path schema) := by
  refine (follows_compile (.crossing s arrives) schema nofun).alike ?_
  rintro fault rfl
  exact compile_ne_unexpected schema fun _ hc => by cases hc

theorem alike_compileValue (arrives : s.crossing = .parse) {required : Bool} (schema : Schema) :
    Reported.Alike Compiled.Mirrors (compileValue s required path schema)
      (compileValue { s with crossing := .stringify } required path schema) := by
  rw [alike_iff_follows]
  unfold compileValue
  refine (alike_crossings arrives schema).bind fun c c' hc => follows_lift ?_
  exact (agree_requireValue morphism_written hc).imp fun _ _ h => h.mirrors

variable {location : Location}

/-- What is parsed from a string as a parameter is parsed as it is written to one. -/
def PassagesMirror (s : Setting) (location : Location) (style : ArrayStyle) (path : String)
    (schema : Schema) : Prop :=
  Reported.Alike Compiled.Mirrors (compile s (some ⟨.fromString, location⟩) style path schema)
    (compile s (some ⟨.toString, location⟩) style path schema)

/-- The two passages of a parameter mirror each other exactly when no literal that is parsed lacks a
JSON form. -/
theorem passagesMirror_iff {schema : Schema} (hfree : schema.ArrayFree) :
    schema.PassagesMirror s location style path ↔
      (compile s (some ⟨.fromString, location⟩) style path schema).result ≠ .error .unexpected := by
  constructor
  · intro h hunexpected
    have hwritten := h.2.eq_error hunexpected
    exact compile_ne_unexpected schema (fun _ hc => by cases hc) hwritten
  · intro h
    refine ((follows_compile (.passage s location) schema fun _ => hfree).alike ?_).imp
      fun _ _ h => h.mirrors
    rintro fault rfl
    exact h

theorem passagesMirror_of_writable {schema : Schema} (hfree : schema.ArrayFree)
    (h : schema.Writable) : schema.PassagesMirror s location style path :=
  (passagesMirror_iff hfree).2 (compile_ne_unexpected schema fun _ _ => h)

theorem PassagesMirror.writable {schema : Schema} {c : Compiled}
    (h : schema.PassagesMirror s location style path)
    (hc : (compile s (some ⟨.toString, location⟩) style path schema).result = .ok c) :
    schema.Writable := by
  obtain ⟨c', hc', -⟩ := h.2.symm.eq_ok hc
  exact writable_of_compile schema hc'

end Schema

end ApiContract
