import ApiContract.Proofs.Schema.Alike
import ApiContract.Proofs.Validator.Recast

/-!
# Schemas in several crossings

The crossing of a side tells only how dates that no conversion asks for are represented. Every compilation
of a schema without a conversion is the one for values that are parsed, with its dates recast
(`alike_recast`), and what has a conversion or no date compiles to the same in all crossings
(`compile_eq_of_undated`). Together this says what two crossings can differ in: `compile_crossing`.
-/

namespace ApiContract

/-- Only the same compiled schema is the image of one under what changes nothing. -/
theorem Compiled.image_id {c c' : Compiled} : c.Image id id c' ↔ c = c' := by
  constructor
  · rintro ⟨hvalidator, hdepends, hdefault⟩
    rw [List.map_id] at hdepends
    cases c
    cases c'
    simp_all
  · rintro rfl
    exact ⟨rfl, (List.map_id _).symm, rfl⟩

namespace Schema

open Outcome Reported Validator

/-- No string in the schema is a date. -/
def Undated (schema : Schema) : Prop :=
  ∀ notes fields, (scalar notes fields).Within schema → fields.type = .string →
    fields.format ≠ some "date" ∧ fields.format ≠ some "date-time"

variable {s : Setting} {convert : Option Conversion} {style : ArrayStyle} {path : String}
  {notes : Annotations} {x : Crossing}

/-! ## What no crossing changes -/

theorem dateDirection_of_conversion {s' : Setting} {conversion : Conversion} :
    dateDirection s' (some conversion) = some conversion.direction := by
  unfold dateDirection
  cases s'.crossing <;> rfl

/-- A conversion decides how a date is represented before any crossing does. -/
theorem compileDate_of_conversion {fields : ScalarSchema} {isDate : Bool} {conversion : Conversion} :
    compileDate { s with crossing := x } notes fields isDate path (some conversion) =
      compileDate s notes fields isDate path (some conversion) := by
  unfold compileDate
  rw [dateDirection_of_conversion, dateDirection_of_conversion]

/-- What has a conversion, or no date, compiles to the same in every crossing. -/
theorem compile_eq_of_undated (schema : Schema) (h : convert.isSome = true ∨ schema.Undated) :
    compile s convert style path schema =
      compile { s with crossing := x } convert style path schema := by
  have hsame : ∀ y : Except Fault Compiled, Agree (Compiled.Image id id) y y :=
    fun y => .of_eq rfl fun c _ => Compiled.image_id.2 rfl
  have halike : Reported.Alike (Compiled.Image id id) (compile s convert style path schema)
      (compile { s with crossing := x } convert style path schema) := by
    rw [alike_iff_follows]
    refine follows_compile_of_leaves morphism_id Function.injective_id schema ⟨?_, ?_, ?_, ?_, rfl⟩
    · exact fun notes target path _ => hsame _
    · exact fun notes values path _ => .inr (hsame _)
    · intro notes fields path hwithin
      refine alike_compileScalar_of morphism_id (fun _ _ => rfl) rfl rfl (fun _ _ _ _ _ => hsame _) ?_
      intro isDate htype hformat
      cases convert with
      | some conversion =>
        rw [compileDate_of_conversion (x := x)]
        exact hsame _
      | none =>
        obtain ⟨hdate, hdateTime⟩ := (h.resolve_left nofun) notes fields hwithin htype
        cases isDate with
        | true => exact absurd hformat hdate
        | false => exact absurd hformat hdateTime
    · refine fun notes items _ => ⟨rfl, fun path style c c' hc => ?_⟩
      exact Compiled.image_id.1 hc ▸ hsame _
  exact (halike.imp fun _ _ hc => Compiled.image_id.1 hc).eq

/-! ## What the crossing changes -/

theorem recore_wrap {core : Validator} {p : Primitive} :
    recore core (notes.wrap (.primitive p)) = notes.wrap core := by
  unfold Annotations.wrap
  cases notes.default <;> cases notes.nullable <;> rfl

/-- A date has in each crossing the form into which the parsed date is recast. -/
theorem agree_compileDate_recast {fields : ScalarSchema} {isDate : Bool} :
    Agree (Compiled.Image (recast x) id)
      (compileDate { s with crossing := .parse } notes fields isDate path none)
      (compileDate { s with crossing := x } notes fields isDate path none) := by
  unfold compileDate
  cases x with
  | parse | stringify =>
    refine agree_finish_any.bind ?_
    rintro ⟨v, hasDefault⟩ ⟨w, hasDefault'⟩ ⟨rfl, rfl, rfl⟩
    exact .ok ⟨by cases isDate <;> rfl, rfl, rfl⟩
  | handler | request =>
    refine agree_finish_any.bind ?_
    rintro ⟨v, hasDefault⟩ ⟨w, hasDefault'⟩ ⟨rfl, rfl, rfl⟩
    exact .ok ⟨by cases isDate <;> exact recore_wrap.symm, rfl, rfl⟩

/-- A schema without a conversion compiles in each crossing to what it compiles to for parsed values,
with the dates recast. -/
theorem alike_recast (schema : Schema) :
    Reported.Alike (Compiled.Image (recast x) id)
      (compile { s with crossing := .parse } none style path schema)
      (compile { s with crossing := x } none style path schema) := by
  have hg := morphism_recast x
  have hleaf : ∀ v : Validator, v.children = [] → recast x v = v := fun v => recast_of_leaf
  rw [alike_iff_follows]
  refine follows_compile_of_leaves hg Function.injective_id schema ⟨?_, ?_, ?_, ?_, rfl⟩
  · exact fun notes target path _ => agree_compileRef_of_eq hleaf rfl
  · exact fun notes values path _ => .inr (agree_compileEnum_none hg hleaf)
  · intro notes fields path _
    refine alike_compileScalar_of hg hleaf rfl rfl ?_ fun isDate _ _ => agree_compileDate_recast
    intro base wire rule kind htyped
    exact agree_finish_unchanged hg (by cases htyped <;> exact hleaf _ rfl)
  · exact fun notes items _ => ⟨rfl, fun path style c c' hc => .ok hc⟩

/-- In two crossings a schema compiles with the same warnings, and to what depends on the same and has a
default alike, or fails in the same way. The validators are the same if there is a conversion or no date;
otherwise they are those of one validator with its parsed dates in the forms of the two crossings. -/
theorem compile_crossing (s : Setting) (x : Crossing) (convert : Option Conversion) (style : ArrayStyle)
    (path : String) (schema : Schema) :
    Reported.Alike
      (fun c c' => c'.dependsOn = c.dependsOn ∧ c'.hasDefault = c.hasDefault ∧
        (convert.isSome = true ∨ schema.Undated → c'.validator = c.validator) ∧
        (convert = none → ∃ v, c.validator = recast s.crossing v ∧ c'.validator = recast x v))
      (compile s convert style path schema)
      (compile { s with crossing := x } convert style path schema) := by
  have hsame : convert.isSome = true ∨ schema.Undated → compile s convert style path schema =
      compile { s with crossing := x } convert style path schema := compile_eq_of_undated schema
  cases convert with
  | some conversion =>
    rw [← hsame (.inl rfl)]
    exact ⟨rfl, .of_eq rfl fun c _ => ⟨rfl, rfl, fun _ => rfl, nofun⟩⟩
  | none =>
    obtain ⟨hwarnings, hs⟩ : Reported.Alike _ _ (compile s none style path schema) :=
      alike_recast (s := s) (x := s.crossing) schema
    obtain ⟨hwarnings', hx⟩ :
        Reported.Alike _ _ (compile { s with crossing := x } none style path schema) := alike_recast (s := s) schema
    refine ⟨hwarnings.symm.trans hwarnings', (hs.of_common hx).and_ok.imp ?_⟩
    rintro c c' ⟨⟨parsed, hc, hc'⟩, hok, hok'⟩
    refine ⟨?_, ?_, fun h => ?_, fun _ => ⟨parsed.validator, hc.validator, hc'.validator⟩⟩
    · rw [hc.dependsOn, hc'.dependsOn]
    · rw [hc.hasDefault, hc'.hasDefault]
    · have heq := congrArg Reported.result (hsame h)
      rw [hok, hok'] at heq
      cases heq
      rfl

end Schema

end ApiContract
