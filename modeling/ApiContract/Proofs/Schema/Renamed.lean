import ApiContract.Proofs.Counterpart
import ApiContract.Proofs.Schema.Alike
import ApiContract.Proofs.Schema.References
import ApiContract.Proofs.Validator.Renamed

/-!
# Schemas compiled under other names

Settings that name declarations differently, and otherwise treat values in the same way, compile a schema
to the same validator up to these names (`compile_renamed`), with the same warnings and the same faults.
The document only matters as far as references lead somewhere in it.
-/

namespace ApiContract

/-- The second settings give a declaration the name `f name` where the first give it `name`, and all else
is alike: how values cross the wire, and which references lead somewhere. -/
structure Setting.Renames (f : String → String) (s s' : Setting) : Prop where
  crossing : s'.crossing = s.crossing
  use : s'.use = s.use
  name : ∀ key, s'.declarationName key = f (s.declarationName key)
  schemas : ∀ target key, Schema.componentKey? target = some key →
    Outcome.Agree (fun _ _ => True) (Pointer.find s.document target) (Pointer.find s'.document target)

namespace Schema

open Outcome Reported Validator

variable {f : String → String} {s s' : Setting} (h : s.Renames f s') (hf : Function.Injective f)
  {convert : Option Conversion} {style : ArrayStyle} {path : String} {notes : Annotations}

theorem Independent.image {c : Compiled} (hc : Independent c) : c.Image (renamed f) f c where
  validator := (renamed_eq_self fun name hname => absurd hname (hc.2 name)).symm
  dependsOn := by rw [hc.1, List.map_nil]
  hasDefault := rfl

theorem agree_joinArray {c c' : Compiled} (hc : c.Image (renamed f) f c') :
    Agree (Compiled.Image (renamed f) f) (joinArray path convert style c)
      (joinArray path convert style c') := by
  unfold joinArray
  cases convert.isSome && !style.explode with
  | false => exact .ok hc
  | true =>
    cases style.delimiter? with
    | none => exact .error _
    | some delimiter => exact .ok ⟨by rw [hc.validator, renamed], hc.dependsOn, hc.hasDefault⟩

include h

theorem agree_compileRef {target : String} :
    Agree (Compiled.Image (renamed f) f) (compileRef s target path) (compileRef s' target path) := by
  unfold compileRef
  by_cases hlocal : Pointer.isLocal target = true
  · cases hsegment : componentPath.toList.isPrefixOf? target.toList with
    | none => simpa [hlocal] using .error _
    | some segment =>
      have hkey : componentKey? target = some (Pointer.unescape (String.ofList segment)) := by
        simp [componentKey?, hsegment]
      simp only [hlocal, Bool.not_true, Bool.false_eq_true, ↓reduceIte]
      refine (Pointer.agree_follow (h.schemas target _ hkey)).bind fun _ _ _ => .ok ⟨?_, ?_, rfl⟩
      · rw [h.name]
        rfl
      · rw [h.name]
        rfl
  · simpa [hlocal] using .error _

theorem compileScalar_eq {fields : ScalarSchema} :
    compileScalar s' notes fields path convert = compileScalar s notes fields path convert := by
  obtain ⟨_, crossing, _, _, use⟩ := s
  obtain ⟨_, crossing', _, _, use'⟩ := s'
  obtain rfl : crossing' = crossing := h.crossing
  obtain rfl : use' = use := h.use
  rfl

include hf

/-- One schema compiles to the same under other names. -/
theorem compile_renamed (schema : Schema) :
    Reported.Alike (Compiled.Image (renamed f) f) (compile s convert style path schema)
      (compile s' convert style path schema) := by
  rw [alike_iff_follows]
  refine follows_compile_of_leaves (morphism_renamed f) hf schema ⟨?_, ?_, ?_, ?_, rfl⟩
  · exact fun notes target path _ => agree_compileRef h
  · exact fun notes values path _ => .inr (.of_eq rfl fun c hc => (independent_enum hc).image)
  · intro notes fields path _
    rw [compileScalar_eq h]
    exact ⟨rfl, .of_eq rfl fun c hc => (independent_scalar hc).image⟩
  · exact fun notes items _ => ⟨rfl, fun path style c c' hc => agree_joinArray hc⟩

theorem compileValue_renamed {required : Bool} (schema : Schema) :
    Reported.Alike (Compiled.Image (renamed f) f) (compileValue s required path schema convert style)
      (compileValue s' required path schema convert style) := by
  rw [alike_iff_follows]
  unfold compileValue
  refine (compile_renamed h hf schema).bind fun c c' hc => follows_lift ?_
  exact agree_requireValue (morphism_renamed f) hc

theorem compileRepeated_renamed {required : Bool} (schema : Schema) :
    Reported.Alike (Compiled.Image (renamed f) f) (compileRepeated s required path schema convert)
      (compileRepeated s' required path schema convert) := by
  rw [alike_iff_follows]
  have hg := morphism_renamed f
  unfold compileRepeated
  split
  next notes items =>
    refine (compileValue_renamed h hf items).bind fun item item' hitem => ?_
    refine (follows_lift (agree_finishArray hg hitem)).bind fun c c' hc => ?_
    exact follows_lift (agree_requireValue hg hc)
  next => exact follows_fail _

end Schema

end ApiContract
