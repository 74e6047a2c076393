import ApiContract.Proofs.Schema.Crossings
import ApiContract.Proofs.Schema.References

/-!
# Schemas are compiled separately

What a reference leads to is looked up and not looked at: a schema compiles to the same in every document
in which its references lead somewhere, so that one component can be compiled before another changes.
References that do not lead among the component schemas are refused in every document alike.
`compile_separately` says so of a whole schema.
-/

namespace ApiContract.Schema

open Outcome Reported Validator

variable {s : Setting} {document : Value} {convert : Option Conversion} {style : ArrayStyle}
  {path : String}

/-- A target among the component schemas leads somewhere in both documents. -/
def LeadsInBoth (document document' : Value) (target : String) : Prop :=
  componentPath.toList <+: target.toList →
    (∃ v, Pointer.find document target = .ok v) ∧ ∃ v, Pointer.find document' target = .ok v

theorem compileRef_separately {target : String} (h : LeadsInBoth s.document document target) :
    compileRef { s with document } target path = compileRef s target path := by
  unfold compileRef
  by_cases hlocal : Pointer.isLocal target = true
  · cases hsegment : componentPath.toList.isPrefixOf? target.toList with
    | none => rfl
    | some segment =>
      have hprefix : componentPath.toList <+: target.toList :=
        ⟨segment, List.isPrefixOf?_eq_some_iff_append_eq.1 hsegment⟩
      obtain ⟨⟨v, hv⟩, ⟨v', hv'⟩⟩ := h hprefix
      simp only [Pointer.follow, hv, hv']
      rfl
  · simp only [hlocal]
    rfl

/-- The document does not matter for a schema whose references lead somewhere in it. -/
theorem compile_separately (schema : Schema)
    (h : ∀ target, schema.PointsTo target → LeadsInBoth s.document document target) :
    compile { s with document } convert style path schema = compile s convert style path schema := by
  have hsame (y : Except Fault Compiled) : Agree (Compiled.Image id id) y y :=
    .of_eq rfl fun c _ => Compiled.image_id.2 rfl
  have halike : Reported.Alike (Compiled.Image id id) (compile s convert style path schema)
      (compile { s with document } convert style path schema) := by
    rw [alike_iff_follows]
    refine follows_compile_of_leaves morphism_id Function.injective_id schema ⟨?_, ?_, ?_, ?_, rfl⟩
    · intro notes target path hwithin
      rw [compileRef_separately (h target ⟨notes, hwithin⟩)]
      exact hsame _
    · exact fun notes values path _ => .inr (hsame _)
    · exact fun notes fields path _ => ⟨rfl, hsame _⟩
    · intro notes items _
      refine ⟨rfl, fun path style c c' hc => ?_⟩
      rw [Compiled.image_id.1 hc]
      exact hsame _
  exact (halike.imp fun _ _ hc => Compiled.image_id.1 hc).eq.symm

/-- The components of `kennelSetting` with other bodies, and one more. -/
def movedKennel : Value :=
  .object [("components", .object [("schemas", .object [
    ("Owner", .object [("type", .text "string")]),
    ("Tag", .object [("enum", .list [])]),
    ("Pet", .object [("$ref", .text "#/components/schemas/Owner")])])])]

theorem kennel_separately :
    (∀ target, kennelSchema.PointsTo target →
        LeadsInBoth kennelSetting.document movedKennel target) ∧
      (∃ c, (compile kennelSetting none .standard "#" kennelSchema).result = .ok c) ∧
      compile { kennelSetting with document := movedKennel } none .standard "#" kennelSchema =
        compile kennelSetting none .standard "#" kennelSchema := by
  have hleads : ∀ target, kennelSchema.PointsTo target →
      LeadsInBoth kennelSetting.document movedKennel target := by
    intro target htarget
    have hnames : target = "#/components/schemas/Tag" ∨ target = "#/components/schemas/Pet" ∨
        target = "#/components/schemas/Tag" := by
      simpa [kennelSchema, pointsTo_iff, pointsTo_ref, children, ExtraKeys.schema?, eq_comm]
        using htarget
    rcases hnames with rfl | rfl | rfl
    all_goals exact fun _ => ⟨⟨_, rfl⟩, ⟨_, rfl⟩⟩
  exact ⟨hleads, ⟨_, rfl⟩, compile_separately kennelSchema hleads⟩

end ApiContract.Schema
