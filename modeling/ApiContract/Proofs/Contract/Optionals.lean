import ApiContract.Proofs.Contract.Passages
import ApiContract.Proofs.Operation.Variants
import ApiContract.Proofs.Schema.Optionals

/-!
# Optional validators of contracts

Parameters and headers are compiled as values that may be absent, and stand in the fields of their group;
bodies and declarations never are. So the places of optional validators are those that schemas give them:
`compile_places`.
-/

namespace ApiContract

open Outcome Validator

namespace Operation

theorem assembles_placesOptionals (s : Setting) (side : Side) :
    Assembles s side PlacesOptionals PlacedInField where
  schema schema _ _ hc := (Schema.marksDefault_compile schema hc).places
  value _ _ _ _ _ _ hc := Schema.placedInField_compileValue hc
  repeated _ _ _ _ _ hc := Schema.placedInField_compileRepeated hc
  field _ := .inl
  object _ := placesOptionals_object.2
  literal _ := placesOptionals_literal
  noContent := placesOptionals_noContent
  union _ := placesOptionals_union.2
  both _ _ hv hw := (andAlso_iff fun _ => placesOptionals_intersection).2 ⟨hv, hw⟩

theorem placesOptionals_compile {document operation pathParameters : Value} {method route : String}
    {mode : Mode} {namePrefix path : String} {o : Operation}
    (h : (compile document operation method route mode namePrefix path pathParameters).result =
      .ok o) :
    o.request.PlacesOptionals ∧ o.response.PlacesOptionals := by
  obtain ⟨hrequest, hresponse⟩ := compile_ok h
  exact ⟨(assembles_placesOptionals _ _).of_request hrequest,
    (assembles_placesOptionals _ _).of_response hresponse⟩

end Operation

namespace Contract

/-- A compiled schema has a default exactly where one is met in its validator; and every optional validator
of a contract stands directly in a field of an object, with neither a default nor an optional validator
right inside it. -/
theorem compile_places :
    (∀ (s : Setting) (convert : Option Conversion) (style : ArrayStyle) (path : String)
        (schema : Schema) (c : Compiled), (schema.compile s convert style path).result = .ok c →
        (c.hasDefault = true ↔ c.validator.MeetsDefault)) ∧
      ∀ (document : Value) (options : Options) (contract : Contract),
        (compile document options).result = .ok contract →
        ∀ v, contract.Holds v → v.PlacesOptionals := by
  refine ⟨fun _ _ _ _ schema _ hc => (Schema.marksDefault_compile schema hc).flag, ?_⟩
  intro document options contract h v hv
  obtain ⟨_, -, _, -, compiled, hcompiled, ds, hds, operations, hoperations, rfl⟩ := compile_ok.1 h
  have hoperation : ∀ e ∈ operations, e.2.request.PlacesOptionals ∧ e.2.response.PlacesOptionals := by
    intro e he
    obtain ⟨_, _, -, -, hsites⟩ := compileOperations_ok hoperations
    obtain ⟨_, -, _, _, -, -, -, ho⟩ := hsites.exists_left he
    exact Operation.placesOptionals_compile ho
  cases hv with
  | declaration member =>
    obtain ⟨_, _, _, schema, _, -, -, -, -, hd⟩ :=
      component_of_mem hcompiled (Declaration.mem_of_order hds member)
    obtain ⟨c, hc, -, rfl⟩ := compileDeclaration_ok.1 hd
    exact (Schema.marksDefault_compile schema hc).places
  | request member => exact (hoperation _ member).1
  | response member => exact (hoperation _ member).2

/-- A level that may be null, and is the first one unless it is stated. -/
def levelSchema : Schema :=
  .anyOf ⟨none, true, none⟩
    [.scalar ⟨some (.int 1), false, none⟩ ⟨.integer, none, none, none, none, none, none⟩]

/-- The default of a level is met inside its `nullable`, and the day of a visit is optional around its
transform. -/
theorem places_visits :
    (∃ c, (levelSchema.compile { document := .null } none .standard "#").result = .ok c ∧
      c.hasDefault = true ∧ c.validator.MeetsDefault) ∧
      ∃ contract, (compile visits ⟨.client, ""⟩).result = .ok contract ∧
        contract.Holds visitRequest ∧ visitRequest.PlacesOptionals := by
  constructor
  · have hflag : (levelSchema.compile { document := .null } none .standard "#").result.toOption.map
        (·.hasDefault) = some true := rfl
    obtain ⟨c, h, hflag⟩ := eq_ok_of_toOption hflag
    exact ⟨c, h, hflag, (compile_places.1 _ _ _ _ _ c h).1 hflag⟩
  · obtain ⟨contract, h, hoperations⟩ := compile_visits
    obtain ⟨⟨id, o⟩, ho, heq⟩ := List.mem_map.1 (hoperations ▸ List.mem_singleton_self _)
    have hholds : contract.Holds visitRequest := (Prod.mk.inj heq).1 ▸ .request ho
    exact ⟨contract, h, hholds, compile_places.2 _ _ _ h _ hholds⟩

end Contract

end ApiContract
