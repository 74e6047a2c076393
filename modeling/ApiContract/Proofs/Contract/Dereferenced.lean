import ApiContract.Proofs.Operation.Renamed
import ApiContract.Service.Basic

/-!
# References are followed one step

Parameters, bodies, responses, headers and security schemes may be given by reference. One reference is
followed, so that what is compiled is the same as if everything stood directly where a reference to it
stands: `compile_eq_of_counterparts`. A reference that leads to another one is read as an object without
any of the fields that stand behind the second one.
-/

namespace ApiContract

open Outcome

variable {document document' : Value}

namespace Operation

variable {operation operation' pathParameters pathParameters' : Value}

theorem renamed_id (o : Operation) : o.renamed id = o := by
  have hid (v : Validator) : v.renamed id = v := Validator.renamed_eq_self fun _ _ => rfl
  rw [renamed, hid, hid]

theorem Counterparts.compile_eq
    (h : Counterparts document document' operation operation' pathParameters pathParameters')
    (method route : String) (mode : Mode) (namePrefix path : String) :
    compile document' operation' method route mode namePrefix path pathParameters' =
      compile document operation method route mode namePrefix path pathParameters := by
  refine (Reported.Alike.eq ?_).symm
  refine (compile_counterparts h Function.injective_id fun _ => rfl).imp fun o o' ho => ?_
  rw [ho, renamed_id]

end Operation

namespace Service

/-- The servers of the two documents are the same, and their security schemes are counterparts. -/
structure Counterparts (document document' : Value) : Prop where
  servers : document'.getOrNull "servers" = document.getOrNull "servers"
  schemes : Agree (List.Forall₂ (Entrywise (Counterpart document document' SameFields)))
    (componentsOf document "securitySchemes") (componentsOf document' "securitySchemes")

theorem readScheme_eq {name : String} {declared declared' : Value} (h : SameFields declared declared') :
    readScheme name declared' = readScheme name declared := by
  unfold readScheme
  simp only [h.get "type", h.getOrNull "description", h.getOrNull "name", h.getOrNull "in",
    h.getOrNull "scheme", h.getOrNull "bearerFormat", h.getOrNull "flows",
    h.getOrNull "openIdConnectUrl"]

theorem Counterparts.compileSchemes_eq (h : Counterparts document document') :
    compileSchemes document' = compileSchemes document := by
  have hagree : Agree (List.Forall₂ Eq) (compileSchemes document) (compileSchemes document') := by
    unfold compileSchemes
    refine h.schemes.bind fun declared declared' hdeclared => .mapM (hdeclared.imp ?_)
    rintro ⟨key, v⟩ ⟨_, v'⟩ ⟨rfl, hv⟩
    refine .bind_same fun name _ => (hv.resolve _).bind fun scheme scheme' hscheme => ?_
    rw [readScheme_eq hscheme]
    exact .of_eq rfl fun _ _ => rfl
  rw [List.forall₂_eq_eq_eq] at hagree
  exact hagree.eq.symm

theorem Counterparts.compile_eq (h : Counterparts document document') :
    Service.compile document' = Service.compile document := by
  unfold Service.compile
  rw [h.servers, h.compileSchemes_eq]

end Service

/-- What is compiled of an operation, and what is read of the service, stays the same when references to
parameters, bodies, responses, headers and security schemes are replaced by what they lead to in one
step. -/
theorem compile_eq_of_counterparts (document document' : Value) :
    (∀ operation operation' pathParameters pathParameters',
        Operation.Counterparts document document' operation operation' pathParameters pathParameters' →
        ∀ method route mode namePrefix path,
          Operation.compile document' operation' method route mode namePrefix path pathParameters' =
            Operation.compile document operation method route mode namePrefix path pathParameters) ∧
      (Service.Counterparts document document' →
        Service.compile document' = Service.compile document) :=
  ⟨fun _ _ _ _ h => h.compile_eq, fun h => h.compile_eq⟩

/-! ## A reference to a reference -/

def refTo (target : String) : Value := .object [("$ref", .text target)]

/-- A response with a text. -/
def greeting : Value :=
  .object [("description", .text "a greeting"), ("content", .object [("application/json",
    .object [("schema", .object [("type", .text "string")])])])]

def basicScheme : Value := .object [("type", .text "http"), ("scheme", .text "basic")]

/-- A document with a response, a reference to it and two security schemes. -/
def greetings (primary : Value) : Value :=
  .object [("components", .object [
    ("responses", .object [("Greeting", greeting), ("Alias", refTo "#/components/responses/Greeting")]),
    ("securitySchemes", .object [("basic", basicScheme), ("primary", primary)])])]

/-- An operation with one response in a document of greetings, compiled. -/
def answering (response : Value) : Reported Operation :=
  Operation.compile (greetings .null) (.object [("responses", .object [("200", response)])]) "get" "/"
    .handler "" "#/paths/~1/get" .null

/-- Behind one reference the greeting is found, and so is a security scheme. Behind two of them a
response without content is read. -/
theorem counterparts_greetings :
    answering greeting = answering (refTo "#/components/responses/Greeting") ∧
      Service.compile (greetings basicScheme) =
        Service.compile (greetings (refTo "#/components/securitySchemes/basic")) ∧
      (answering greeting).result.toOption.map (·.response) =
        some (.object [("statusCode", .literal (.int 200)), ("body", .type .string)] .closed) ∧
      (answering (refTo "#/components/responses/Alias")).result.toOption.map (·.response) =
        some (.object [("statusCode", .literal (.int 200)), ("body", .noContent)] .closed) := by
  refine ⟨?_, ?_, rfl, rfl⟩
  · refine (compile_eq_of_counterparts _ _).1 _ _ _ _ ?_ _ _ _ _ _
    exact {
      schemas _ _ _ := .of_eq rfl fun _ _ => trivial
      pathParameters := Operation.membersAlike_refl _ _
      parameters := .of_eq rfl fun raw _ => Operation.membersAlike_refl _ raw
      body := .of_eq rfl fun body _ => ⟨rfl, counterpart_refl SameFields.refl body⟩
      responses := .ok ⟨rfl, .ok (.cons
        ⟨rfl, .target rfl rfl rfl rfl (Operation.responseAlike_refl _ _)⟩ .nil)⟩
      security := rfl
      documentSecurity := rfl }
  · refine (compile_eq_of_counterparts _ _).2 ⟨rfl, .ok (.cons ⟨rfl, ?_⟩ (.cons ⟨rfl, ?_⟩ .nil))⟩
    · exact .plain rfl rfl (SameFields.refl _)
    · exact .target rfl rfl rfl rfl (SameFields.refl _)

end ApiContract
