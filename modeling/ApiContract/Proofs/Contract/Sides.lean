import ApiContract.Proofs.Contract.Emission
import ApiContract.Proofs.Contract.Passages

/-!
# The sides of contracts

Where requests and responses are compiled apart, every component schema is declared once for each of
them, under a name that tells the side by its ending. What is on one side only refers to names of its own
side, and in the other modes every component schema is declared once: `compile_sides`.
-/

namespace ApiContract

/-- How the names of the declarations on a side end, where there are two sides. -/
def Use.ending : Use → String
  | .request => "__Req"
  | .response => "__Res"
  | .unknown => ""

namespace Contract

open Outcome

variable {document : Value} {options : Options} {contract : Contract} {name : String}

/-- The name is made of the prefix, a key and the ending of the side. -/
def NamedFor (namePrefix : String) (use : Use) (name : String) : Prop :=
  ∃ key, name = namePrefix ++ key ++ use.ending

theorem suffix_of {mode : Mode} (h : mode.isDirectional = true) {use : Use} (huse : use ≠ .unknown) :
    (Side.of mode use).suffix = use.ending := by
  revert h huse
  cases mode <;> cases use <;> decide

/-- What a schema names on the side of requests, or on the side of responses, is named for it. -/
theorem namedFor_of_names {crossing : Crossing} {use use' : Use} {schema : Schema}
    (hmode : options.mode.isDirectional = true) (huse : use ≠ .unknown)
    (h : schema.Names
      { document, crossing, use := use', namePrefix := options.namePrefix,
        suffix := (Side.of options.mode use).suffix } name) :
    NamedFor options.namePrefix use name := by
  obtain ⟨target, key, -, -, rfl⟩ := h
  refine ⟨key, ?_⟩
  rw [← suffix_of hmode huse]
  rfl

theorem namedFor_of_operation (hmode : options.mode.isDirectional = true)
    (h : (compile document options).result = .ok contract) {id : String} {o : Operation}
    (ho : (id, o) ∈ contract.operations) :
    (o.request.Refers name → NamedFor options.namePrefix .request name) ∧
      (o.response.Refers name → NamedFor options.namePrefix .response name) := by
  obtain ⟨_, -, _, -, _, -, _, -, operations, hoperations, rfl⟩ := compile_ok.1 h
  obtain ⟨_, _, -, -, hsites⟩ := compileOperations_ok hoperations
  obtain ⟨site, -, route, pathParameters, -, -, -, hcompiled⟩ := hsites.exists_left ho
  obtain ⟨hrequest, hresponse⟩ := Operation.compile_ok hcompiled
  constructor
  · intro hrefers
    obtain ⟨schema, -, hnames⟩ := (Operation.refers_compileRequest hrequest).1 hrefers
    exact namedFor_of_names hmode nofun hnames
  · intro hrefers
    obtain ⟨schema, -, hnames⟩ := (Operation.refers_compileResponse hresponse name).1 hrefers
    exact namedFor_of_names hmode nofun hnames

/-- A declaration whose name ends as those of a side do is compiled on that side. -/
theorem namedFor_of_declaration (hmode : options.mode.isDirectional = true)
    (h : (compile document options).result = .ok contract) {use : Use} (huse : use ≠ .unknown)
    {d : Declaration} (hd : d ∈ contract.declarations) {rest : String}
    (hname : d.name = rest ++ use.ending)
    (hrefers : d.validator.Refers name ∨ name ∈ d.dependsOn) :
    NamedFor options.namePrefix use name := by
  obtain ⟨_, -, _, -, compiled, hcompiled, ds, hds, _, -, rfl⟩ := compile_ok.1 h
  obtain ⟨_, key, _, schema, side, -, -, -, hside, hdeclared⟩ :=
    component_of_mem hcompiled (Declaration.mem_of_order hds hd)
  obtain ⟨c, hc, -, rfl⟩ := compileDeclaration_ok.1 hdeclared
  have hof : Side.of options.mode use ∈ sidesOf options.mode := by
    cases use with
    | request => exact (mem_sidesOf options.mode).1
    | response => exact (mem_sidesOf options.mode).2
    | unknown => exact absurd rfl huse
  have hsuffix : side.suffix = (Side.of options.mode use).suffix := by
    rw [← suffix_of hmode huse] at hname
    exact suffix_eq hname (length_suffix options.mode side hside _ hof)
  have hnames : schema.Names (componentSetting document options.namePrefix side) name := by
    have htells := Schema.tells_compile schema hc name
    exact hrefers.elim htells.refers.1 htells.depends.1
  rw [componentSetting, hsuffix] at hnames
  exact namedFor_of_names hmode huse hnames

/-- The names and the sources of the declarations, each once. -/
theorem headings_compile (hp : document.Proper)
    (h : (compile document options).result = .ok contract) :
    (contract.declarations.map fun d => (d.name, d.source)).Perm
        ((componentNames document).flatMap fun key => (sidesOf options.mode).map fun side =>
          (declaredName options.namePrefix side key, some (componentPlace key))) ∧
      (contract.declarations.map (·.name)).Nodup := by
  obtain ⟨_, -, _, -, compiled, hcompiled, ds, hds, _, -, rfl⟩ := compile_ok.1 h
  have hnames := nodup_names_compileComponents hp hcompiled
  have hperm : ds.Perm compiled := Declaration.order_perm hnames hds
  constructor
  · rw [← headings_compileComponents hcompiled]
    exact hperm.map _
  · exact (hperm.map _).nodup_iff.2 hnames

/-- Nothing on one side refers to the other one or depends on it, and every component schema has its one
declaration on each side. -/
theorem compile_sides (hp : document.Proper)
    (h : (compile document options).result = .ok contract) :
    (options.mode.isDirectional = true →
      (∀ use v name, contract.Describes use v → v.Refers name →
        NamedFor options.namePrefix use name) ∧
      (∀ use, use ≠ .unknown → ∀ d ∈ contract.declarations, ∀ rest, d.name = rest ++ use.ending →
        ∀ name ∈ d.dependsOn, NamedFor options.namePrefix use name) ∧
      (contract.declarations.map fun d => (d.name, d.source)).Perm
        ((componentNames document).flatMap fun key =>
          [(options.namePrefix ++ key ++ "__Req", some (componentPlace key)),
            (options.namePrefix ++ key ++ "__Res", some (componentPlace key))])) ∧
      (options.mode.isDirectional = false →
        (contract.declarations.map fun d => (d.name, d.source)).Perm
          ((componentNames document).map fun key =>
            (options.namePrefix ++ key, some (componentPlace key)))) ∧
      (contract.declarations.map (·.name)).Nodup := by
  obtain ⟨hheadings, hnames⟩ := headings_compile hp h
  refine ⟨fun hmode => ⟨?_, ?_, ?_⟩, fun hmode => ?_, hnames⟩
  · intro use v name hv hrefers
    cases hv with
    | request member => exact (namedFor_of_operation hmode h member).1 hrefers
    | response member => exact (namedFor_of_operation hmode h member).2 hrefers
    | requestDeclaration member hname =>
      exact namedFor_of_declaration hmode h nofun member hname (.inl hrefers)
    | responseDeclaration member hname =>
      exact namedFor_of_declaration hmode h nofun member hname (.inl hrefers)
  · intro use huse d hd rest hname name hdepends
    exact namedFor_of_declaration hmode h huse hd hname (.inr hdepends)
  · have hrequest : (Side.of options.mode .request).suffix = "__Req" := suffix_of hmode nofun
    have hresponse : (Side.of options.mode .response).suffix = "__Res" := suffix_of hmode nofun
    simpa only [sidesOf, hmode, if_true, List.map_cons, List.map_nil, declaredName, hrequest,
      hresponse] using hheadings
  · have hsuffix : (Side.of options.mode .unknown).suffix = "" := by
      revert hmode
      cases options.mode <;> decide
    simpa only [sidesOf, hmode, Bool.false_eq_true, if_false, List.map_cons, List.map_nil,
      declaredName, hsuffix, String.append_empty, ← List.map_eq_flatMap] using hheadings

/-- The list of owners and their owner, on the side with this ending. -/
def ownersDeclaration (ending : String) : Declaration :=
  { name := "ApiOwners" ++ ending, validator := .array (.ref ("ApiOwner" ++ ending)),
    dependsOn := ["ApiOwner" ++ ending], source := some "#/components/schemas/Owners" }

def ownerDeclaration (ending : String) : Declaration :=
  { name := "ApiOwner" ++ ending, validator := .type .string, dependsOn := [],
    source := some "#/components/schemas/Owner" }

/-- What a client sends is declared apart from what it receives. -/
theorem sides_owners :
    ∃ contract, (compile owners ⟨.client, "Api"⟩).result = .ok contract ∧
      contract.declarations = [ownerDeclaration "__Req", ownerDeclaration "__Res",
        ownersDeclaration "__Req", ownersDeclaration "__Res"] ∧
      (∀ use v name, contract.Describes use v → v.Refers name → NamedFor "Api" use name) ∧
      (∀ use, use ≠ .unknown → ∀ d ∈ contract.declarations, ∀ rest, d.name = rest ++ use.ending →
        ∀ name ∈ d.dependsOn, NamedFor "Api" use name) ∧
      (contract.declarations.map (·.name)).Nodup := by
  have hcompiled : (compileComponents owners ⟨.client, "Api"⟩).result =
      .ok [ownersDeclaration "__Req", ownersDeclaration "__Res", ownerDeclaration "__Req",
        ownerDeclaration "__Res"] := rfl
  have horder : Declaration.order [ownersDeclaration "__Req", ownersDeclaration "__Res",
      ownerDeclaration "__Req", ownerDeclaration "__Res"] =
        .ok [ownerDeclaration "__Req", ownerDeclaration "__Res", ownersDeclaration "__Req",
          ownersDeclaration "__Res"] := by
    have hleaves : Declaration.leaves [ownersDeclaration "__Req", ownersDeclaration "__Res",
        ownerDeclaration "__Req", ownerDeclaration "__Res"] =
          [ownerDeclaration "__Req", ownerDeclaration "__Res"] :=
      List.mergeSort_of_pairwise (by decide)
    unfold Declaration.order
    rw [hleaves]
    rfl
  have h := compile_ok.2 ⟨_, rfl, _, rfl, _, hcompiled, _, horder, _, rfl, rfl⟩
  obtain ⟨hdirectional, -, hnames⟩ := compile_sides proper_owners h
  obtain ⟨hrefers, hdepends, -⟩ := hdirectional rfl
  exact ⟨_, h, rfl, hrefers, hdepends, hnames⟩

end Contract

end ApiContract
