import ApiContract.Proofs.Contract.Compiled
import ApiContract.Proofs.Declaration.Order
import ApiContract.Proofs.Operation.Response

/-!
# Closed contracts

A contract is closed when every reference within it names one of its declarations. A reference is
compiled when it leads to anything within the component schemas, also to a part of one of them, and its
name is made of all that stands behind the path of the components. So a contract is closed exactly when
every reference that it shows leads to a component schema itself: `compile_closed_iff`.
-/

namespace ApiContract

namespace Contract

open Outcome

variable {document : Value} {options : Options} {contract : Contract}

/-- The validators that a contract is made of. -/
inductive Holds (contract : Contract) : Validator → Prop where
  | declaration {d : Declaration} (member : d ∈ contract.declarations) : Holds contract d.validator
  | request {id : String} {o : Operation} (member : (id, o) ∈ contract.operations) :
    Holds contract o.request
  | response {id : String} {o : Operation} (member : (id, o) ∈ contract.operations) :
    Holds contract o.response

/-- Every reference in a contract names one of its declarations. -/
def Closed (contract : Contract) : Prop :=
  ∀ v name, contract.Holds v → v.Refers name → ∃ d ∈ contract.declarations, d.name = name

/-- The schemas of a document that its contract shows. -/
inductive Shows (document : Value) : Schema → Prop where
  | component {components : List (Scalar × Value)} {name : String} {raw : Value} {schema : Schema}
    (found : Service.componentsOf document "schemas" = .ok components)
    (member : (Scalar.text name, raw) ∈ components)
    (reads : Schema.read raw (componentPlace name) 0 = .ok schema) : Shows document schema
  | request {paths : Value} {entries : List (Scalar × Value)} {site : Site} {route : String}
    {pathParameters : Value} {schema : Schema} (stated : document.getOrNull "paths" = .ok paths)
    (found : paths.entriesOrNone = .ok entries) (member : site ∈ sites entries)
    (place : site.route = .text route)
    (parameters : site.pathItem.getOrNull "parameters" = .ok pathParameters)
    (shows : Operation.RequestShows document site.operation (sitePlace route site.method)
      pathParameters schema) : Shows document schema
  | response {paths : Value} {entries : List (Scalar × Value)} {site : Site} {route : String}
    {schema : Schema} (stated : document.getOrNull "paths" = .ok paths)
    (found : paths.entriesOrNone = .ok entries) (member : site ∈ sites entries)
    (place : site.route = .text route)
    (shows : Operation.ResponseShows document site.operation (sitePlace route site.method) schema) :
    Shows document schema

/-- A reference of the schema gives this name on a side for which the document is compiled. -/
def Gives (options : Options) (schema : Schema) (name : String) : Prop :=
  ∃ side ∈ sidesOf options.mode, ∃ target key, schema.PointsTo target ∧
    Schema.componentKey? target = some key ∧ declaredName options.namePrefix side key = name

theorem refers_of_holds (h : (compile document options).result = .ok contract)
    (hp : document.Proper) {v : Validator} {name : String} (hv : contract.Holds v)
    (hrefers : v.Refers name) : ∃ schema, Shows document schema ∧ Gives options schema name := by
  obtain ⟨_, -, _, -, compiled, hcompiled, ds, hds, operations, hoperations, rfl⟩ := compile_ok.1 h
  cases hv with
  | @declaration d member =>
    have hperm := Declaration.order_perm (nodup_names_compileComponents hp hcompiled) hds
    obtain ⟨components, key, raw, schema, side, hcomponents, hmem, hreads, hside, hd⟩ :=
      component_of_mem hcompiled (hperm.mem_iff.1 member)
    obtain ⟨c, hc, -, rfl⟩ := compileDeclaration_ok.1 hd
    exact ⟨schema, .component hcomponents hmem hreads, side, hside,
      (Schema.tells_compile schema hc name).refers.1 hrefers⟩
  | @request id o member =>
    obtain ⟨paths, entries, hpaths, hentries, hsites⟩ := compileOperations_ok hoperations
    obtain ⟨site, hsite, route, pathParameters, hroute, -, hparameters, ho⟩ :=
      hsites.exists_left member
    obtain ⟨schema, hshows, hnames⟩ :=
      (Operation.refers_compileRequest (Operation.compile_ok ho).1).1 hrefers
    exact ⟨schema, .request hpaths hentries hsite hroute hparameters hshows, _,
      (mem_sidesOf options.mode).1, hnames⟩
  | @response id o member =>
    obtain ⟨paths, entries, hpaths, hentries, hsites⟩ := compileOperations_ok hoperations
    obtain ⟨site, hsite, route, pathParameters, hroute, -, -, ho⟩ := hsites.exists_left member
    obtain ⟨schema, hshows, hnames⟩ :=
      (Operation.refers_compileResponse (Operation.compile_ok ho).2 name).1 hrefers
    exact ⟨schema, .response hpaths hentries hsite hroute hshows, _, (mem_sidesOf options.mode).2,
      hnames⟩

theorem holds_of_shows (h : (compile document options).result = .ok contract) (hp : document.Proper)
    {schema : Schema} (hschema : Shows document schema) {target key : String}
    (htarget : schema.PointsTo target) (hkey : Schema.componentKey? target = some key) :
    ∃ side ∈ sidesOf options.mode, ∃ v, contract.Holds v ∧
      v.Refers (declaredName options.namePrefix side key) := by
  obtain ⟨_, -, _, -, compiled, hcompiled, ds, hds, operations, hoperations, rfl⟩ := compile_ok.1 h
  obtain ⟨hrequest, hresponse⟩ := mem_sidesOf options.mode
  cases hschema with
  | component found member reads =>
    have hperm := Declaration.order_perm (nodup_names_compileComponents hp hcompiled) hds
    obtain ⟨d, hd, hdeclared⟩ := exists_declaration hcompiled found member reads hrequest
    refine ⟨_, hrequest, d.validator, .declaration (hperm.mem_iff.2 hd), ?_⟩
    obtain ⟨c, hc, -, rfl⟩ := compileDeclaration_ok.1 hdeclared
    exact (Schema.tells_compile schema hc _).refers.2 ⟨target, key, htarget, hkey, rfl⟩
  | @request _ _ site _ _ _ stated found member place parameters shows =>
    obtain ⟨paths, entries, hpaths, hentries, hsites⟩ := compileOperations_ok hoperations
    obtain rfl := Except.ok.inj (hpaths.symm.trans stated)
    obtain rfl := Except.ok.inj (hentries.symm.trans found)
    obtain ⟨⟨id, o⟩, ho, route, pathParameters, hroute, -, hparameters, hcompiled⟩ :=
      hsites.exists_right member
    obtain rfl := Scalar.text.inj (hroute.symm.trans place)
    obtain rfl := Except.ok.inj (hparameters.symm.trans parameters)
    exact ⟨_, hrequest, o.request, .request ho,
      (Operation.refers_compileRequest (Operation.compile_ok hcompiled).1).2
        ⟨schema, shows, target, key, htarget, hkey, rfl⟩⟩
  | response stated found member place shows =>
    obtain ⟨paths, entries, hpaths, hentries, hsites⟩ := compileOperations_ok hoperations
    obtain rfl := Except.ok.inj (hpaths.symm.trans stated)
    obtain rfl := Except.ok.inj (hentries.symm.trans found)
    obtain ⟨⟨id, o⟩, ho, route, pathParameters, hroute, -, -, hcompiled⟩ := hsites.exists_right member
    obtain rfl := Scalar.text.inj (hroute.symm.trans place)
    exact ⟨_, hresponse, o.response, .response ho,
      (Operation.refers_compileResponse (Operation.compile_ok hcompiled).2 _).2
        ⟨schema, shows, target, key, htarget, hkey, rfl⟩⟩

/-- The names of the declarations of a contract are those of the component schemas. -/
theorem exists_declared_iff (h : (compile document options).result = .ok contract)
    (hp : document.Proper) {side : Side} (hside : side ∈ sidesOf options.mode) {key : String} :
    (∃ d ∈ contract.declarations, d.name = declaredName options.namePrefix side key) ↔
      key ∈ componentNames document := by
  obtain ⟨_, -, _, -, compiled, hcompiled, ds, hds, _, -, rfl⟩ := compile_ok.1 h
  have hperm := Declaration.order_perm (nodup_names_compileComponents hp hcompiled) hds
  rw [← declaredName_mem_names hcompiled hside, ← (hperm.map _).mem_iff, List.mem_map]

/-- Of all the references that a contract shows, each leads to a component schema, rather than into
one, exactly when the contract is closed. -/
theorem compile_closed_iff (hp : document.Proper)
    (h : (compile document options).result = .ok contract) :
    contract.Closed ↔ ∀ schema target key, Shows document schema → schema.PointsTo target →
      Schema.componentKey? target = some key → key ∈ componentNames document := by
  constructor
  · intro hclosed schema target key hschema htarget hkey
    obtain ⟨side, hside, v, hv, hrefers⟩ := holds_of_shows h hp hschema htarget hkey
    exact (exists_declared_iff h hp hside).1 (hclosed v _ hv hrefers)
  · intro hall v name hv hrefers
    obtain ⟨schema, hschema, side, hside, target, key, htarget, hkey, rfl⟩ :=
      refers_of_holds h hp hv hrefers
    exact (exists_declared_iff h hp hside).2 (hall schema target key hschema htarget hkey)

/-- A document with a reference into a component schema. -/
def labels : Value :=
  .object [("openapi", .text "3.0.3"), ("components", .object [("schemas", .object [
    ("Pet", .object [("type", .text "object"),
      ("properties", .object [("name", .object [("type", .text "string")])])]),
    ("Label", .object [("$ref", .text "#/components/schemas/Pet/properties/name")])])])]

theorem proper_labels : labels.Proper := by simp [labels]

/-- The reference compiles, but no declaration has the name that it gives. -/
theorem not_closed_labels :
    ∃ contract, (compile labels {}).result = .ok contract ∧
      contract.declarations.map (·.name) = ["Pet", "Label"] ∧
      (∃ v, contract.Holds v ∧ v.Refers "Pet/properties/name") ∧ ¬ contract.Closed := by
  have hnames : (compile labels {}).result.toOption.map (·.declarations.map (·.name)) =
      some ["Pet", "Label"] := by decide +kernel
  cases h : (compile labels {}).result with
  | error fault => simp [h, Except.toOption] at hnames
  | ok contract =>
    have hkey : Schema.componentKey? "#/components/schemas/Pet/properties/name" =
        some "Pet/properties/name" := by decide +kernel
    have hshows : Shows labels (.ref ⟨none, false, none⟩ "#/components/schemas/Pet/properties/name") :=
      .component rfl (.tail _ (.head _)) rfl
    have hpoints : (Schema.ref ⟨none, false, none⟩ "#/components/schemas/Pet/properties/name").PointsTo
        "#/components/schemas/Pet/properties/name" := Schema.pointsTo_ref.2 rfl
    have hundeclared : "Pet/properties/name" ∉ componentNames labels := by decide +kernel
    obtain ⟨side, hside, v, hv, hrefers⟩ := holds_of_shows h proper_labels hshows hpoints hkey
    obtain rfl := List.mem_singleton.1 hside
    refine ⟨contract, rfl, by simpa [h, Except.toOption] using hnames, ⟨v, hv, hrefers⟩, fun hclosed => ?_⟩
    exact hundeclared ((compile_closed_iff proper_labels h).1 hclosed _ _ _ hshows hpoints hkey)

end Contract

end ApiContract
