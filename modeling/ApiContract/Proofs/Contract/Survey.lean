import ApiContract.Proofs.Contract.Components
import ApiContract.Proofs.Declaration.Order
import ApiContract.Proofs.Operation.Survey

/-!
# Where faults of documents are reported

The version, the service, the component schemas and the operations of a document fail at places where a
fault may point (`Survey.Placed`, `Survey.Traced`), and a cycle of declarations is reported at the place
of a component schema. So a fault of a document points where it may: `points_of_compile`.
-/

namespace ApiContract

open Outcome Reported

variable {document : Value} {S : Survey document}

/-! ## Service configuration -/

namespace Service

theorem placed_variableDefault (h : S.points serverPath) (values : Value) (name : String) :
    FailsAs S.Placed (variableDefault values name) := by
  unfold variableDefault
  refine (Value.failsAs_get _ _).bind fun declared _ => ?_
  split
  · simp [h]
  · split <;> simp [h]

theorem placed_expandVariables (h : S.points serverPath) (url : String) (values : Value) :
    FailsAs S.Placed (expandVariables url values) := by
  refine FailsAs.bind (failsAs_mapM fun piece _ => ?_) fun _ _ => failsAs_ok _
  split
  · simp
  · exact failsAs_map.2 (placed_variableDefault h _ _)

theorem placed_serverOfUrl (h : S.points serverPath) (url : String) :
    FailsAs S.Placed (serverOfUrl url) := by
  unfold serverOfUrl
  split <;> simp [h]

/-- The place of the address of the first server. -/
theorem points_serverPath {servers first : Value} {count : Nat} {url : Option Value}
    (hservers : document.getOrNull "servers" = .ok servers)
    (hfirst : firstServer servers = .ok (count, first)) (hurl : first.get "url" = .ok url) :
    S.points serverPath := by
  have hleads (hnull : servers.isNull = false) : S.leads (Pointer.raw "#" "servers") servers :=
    S.getOrNull (S.opens_of_leads S.root) rfl hservers hnull
  unfold firstServer at hfirst
  split at hfirst
  next first rest =>
    cases hfirst
    have hitem : S.leads (Pointer.item (Pointer.raw "#" "servers") 0) first :=
      S.item (hleads rfl) rfl
    have hplace : Pointer.raw (Pointer.item (Pointer.raw "#" "servers") 0) "url" = serverPath := rfl
    exact hplace ▸ S.keyword_of_get (S.opens_of_leads hitem) rfl hurl
  next entries =>
    split at hfirst
    next e he =>
      have hzero := List.find?_some (p := fun e : Scalar × Value => e.1.alike (.int 0)) he
      exact S.server (S.opens_of_leads (hleads rfl)) (List.mem_of_find?_eq_some he) hzero
    next => cases hfirst
  next => cases hfirst

theorem placed_compileServer {servers : Value} (hservers : document.getOrNull "servers" = .ok servers) :
    FailsAs S.Placed (compileServer servers).result := by
  unfold compileServer
  refine failsAs_result_ite.2 ⟨fun _ => failsAs_ok _, fun _ => ?_⟩
  simp only [result_bind, result_lift]
  refine (failsAs_firstServer servers).bind ?_
  rintro ⟨count, first⟩ hfirst
  refine (Value.failsAs_get _ _).bind fun url hurl => ?_
  have hpoints : S.points serverPath := points_serverPath hservers hfirst hurl
  -- The warning changes nothing.
  refine failsAs_result_ite.2 ⟨fun _ => failsAs_result_bind (by simp) fun _ => ?_, fun _ => ?_⟩
  · split <;> simp [placed_expandVariables hpoints, placed_serverOfUrl hpoints]
  · split <;> simp [placed_expandVariables hpoints, placed_serverOfUrl hpoints]

/-- The components of a document that declares some. -/
theorem leads_components {part : String} {components : List (Scalar × Value)} {e : Scalar × Value}
    (h : componentsOf document part = .ok components) (hmem : e ∈ components) :
    ∃ stated declared, S.leads (Pointer.raw "#" "components") stated ∧
      stated.getOrNull part = .ok declared ∧ declared.entriesOrNone = .ok components := by
  simp only [componentsOf, bind_eq_ok] at h
  obtain ⟨stated, hstated, declared, hdeclared, hentries⟩ := h
  split at hdeclared
  next =>
    cases hdeclared
    cases hentries
    cases hmem
  next =>
    have hnull : stated.isNull = false :=
      Value.isNull_of_isSome_entries? (Value.isSome_entries?_of_getOrNull hdeclared)
    have hleads := S.getOrNull (S.opens_of_leads S.root) rfl hstated hnull
    exact ⟨stated, declared, hleads, hdeclared, hentries⟩

/-- A component is where its key says. -/
theorem leads_componentsOf {part name : String} {components : List (Scalar × Value)} {v : Value}
    (hpart : Pointer.escape part = part) (h : componentsOf document part = .ok components)
    (hmem : (Scalar.text name, v) ∈ components) :
    S.leads (Pointer.child (Pointer.raw "#/components" part) name) v := by
  obtain ⟨stated, declared, hleads, hdeclared, hentries⟩ := leads_components (S := S) h hmem
  exact S.entriesOrNone (S.opens_of_leads hleads) hpart hdeclared hentries hmem

theorem placed_compileSchemes : FailsAs S.Placed (compileSchemes document) := by
  unfold compileSchemes
  refine (failsAs_componentsOf _ _).bind fun components hcomponents => failsAs_mapM ?_
  rintro ⟨key, declared⟩ hmem
  refine (failsAs_asText key).bind fun name hname => ?_
  obtain rfl := asText_eq_ok.1 hname
  have hpart : Pointer.escape "securitySchemes" = "securitySchemes" := rfl
  have hpath : Pointer.raw "#/components" "securitySchemes" = schemesPath := rfl
  have hleads : S.leads (Pointer.child schemesPath name) declared := by
    rw [← hpath]
    exact leads_componentsOf hpart hcomponents hmem
  refine (S.failsAs_resolve fun _ => hleads).bind fun fields _ => ?_
  exact (failsAs_readScheme name fields).bind fun _ _ => failsAs_ok _

theorem placed_compile : FailsAs S.Placed (Service.compile document).result := by
  simp only [Service.compile, result_bind, result_lift]
  refine (Value.failsAs_getOrNull _ _).bind fun servers hservers => ?_
  refine (placed_compileServer hservers).bind fun server _ => ?_
  exact placed_compileSchemes.bind fun _ _ => failsAs_ok _

end Service

/-! ## Declarations -/

namespace Declaration

variable {P : Fault → Prop} {pool ds : List Declaration}

theorem failsAs_visit (hunexpected : P .unexpected) (hcycle : ∀ cycle, P (cycleFault pool cycle))
    (levels : Nat) {path : List String} (p : Placement) {d : Declaration} :
    FailsAs P (visit pool levels path p d) := by
  induction levels generalizing path p d with
  | zero => exact failsAs_error.2 hunexpected
  | succ levels ih =>
    unfold visit
    split
    next => exact failsAs_ok p
    next =>
      split
      next => exact failsAs_error.2 (hcycle _)
      next => exact (failsAs_foldlM fun _ _ _ => ih _).bind fun _ _ => failsAs_ok _

/-- A cycle is reported at the source of a declaration, or at no declaration in particular. -/
theorem cycleFault_source (pool : List Declaration) (cycle : List String) :
    ∃ path, cycleFault pool cycle = .uncompilable (.cycle cycle) path ∧
      (path = "#/components/schemas" ∨ ∃ d ∈ pool, d.source = some path) := by
  unfold cycleFault
  dsimp only
  split
  next => exact ⟨_, rfl, .inl rfl⟩
  next => exact ⟨_, rfl, .inl rfl⟩
  next source _ hsource =>
    refine ⟨source, rfl, .inr ?_⟩
    obtain ⟨first, -, hfirst⟩ := Option.bind_eq_some_iff.1 hsource
    obtain ⟨d, hd, hsource⟩ := Option.bind_eq_some_iff.1 hfirst
    exact ⟨d, List.mem_of_find?_eq_some hd, hsource⟩

theorem failsAs_order (hunexpected : P .unexpected) (hcycle : ∀ cycle path, ∀ d ∈ ds,
      path = "#/components/schemas" ∨ d.source = some path → P (.uncompilable (.cycle cycle) path)) :
    FailsAs P (order ds) := by
  unfold order
  refine FailsAs.bind (failsAs_foldlM fun p d hd => ?_) fun _ _ => failsAs_ok _
  refine failsAs_visit hunexpected (fun cycle => ?_) _ p
  obtain ⟨path, heq, hpath⟩ := cycleFault_source (current ds) cycle
  rw [heq]
  rcases hpath with hpath | ⟨e, he, hsource⟩
  · exact hcycle cycle path d hd (.inl hpath)
  · exact hcycle cycle path e (current_subset he) (.inr hsource)

end Declaration

namespace Contract

variable {options : Options}

theorem placed_version : FailsAs S.Placed (version document) := by
  unfold version
  refine (Value.failsAs_get _ _).bind fun swagger hswagger => ?_
  have hkeyword (keyword : String) (hplain : Pointer.escape keyword = keyword) :
      S.points (Pointer.raw "#" keyword) := S.keyword_of_get (S.opens_of_leads S.root) hplain hswagger
  split
  next => exact S.failsAs_uncompilable.2 ⟨by simp, hkeyword "swagger" rfl⟩
  next =>
    refine (Value.failsAs_getOrNull _ _).bind fun marker _ => ?_
    split
    next => simp [S.points_of_leads S.root]
    next =>
      dsimp only
      split
      next => exact failsAs_ok _
      next => exact S.failsAs_uncompilable.2 ⟨by simp, hkeyword "openapi" rfl⟩

/-! ## Components -/

theorem leads_component {components : List (Scalar × Value)} {name : String} {raw : Value}
    (h : Service.componentsOf document "schemas" = .ok components)
    (hmem : (Scalar.text name, raw) ∈ components) : S.leads (componentPlace name) raw := by
  have hpart : Pointer.escape "schemas" = "schemas" := rfl
  have hpath : Pointer.raw "#/components" "schemas" = "#/components/schemas" := rfl
  rw [componentPlace, ← hpath]
  exact Service.leads_componentsOf hpart h hmem

theorem placed_compileComponents : FailsAs S.Placed (compileComponents document options).result := by
  simp only [compileComponents, result_bind, result_lift]
  refine (Service.failsAs_componentsOf _ _).bind fun components hcomponents => ?_
  refine FailsAs.bind (failsAs_result_mapM ?_) fun _ _ => failsAs_ok _
  rintro ⟨key, raw⟩ hmem
  simp only [compileComponent, result_bind, result_lift]
  refine (failsAs_asText key).bind fun name hname => ?_
  obtain rfl := asText_eq_ok.1 hname
  have hleads : S.leads (componentPlace name) raw := leads_component hcomponents hmem
  have hread := Schema.reads_read 0 hleads
  refine hread.fails.bind fun schema hschema => failsAs_result_mapM fun side _ => ?_
  simp only [compileDeclaration, result_bind]
  have hstands : schema.Stands S.Mapping (componentPlace name) := hread.gives schema hschema
  exact (Schema.placed_compileValue schema hstands).bind fun _ _ => failsAs_ok _

/-! ## Operations -/

theorem escape_method {method : String} (h : method ∈ methods) : Pointer.escape method = method := by
  have hmethods : ∀ method ∈ methods, Pointer.escape method = method := by decide +kernel
  exact hmethods method h

/-- An operation stands at its method in the item of its route. -/
theorem site_of_mem {paths : List (Scalar × Value)} {site : Site} (h : site ∈ sites paths) :
    (site.route, site.pathItem) ∈ paths ∧ site.method ∈ methods ∧
      site.pathItem.get? site.method = some site.operation := by
  simp only [sites, List.mem_flatMap, List.mem_filterMap] at h
  obtain ⟨⟨route, pathItem⟩, he, method, hmethod, hsite⟩ := h
  split at hsite
  next => cases hsite
  next => cases hsite
  next hget =>
    cases hsite
    exact ⟨he, hmethod, hget⟩

theorem traced_compileSite {paths : Value} {entries : List (Scalar × Value)}
    {earlier : List (String × Operation)} {site : Site}
    (hpaths : document.getOrNull "paths" = .ok paths)
    (hentries : paths.entriesOrNone = .ok entries) (h : site ∈ sites entries) :
    FailsAs S.Traced (compileSite document options earlier site).result := by
  obtain ⟨hitem, hmethod, hget⟩ := site_of_mem h
  simp only [compileSite, result_bind, result_lift]
  refine (failsAs_asText _).bind fun route hroute => ?_
  rw [asText_eq_ok.1 hroute] at hitem
  have hpathItem : S.leads (Pointer.child "#/paths" route) site.pathItem :=
    S.entriesOrNone (S.opens_of_leads S.root) rfl hpaths hentries hitem
  have hoperation : S.leads (Pointer.raw (Pointer.child "#/paths" route) site.method) site.operation :=
    S.get? (S.opens_of_leads hpathItem) (escape_method hmethod) hget
  refine (Operation.failsAs_idOf _ _ _).bind fun id _ => ?_
  refine failsAs_unless_fail.2 ⟨fun _ => ?_, fun _ => ?_⟩
  · rintro _ _ ⟨⟩
    exact ⟨by simp, S.points_of_leads hoperation⟩
  simp only [result_bind, result_lift]
  refine (Value.failsAs_getOrNull _ _).bind fun pathParameters hparameters => ?_
  refine FailsAs.bind (S.traced_of_placed ?_) fun _ _ => failsAs_ok _
  refine Operation.placed_compile hoperation fun hnull => ?_
  have hparent : Pointer.parent (Pointer.raw (Pointer.child "#/paths" route) site.method) =
      Pointer.child "#/paths" route :=
    Pointer.parent_raw (escape_method hmethod ▸ Pointer.slash_notMem_escape)
  rw [hparent]
  exact S.getOrNull (S.opens_of_leads hpathItem) rfl hparameters hnull

theorem traced_compileOperations : FailsAs S.Traced (compileOperations document options).result := by
  simp only [compileOperations, result_bind, result_lift]
  refine (Value.failsAs_getOrNull _ _).bind fun paths hpaths => ?_
  refine (Value.failsAs_entriesOrNone _).bind fun entries hentries => failsAs_result_foldlM ?_
  exact fun earlier site hsite => traced_compileSite hpaths hentries hsite

/-! ## Documents -/

theorem points_source {ds : List Declaration} {d : Declaration} {path : String}
    (hds : (compileComponents document options).result = .ok ds) (hd : d ∈ ds)
    (hpath : path = "#/components/schemas" ∨ d.source = some path) : S.points path := by
  obtain ⟨components, name, raw, schema, side, hcomponents, hmem, -, -, hd⟩ := component_of_mem hds hd
  rcases hpath with rfl | hsource
  · obtain ⟨stated, declared, hleads, hdeclared, -⟩ :=
      Service.leads_components (S := S) hcomponents hmem
    have hplace : Pointer.raw (Pointer.raw "#" "components") "schemas" = "#/components/schemas" := rfl
    exact hplace ▸ S.keyword_of_getOrNull (S.opens_of_leads hleads) rfl hdeclared
  · obtain ⟨c, -, -, rfl⟩ := compileDeclaration_ok.1 hd
    cases hsource
    exact S.points_of_leads (leads_component hcomponents hmem)

/-- A fault of a document points where it may. -/
theorem points_of_compile {cause : Cause} {path : String}
    (h : (compile document options).result = .error (.uncompilable cause path)) : S.points path := by
  let Points (fault : Fault) : Prop := ∀ cause path, fault = .uncompilable cause path → S.points path
  have htraced {α : Type} {x : Except Fault α} (hx : FailsAs S.Traced x) : FailsAs Points x :=
    hx.imp fun fault hfault cause path heq => (hfault cause path heq).2
  have hplaced {α : Type} {x : Except Fault α} (hx : FailsAs S.Placed x) : FailsAs Points x :=
    htraced (S.traced_of_placed hx)
  have hunexpected : Points .unexpected := fun _ _ heq => by cases heq
  have hcompile : FailsAs Points (compile document options).result := by
    simp only [compile, result_bind, result_lift]
    refine (hplaced placed_version).bind fun _ _ => ?_
    refine (hplaced Service.placed_compile).bind fun service _ => ?_
    refine (hplaced placed_compileComponents).bind fun ds hds => ?_
    -- Only here a cycle can be met.
    refine FailsAs.bind (Declaration.failsAs_order hunexpected ?_) fun sorted _ => ?_
    · rintro cycle place d hd hplace _ _ ⟨⟩
      exact points_source hds hd hplace
    · exact (htraced traced_compileOperations).bind fun _ _ => failsAs_ok _
  exact hcompile _ h cause path rfl

end Contract

end ApiContract
