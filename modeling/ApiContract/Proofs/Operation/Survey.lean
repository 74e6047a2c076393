import ApiContract.Proofs.Schema.Survey

/-!
# Where faults of operations are reported

Parameters, bodies, headers and responses may be references. What they refer to is then looked at below
the place of the reference (`Survey.opens_of_resolve`). Each part of an operation fails at a place where
a fault may point, and so does the operation: `placed_compile`.
-/

namespace ApiContract.Operation

open Outcome Reported

variable {document : Value} {S : Survey document} {s : Setting} {side : Side} {path : String}
  {operation : Value}

/-! ## Parameters -/

/-- Pointers below the place of the parameter lead to what is in its fields. -/
def Parameter.Opens (S : Survey document) (p : Parameter) : Prop :=
  p.fields.entries?.isSome = true → S.opens p.path p.fields

/-- What is walked through and has mappings as members is a list. -/
theorem eq_list_of_members {raw v : Value} {members : List Value} (h : raw.membersOrNone = .ok members)
    (hmem : v ∈ members) (hv : v.entries?.isSome = true) : raw = .list members := by
  unfold Value.membersOrNone at h
  split at h
  next =>
    cases h
    cases hmem
  next =>
    unfold Value.members at h
    split at h
    next found hfound =>
      cases h
      unfold Value.members? at hfound
      split at hfound
      next =>
        cases hfound
        rfl
      -- All other members are scalars.
      all_goals
        cases hfound
        try
          obtain ⟨_, -, rfl⟩ := List.mem_map.1 hmem
          cases hv
    next => cases h

theorem ends_resolveParameters {raw : Value}
    (h : raw.isNull = false → S.leads (Pointer.raw path "parameters") raw) :
    Ends S.Placed (fun found => ∀ p ∈ found, p.Opens S) (resolveParameters document raw path) := by
  unfold resolveParameters
  refine (Value.failsAs_membersOrNone raw).bind_ends fun members hmembers => Ends.mapM ?_
  rintro ⟨member, i⟩ hmem
  have hleads (hmember : member.entries?.isSome = true) :
      S.leads (Pointer.item (Pointer.raw path "parameters") i) member := by
    have hitem := List.mem_zipIdx_iff_getElem?.1 hmem
    obtain rfl := eq_list_of_members hmembers (List.mem_of_getElem? hitem) hmember
    exact S.item (h rfl) hitem
  refine (S.failsAs_resolve hleads).bind_ends fun fields hfields => .ok ?_
  exact S.opens_of_resolve hleads hfields

/-- Merging adds no parameters. -/
theorem mem_mergeParameters {ofPath ofOperation parameters : List Parameter} {p : Parameter}
    (h : mergeParameters ofPath ofOperation = .ok parameters) (hp : p ∈ parameters) :
    p ∈ ofPath ∨ p ∈ ofOperation := by
  simp only [mergeParameters, bind_eq_ok, pure_eq_ok, filterMapM_eq_ok] at h
  obtain ⟨own, -, _, ⟨kept, hkept, rfl⟩, rfl⟩ := h
  rcases List.mem_append.1 hp with hp | hp
  · obtain ⟨found, hfound, rfl⟩ := List.mem_filterMap.1 hp
    obtain ⟨q, hq, identity, -, hite⟩ := hkept.exists_left hfound
    split at hite
    next => cases hite
    next =>
      cases hite
      exact .inl hq
  · exact .inr hp

theorem placed_compileField {required : Bool} {schema : Schema} {convert : Option Conversion}
    {style : ArrayStyle} (h : schema.Stands S.Mapping path) :
    FailsAs S.Placed (compileField s required path schema convert style).result := by
  unfold compileField
  split
  · split
    · exact Schema.placed_compileRepeated _ h
    · exact Schema.placed_compileValue _ h
  · exact Schema.placed_compileValue _ h

theorem placed_compileParameter {p : Parameter} (h : p.Opens S) :
    FailsAs S.Placed (compileParameter s side p).result := by
  simp only [compileParameter, result_bind, result_lift]
  refine (Value.failsAs_get _ _).bind fun name hname => ?_
  have hopens : S.opens p.path p.fields := h (Value.isSome_entries?_of_get hname)
  have hkeyword (keyword : String) (hplain : Pointer.escape keyword = keyword) :
      S.points (Pointer.raw p.path keyword) := S.keyword_of_get hopens hplain hname
  refine (Value.failsAs_getOrNull _ _).bind fun stated _ => ?_
  split
  next location _ =>
    simp only [result_bind, result_lift]
    refine (Value.failsAs_getOrNull _ _).bind fun raw hraw => failsAs_unless_fail.2 ⟨?_, ?_⟩
    · exact fun _ => S.placed_uncompilable.2 ⟨by simp, hkeyword "schema" rfl⟩
    · intro hnull
      have hread := Schema.reads_read 0 (S.getOrNull hopens rfl hraw (by simpa using hnull))
      simp only [result_bind, result_lift]
      refine hread.fails.bind fun schema hschema => ?_
      refine (failsAs_readStyle _).bind fun style _ => ?_
      refine (Value.failsAs_getOrNull _ _).bind fun required _ => ?_
      refine (placed_compileField (hread.gives schema hschema)).bind fun c _ => ?_
      exact (failsAs_groupKey _ _).bind fun _ _ => failsAs_ok _
  next => exact failsAs_error.2 (S.placed_uncompilable.2 ⟨by simp, hkeyword "in" rfl⟩)

/-! ## Bodies -/

theorem placed_compileMedia {media : Value} {type : String} {missing : MissingSchema}
    (h : S.leads (Pointer.child (Pointer.raw path "content") type) media) :
    FailsAs S.Placed
      (compileMedia s media (Pointer.child (Pointer.raw path "content") type) missing).result := by
  have hmissing : S.Placed (.uncompilable (.missingSchema missing)
      (Pointer.raw (Pointer.child (Pointer.raw path "content") type) "schema")) :=
    S.placed_uncompilable.2 ⟨by simp, S.media h⟩
  unfold compileMedia
  dsimp only
  split
  next => exact failsAs_error.2 hmissing
  next => exact failsAs_error.2 hmissing
  next raw hraw =>
    have hread := Schema.reads_read 0 (S.get? (S.opens_of_leads h) rfl hraw)
    simp only [result_bind, result_lift]
    refine hread.fails.bind fun schema hschema => ?_
    exact (Schema.placed_compile schema (hread.gives schema hschema)).bind fun _ _ => failsAs_ok _

theorem placed_compileBodyVariants {content : List (Scalar × Value)}
    (h : ∀ type media, (Scalar.text type, media) ∈ content →
      S.leads (Pointer.child (Pointer.raw path "content") type) media) :
    FailsAs S.Placed (compileBodyVariants s content path).result := by
  refine failsAs_result_mapM ?_
  rintro ⟨key, media⟩ hmem
  simp only [result_bind, result_lift]
  refine (failsAs_asText key).bind fun type htype => ?_
  obtain rfl := asText_eq_ok.1 htype
  exact (placed_compileMedia (h type media hmem)).bind fun _ _ => failsAs_ok _

theorem placed_compileBody (hs : s.document = document) (h : S.leads path operation) :
    FailsAs S.Placed (compileBody s operation path).result := by
  unfold compileBody
  simp only [result_bind, result_lift]
  refine (Value.failsAs_getOrNull _ _).bind fun raw hraw => failsAs_result_ite.2 ⟨?_, fun hnull => ?_⟩
  · exact fun _ => failsAs_ok _
  have hplace : S.leads (Pointer.raw path "requestBody") raw :=
    S.getOrNull (S.opens_of_leads h) rfl hraw (by simpa using hnull)
  simp only [result_bind, result_lift, hs]
  refine (S.failsAs_resolve fun _ => hplace).bind fun body hbody => ?_
  refine (Value.failsAs_getOrNull _ _).bind fun content hcontent => ?_
  have hopens : S.opens (Pointer.raw path "requestBody") body :=
    S.opens_of_resolve (fun _ => hplace) hbody (Value.isSome_entries?_of_getOrNull hcontent)
  refine (Value.failsAs_entriesOrNone _).bind fun entries hentries => ?_
  refine FailsAs.bind (placed_compileBodyVariants fun type media hmem =>
    S.entriesOrNone hopens rfl hcontent hentries hmem) fun variants _ => ?_
  split
  next =>
    have hplace : S.points (Pointer.raw (Pointer.raw path "requestBody") "content") :=
      S.keyword_of_getOrNull hopens rfl hcontent
    exact failsAs_error.2 (S.placed_uncompilable.2 ⟨by simp, hplace⟩)
  next =>
    simp only [result_bind, result_lift]
    exact (Value.failsAs_getOrNull _ _).bind fun _ _ => failsAs_ok _

theorem placed_compileRequest {mode : Mode} {namePrefix : String} {pathParameters : Value}
    (h : S.leads path operation)
    (hpath : pathParameters.isNull = false →
      S.leads (Pointer.raw (Pointer.parent path) "parameters") pathParameters) :
    FailsAs S.Placed
      (compileRequest mode namePrefix document operation path pathParameters).result := by
  simp only [compileRequest, result_bind, result_lift]
  have hshared := ends_resolveParameters hpath
  refine hshared.fails.bind fun shared hshared_ok => ?_
  refine (Value.failsAs_getOrNull _ _).bind fun raw hraw => ?_
  have hown := ends_resolveParameters (S.getOrNull (S.opens_of_leads h) rfl hraw)
  refine hown.fails.bind fun own hown_ok => ?_
  refine (failsAs_mergeParameters _ _).bind fun parameters hparameters => ?_
  have hopens (p : Parameter) (hp : p ∈ parameters) : p.Opens S :=
    (mem_mergeParameters hparameters hp).elim (hshared.gives shared hshared_ok p)
      (hown.gives own hown_ok p)
  refine FailsAs.bind (failsAs_result_mapM fun p hp => placed_compileParameter (hopens p hp)) ?_
  intro compiled _
  refine (failsAs_parameterObject _).bind fun parameters _ => ?_
  exact (placed_compileBody rfl h).bind fun _ _ => failsAs_ok _

/-! ## Responses -/

theorem placed_compileHeader (hs : s.document = document) {key : Scalar} {raw : Value}
    (h : ∀ name, key = .text name →
      S.leads (Pointer.child (Pointer.raw path "headers") name) raw) :
    FailsAs S.Placed (compileHeader s side path key raw).result := by
  simp only [compileHeader, result_bind, result_lift, hs]
  refine (failsAs_asText key).bind fun name hname => ?_
  have hplace := h name (asText_eq_ok.1 hname)
  refine (S.failsAs_resolve fun _ => hplace).bind fun header hheader => ?_
  refine (Value.failsAs_getOrNull _ _).bind fun stated hstated => ?_
  have hopens : S.opens (Pointer.child (Pointer.raw path "headers") name) header :=
    S.opens_of_resolve (fun _ => hplace) hheader (Value.isSome_entries?_of_getOrNull hstated)
  refine failsAs_unless_fail.2 ⟨fun _ => ?_, fun hnull => ?_⟩
  · exact S.placed_uncompilable.2 ⟨by simp, S.keyword_of_getOrNull hopens rfl hstated⟩
  · have hread := Schema.reads_read 0 (S.getOrNull hopens rfl hstated (by simpa using hnull))
    simp only [result_bind, result_lift]
    refine hread.fails.bind fun schema hschema => ?_
    refine (Value.failsAs_getOrNull _ _).bind fun required _ => ?_
    refine (Schema.placed_compileValue schema (hread.gives schema hschema)).bind fun c _ => ?_
    exact failsAs_ok _

theorem placed_compileHeaders (hs : s.document = document) {response : Value}
    (h : response.entries?.isSome = true → S.opens path response) :
    FailsAs S.Placed (compileHeaders s side response path).result := by
  simp only [compileHeaders, result_bind, result_lift]
  refine (Value.failsAs_getOrNull _ _).bind fun declared hdeclared => ?_
  have hopens : S.opens path response := h (Value.isSome_entries?_of_getOrNull hdeclared)
  refine (Value.failsAs_entriesOrNone _).bind fun entries hentries => ?_
  refine FailsAs.bind (failsAs_result_mapM ?_) fun _ _ => failsAs_ok _
  rintro ⟨key, raw⟩ hmem
  refine placed_compileHeader hs fun name hname => ?_
  exact S.entriesOrNone hopens rfl hdeclared hentries (hname ▸ hmem)

theorem placed_compileVariant {status : String} {code : Validator}
    {headers : List (String × Validator)} {key : Scalar} {media : Value}
    (h : ∀ type, key = .text type → S.leads (Pointer.child (Pointer.raw path "content") type) media) :
    FailsAs S.Placed (compileVariant s status code headers path key media).result := by
  simp only [compileVariant, result_bind, result_lift]
  refine (failsAs_asText key).bind fun type htype => ?_
  exact (placed_compileMedia (h type (asText_eq_ok.1 htype))).bind fun _ _ => failsAs_ok _

theorem placed_compileStatus (hs : s.document = document) {key : Scalar} {raw : Value}
    (h : S.leads (Pointer.raw (Pointer.raw path "responses") key.display) raw) :
    FailsAs S.Placed (compileStatus s side key raw path).result := by
  simp only [compileStatus, result_bind, result_lift, hs]
  refine (S.failsAs_resolve fun _ => h).bind fun response hresponse => ?_
  have hopens := S.opens_of_resolve (fun _ => h) hresponse
  refine (failsAs_statusLiteral _).bind fun code _ => ?_
  refine (placed_compileHeaders hs hopens).bind fun headers _ => ?_
  refine (Value.failsAs_getOrNull _ _).bind fun content hcontent => ?_
  refine failsAs_result_ite.2 ⟨fun _ => failsAs_ok _, fun hvacant => ?_⟩
  simp only [result_bind, result_lift]
  refine (Value.failsAs_entries _).bind fun entries hentries => ?_
  refine FailsAs.bind (failsAs_result_mapM ?_) fun _ _ => failsAs_union
  rintro ⟨key, media⟩ hmem
  refine placed_compileVariant fun type htype => ?_
  have hopens := hopens (Value.isSome_entries?_of_getOrNull hcontent)
  have hplace := S.getOrNull hopens rfl hcontent (Value.isNull_of_entries hentries)
  exact S.entry_of_entries (S.opens_of_leads hplace) hentries (htype ▸ hmem)

theorem placed_compileResponse {mode : Mode} {namePrefix : String} (h : S.leads path operation) :
    FailsAs S.Placed (compileResponse mode namePrefix document operation path).result := by
  have hopens := S.opens_of_leads h
  simp only [compileResponse, result_bind, result_lift]
  refine (Value.failsAs_getOrNull _ _).bind fun responses hresponses => ?_
  refine failsAs_unless_fail.2 ⟨fun _ => ?_, fun _ => ?_⟩
  · exact S.placed_uncompilable.2 ⟨by simp, S.keyword_of_getOrNull hopens rfl hresponses⟩
  simp only [result_bind, result_lift]
  refine (Value.failsAs_entries _).bind fun entries hentries => ?_
  have hplace := S.getOrNull hopens rfl hresponses (Value.isNull_of_entries hentries)
  refine FailsAs.bind (failsAs_result_mapM fun e he => placed_compileStatus rfl ?_)
    fun _ _ => failsAs_union
  cases responses with
  | map _ =>
    cases hentries
    exact S.status (S.opens_of_leads hplace) he
  | scalar | list | set | endless => cases hentries

/-! ## Operations -/

theorem placed_compile {mode : Mode} {method route namePrefix : String} {pathParameters : Value}
    (h : S.leads path operation)
    (hpath : pathParameters.isNull = false →
      S.leads (Pointer.raw (Pointer.parent path) "parameters") pathParameters) :
    FailsAs S.Placed
      (compile document operation method route mode namePrefix path pathParameters).result := by
  simp only [compile, result_bind, result_lift]
  refine (placed_compileRequest h hpath).bind fun request _ => ?_
  refine (placed_compileResponse h).bind fun response _ => ?_
  exact (failsAs_compileSecurity _ _).bind fun _ _ => failsAs_ok _

end ApiContract.Operation
