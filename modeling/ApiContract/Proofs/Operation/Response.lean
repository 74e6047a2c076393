import ApiContract.Proofs.Operation.Request

/-!
# What responses refer to

A response shows, for every status, the schemas of the headers that stay in its variants and of every
content type (`ResponseShows`). A header named `content-type` stays where the content is JSON or where
there is none, since any other content type puts its own name in that place. What a compiled response
refers to are the names of the schemas it shows: `refers_compileResponse`.
-/

namespace ApiContract

namespace Operation

open Outcome Validator

variable {s : Setting} {side : Side} {name : String}

/-! ## Headers -/

/-- The name of a header in lower case, and its schema. -/
def readHeader (document : Value) (path : String) (entry : Scalar × Value) :
    Except Fault (String × Schema) := do
  let name ← entry.1.asText
  let place := Pointer.child (Pointer.raw path "headers") name
  let header ← Pointer.resolve document entry.2 place
  let schema ← Schema.read (← header.getOrNull "schema") (Pointer.raw place "schema") 0
  return (Text.lowerString name, schema)

/-- The headers of a response as they are read. -/
def readHeaders (document response : Value) (path : String) :
    Except Fault (List (String × Schema)) := do
  (← (← response.getOrNull "headers").entriesOrNone).mapM (readHeader document path)

theorem compileHeader_ok {path : String} {entry : Scalar × Value} {r : String × Validator}
    (h : (compileHeader s side path entry.1 entry.2).result = .ok r) :
    ∃ schema required place c, readHeader s.document path entry = .ok (r.1, schema) ∧
      (schema.compileValue s required place (conversionAt side .header)).result = .ok c ∧
      c.validator = r.2 := by
  unfold compileHeader at h
  simp only [Reported.result_bind, Reported.result_lift, Reported.result_pure, bind_eq_ok,
    asText_eq_ok, unless_fail_eq_ok, Except.ok.injEq] at h
  obtain ⟨key, hkey, header, hheader, raw, hraw, -, schema, hschema, required, -, c, hc, rfl⟩ := h
  refine ⟨schema, required.isTrue, _, c, ?_, hc, rfl⟩
  unfold readHeader
  simp only [bind_eq_ok, asText_eq_ok, pure_eq_ok]
  exact ⟨key, hkey, header, hheader, raw, hraw, schema, hschema, rfl⟩

theorem refers_compileHeader {path : String} {entry : Scalar × Value} {r : String × Validator}
    (h : (compileHeader s side path entry.1 entry.2).result = .ok r) (name : String) :
    ∃ read, readHeader s.document path entry = .ok read ∧
      Entrywise (fun schema v => Schema.Names s schema name ↔ v.Refers name) read r := by
  obtain ⟨schema, _, _, c, hread, hc, hv⟩ := compileHeader_ok h
  exact ⟨_, hread, rfl, hv ▸ (Schema.tells_compileValue hc name).refers.symm⟩

theorem compileHeaders_ok {response : Value} {path : String} {headers : List (String × Validator)}
    (h : (compileHeaders s side response path).result = .ok headers) (name : String) :
    (headers.map (·.1)).Nodup ∧ ∃ read, readHeaders s.document response path = .ok read ∧
      List.Forall₂ (Entrywise fun schema v => Schema.Names s schema name ↔ v.Refers name)
        (gather read) headers := by
  unfold compileHeaders at h
  simp only [Reported.result_bind, Reported.result_lift, Reported.result_pure, Reported.result_mapM,
    bind_eq_ok, mapM_eq_ok, Except.ok.injEq] at h
  obtain ⟨stated, hstated, entries, hentries, compiled, hcompiled, rfl⟩ := h
  obtain ⟨read, hread, hpairs⟩ := hcompiled.exists_between fun e r hr => refers_compileHeader hr name
  refine ⟨nodup_gather compiled, read, ?_, forall₂_gather hpairs⟩
  unfold readHeaders
  simp only [bind_eq_ok, mapM_eq_ok]
  exact ⟨stated, hstated, entries, hentries, hread⟩

/-! ## Statuses -/

/-- Some variant of a response with this content keeps a header of this name. -/
def HeaderStays (content : Value) (header : String) : Prop :=
  content.isVacant = true ∨ ∃ entries contentType media, content.entries = .ok entries ∧
    (Scalar.text contentType, media) ∈ entries ∧ StaysIn contentType header

/-- The schemas that the response at `path` shows, of its headers and of its content types. -/
inductive StatusShows (document response : Value) (path : String) : Schema → Prop where
  | header {read : List (String × Schema)} {name : String} {schema : Schema} {content : Value}
    (parts : readHeaders document response path = .ok read) (member : (name, schema) ∈ gather read)
    (stated : response.getOrNull "content" = .ok content) (stays : HeaderStays content name) :
    StatusShows document response path schema
  | media {content : Value} {entries : List (Scalar × Value)} {contentType : String} {media : Value}
    {schema : Schema} (stated : response.getOrNull "content" = .ok content)
    (found : content.entries = .ok entries) (member : (Scalar.text contentType, media) ∈ entries)
    (reads : MediaSchema media (mediaPlace path contentType) schema) :
    StatusShows document response path schema

theorem not_refers_statusLiteral {status : String} {code : Validator}
    (h : statusLiteral status = .ok code) : ¬ code.Refers name := by
  unfold statusLiteral at h
  simp only at h
  split at h
  · split at h
    · cases h
      exact not_refers_literal
    · cases h
  · cases h
    exact not_refers_literal

theorem refers_compileVariant {status path : String} {code v : Validator}
    {headers : List (String × Validator)} {key : Scalar} {media : Value}
    (hcode : ¬ code.Refers name) (hheaders : (headers.map (·.1)).Nodup)
    (h : (compileVariant s status code headers path key media).result = .ok v) :
    ∃ contentType, key = .text contentType ∧
      (v.Refers name ↔ (∃ schema, MediaSchema media (mediaPlace path contentType) schema ∧
          schema.Names s name) ∨
        ∃ e ∈ headers, StaysIn contentType e.1 ∧ e.2.Refers name) := by
  unfold compileVariant at h
  simp only [Reported.result_bind, Reported.result_lift, Reported.result_pure, bind_eq_ok,
    asText_eq_ok, Except.ok.injEq] at h
  obtain ⟨contentType, hkey, body, hbody, rfl⟩ := h
  refine ⟨contentType, hkey, ?_⟩
  rw [refers_object, List.exists_mem_cons_iff, or_iff_right hcode, refers_payloadFields hheaders,
    refers_compileMedia hbody]
  rfl

theorem refers_variants {status path : String} {code : Validator}
    {headers : List (String × Validator)} {entries : List (Scalar × Value)}
    {variants : List Validator} (hcode : ¬ code.Refers name)
    (hheaders : (headers.map (·.1)).Nodup)
    (h : List.Forall₂ (fun e v => (compileVariant s status code headers path e.1 e.2).result = .ok v)
      entries variants) :
    (∃ v ∈ variants, v.Refers name) ↔ ∃ contentType media,
      (Scalar.text contentType, media) ∈ entries ∧
        ((∃ schema, MediaSchema media (mediaPlace path contentType) schema ∧ schema.Names s name) ∨
          ∃ e ∈ headers, StaysIn contentType e.1 ∧ e.2.Refers name) := by
  have hvariant : ∀ (e : Scalar × Value) v,
      (compileVariant s status code headers path e.1 e.2).result = .ok v →
      ((∃ contentType, e.1 = .text contentType ∧
        ((∃ schema, MediaSchema e.2 (mediaPlace path contentType) schema ∧ schema.Names s name) ∨
          ∃ e ∈ headers, StaysIn contentType e.1 ∧ e.2.Refers name)) ↔ v.Refers name) := by
    rintro ⟨key, media⟩ v hv
    obtain ⟨contentType, rfl, hrefers⟩ := refers_compileVariant hcode hheaders hv
    rw [hrefers]
    simp
  rw [← h.exists_iff hvariant]
  constructor
  · rintro ⟨⟨_, media⟩, he, contentType, rfl, hshown⟩
    exact ⟨contentType, media, he, hshown⟩
  · rintro ⟨contentType, media, he, hshown⟩
    exact ⟨(.text contentType, media), he, contentType, rfl, hshown⟩

theorem entries_of_isVacant {content : Value} {entries : List (Scalar × Value)}
    (h : content.isVacant = true) (hentries : content.entries = .ok entries) : entries = [] := by
  unfold Value.entries at hentries
  split at hentries
  · cases hentries
    simpa [Value.isVacant] using h
  · cases hentries

/-- Where the response of a status stands. -/
def statusPlace (path : String) (key : Scalar) : String :=
  Pointer.raw (Pointer.raw path "responses") key.display

theorem compileStatus_ok {path : String} {key : Scalar} {raw : Value} {v : Validator}
    (h : (compileStatus s side key raw path).result = .ok v) (name : String) :
    ∃ response content headers, Pointer.resolve s.document raw (statusPlace path key) = .ok response ∧
      response.getOrNull "content" = .ok content ∧
      (compileHeaders s side response (statusPlace path key)).result = .ok headers ∧
      (v.Refers name ↔ (∃ e ∈ headers, HeaderStays content e.1 ∧ e.2.Refers name) ∨
        ∃ entries contentType media schema, content.entries = .ok entries ∧
          (Scalar.text contentType, media) ∈ entries ∧
          MediaSchema media (mediaPlace (statusPlace path key) contentType) schema ∧
          schema.Names s name) := by
  unfold compileStatus at h
  simp only [Reported.result_bind, Reported.result_lift, bind_eq_ok] at h
  obtain ⟨response, hresponse, code, hcode, headers, hheaders, content, hcontent, h⟩ := h
  refine ⟨response, content, headers, hresponse, hcontent, hheaders, ?_⟩
  have hcode : ¬ code.Refers name := not_refers_statusLiteral hcode
  have hnodup := (compileHeaders_ok hheaders name).1
  split at h
  next hvacant =>
    obtain rfl := Except.ok.inj h
    have hnone : ¬ ∃ entries contentType media schema, content.entries = .ok entries ∧
        (Scalar.text contentType, media) ∈ entries ∧
        MediaSchema media (mediaPlace (statusPlace path key) contentType) schema ∧
        schema.Names s name := by
      rintro ⟨entries, contentType, media, schema, hentries, he, -⟩
      rw [entries_of_isVacant hvacant hentries] at he
      cases he
    rw [or_iff_left hnone]
    cases headers <;> simp [hcode, HeaderStays, hvacant]
  next hstated =>
    simp only [Reported.result_bind, Reported.result_lift, Reported.result_mapM, bind_eq_ok,
      mapM_eq_ok] at h
    obtain ⟨entries, hentries, variants, hvariants, h⟩ := h
    cases hunion : unionOf? variants with
    | none => simp [hunion] at h
    | some union =>
      simp only [hunion, Reported.result_pure, Except.ok.injEq] at h
      subst h
      rw [refers_of_unionOf? hunion, refers_variants hcode hnodup hvariants]
      constructor
      · rintro ⟨contentType, media, he, ⟨schema, hschema, hnames⟩ | ⟨e, hheader, hstays, hrefers⟩⟩
        · exact .inr ⟨entries, contentType, media, schema, hentries, he, hschema, hnames⟩
        · exact .inl ⟨e, hheader, .inr ⟨entries, contentType, media, hentries, he, hstays⟩, hrefers⟩
      · rintro (⟨e, hheader, hvacant | ⟨entries', contentType, media, hentries', he, hstays⟩, hrefers⟩ |
          ⟨entries', contentType, media, schema, hentries', he, hschema, hnames⟩)
        · exact absurd hvacant hstated
        · obtain rfl := Except.ok.inj (hentries.symm.trans hentries')
          exact ⟨contentType, media, he, .inr ⟨e, hheader, hstays, hrefers⟩⟩
        · obtain rfl := Except.ok.inj (hentries.symm.trans hentries')
          exact ⟨contentType, media, he, .inl ⟨schema, hschema, hnames⟩⟩

theorem refers_compileStatus {path : String} {key : Scalar} {raw : Value} {v : Validator}
    (h : (compileStatus s side key raw path).result = .ok v) (name : String) :
    ∃ response, Pointer.resolve s.document raw (statusPlace path key) = .ok response ∧
      (v.Refers name ↔ ∃ schema, StatusShows s.document response (statusPlace path key) schema ∧
        schema.Names s name) := by
  obtain ⟨response, content, headers, hresponse, hcontent, hheaders, hrefers⟩ :=
    compileStatus_ok h name
  obtain ⟨-, read, hread, hpairs⟩ := compileHeaders_ok hheaders name
  have hsame : ∀ (e : String × Schema) (e' : String × Validator),
      Entrywise (fun schema v => Schema.Names s schema name ↔ v.Refers name) e e' →
      (HeaderStays content e.1 ∧ e.2.Names s name ↔ HeaderStays content e'.1 ∧ e'.2.Refers name) := by
    rintro ⟨_, schema⟩ ⟨_, v⟩ ⟨rfl, h⟩
    exact and_congr Iff.rfl h
  refine ⟨response, hresponse, ?_⟩
  rw [hrefers, ← hpairs.exists_iff hsame]
  constructor
  · rintro (⟨e, he, hstays, hnames⟩ | ⟨entries, contentType, media, schema, hentries, he, hschema, hnames⟩)
    · exact ⟨e.2, .header hread he hcontent hstays, hnames⟩
    · exact ⟨schema, .media hcontent hentries he hschema, hnames⟩
  · rintro ⟨schema, hshows, hnames⟩
    cases hshows with
    | header parts member stated stays =>
      obtain rfl := Except.ok.inj (hread.symm.trans parts)
      obtain rfl := Except.ok.inj (hcontent.symm.trans stated)
      exact .inl ⟨_, member, stays, hnames⟩
    | media stated found member reads =>
      obtain rfl := Except.ok.inj (hcontent.symm.trans stated)
      exact .inr ⟨_, _, _, _, found, member, reads, hnames⟩

/-! ## Responses -/

/-- The schemas that the responses of an operation show. -/
inductive ResponseShows (document operation : Value) (path : String) : Schema → Prop where
  | status {responses : Value} {entries : List (Scalar × Value)} {key : Scalar} {raw response : Value}
    {schema : Schema} (stated : operation.getOrNull "responses" = .ok responses)
    (found : responses.entries = .ok entries) (member : (key, raw) ∈ entries)
    (resolved : Pointer.resolve document raw (statusPlace path key) = .ok response)
    (shows : StatusShows document response (statusPlace path key) schema) :
    ResponseShows document operation path schema

theorem refers_compileResponse {mode : Mode} {namePrefix : String} {document operation : Value}
    {path : String} {v : Validator}
    (h : (compileResponse mode namePrefix document operation path).result = .ok v) (name : String) :
    v.Refers name ↔ ∃ schema, ResponseShows document operation path schema ∧
      schema.Names (sideSetting document namePrefix (Side.of mode .response) .response) name := by
  unfold compileResponse at h
  simp only [Reported.result_bind, Reported.result_lift, Reported.result_mapM, bind_eq_ok, mapM_eq_ok,
    unless_fail_eq_ok] at h
  obtain ⟨responses, hresponses, -, entries, hentries, variants, hvariants, h⟩ := h
  cases hunion : unionOf? variants with
  | none => simp [hunion] at h
  | some union =>
    simp only [hunion, Reported.result_pure, Except.ok.injEq] at h
    subst h
    rw [refers_of_unionOf? hunion]
    constructor
    · rintro ⟨v, hv, hrefers⟩
      obtain ⟨⟨key, raw⟩, he, hcompiled⟩ := hvariants.exists_left hv
      obtain ⟨response, hresponse, hstatus⟩ := refers_compileStatus hcompiled name
      obtain ⟨schema, hshows, hnames⟩ := hstatus.1 hrefers
      exact ⟨schema, .status hresponses hentries he hresponse hshows, hnames⟩
    · rintro ⟨schema, ⟨stated, found, member, resolved, shows⟩, hnames⟩
      obtain rfl := Except.ok.inj (hresponses.symm.trans stated)
      obtain rfl := Except.ok.inj (hentries.symm.trans found)
      obtain ⟨v, hv, hcompiled⟩ := hvariants.exists_right member
      obtain ⟨response, hresponse, hstatus⟩ := refers_compileStatus hcompiled name
      obtain rfl := Except.ok.inj (hresponse.symm.trans resolved)
      exact ⟨v, hv, hstatus.2 ⟨schema, shows, hnames⟩⟩

/-! ## Operations -/

theorem compile_ok {document operation : Value} {method route : String} {mode : Mode}
    {namePrefix path : String} {pathParameters : Value} {o : Operation}
    (h : (compile document operation method route mode namePrefix path pathParameters).result = .ok o) :
    (compileRequest mode namePrefix document operation path pathParameters).result = .ok o.request ∧
      (compileResponse mode namePrefix document operation path).result = .ok o.response := by
  simp only [compile, Reported.result_bind, Reported.result_lift, Reported.result_pure, bind_eq_ok,
    Except.ok.injEq] at h
  obtain ⟨request, hrequest, response, hresponse, security, -, rfl⟩ := h
  exact ⟨hrequest, hresponse⟩

end Operation

end ApiContract
