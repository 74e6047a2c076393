import ApiContract.Proofs.Operation.Groups

/-!
# The variants of payloads

A response has one variant for each content type of each status, and one for each status that has no
content; a request body has one for each content type, and an empty one if it may be left out. Unions of
variants are opened where they come first and kept where they come later, so that the nesting depends on
positions. Expanded, they are all variants in the order of the document: `compile_variants`.
-/

namespace ApiContract

namespace Operation

open Outcome Validator

variable {s : Setting} {side : Side}

/-! ## Variants -/

/-- The header of a name in a variant. A content type other than JSON takes the place of a declared header
that tells it. -/
def headerOf (declared : List (String × Validator)) (contentType : Option String) (name : String) :
    Option Validator :=
  match contentType with
  | some type =>
    if type ≠ jsonContent ∧ name = "content-type" then some (.literal (.text type))
    else latest? name declared
  | none => latest? name declared

/-- A closed object of the fields, and of headers under the names that have one. -/
inductive IsVariant (fields : List (String × Validator)) (header : String → Option Validator) :
    Validator → Prop where
  | intro {headers : List (String × Validator)} (nodup : (headers.map (·.1)).Nodup)
    (mem : ∀ name v, (name, v) ∈ headers ↔ header name = some v) :
    IsVariant fields header (.object
      (fields ++ if headers.isEmpty then [] else [("headers", .object headers .closed)]) .closed)

theorem IsVariant.expand {fields : List (String × Validator)} {header : String → Option Validator}
    {v : Validator} (h : IsVariant fields header v) : v.expand = [v] := by
  obtain ⟨-, -⟩ := h
  exact expand_object

/-- Unions of variants expand to these variants. -/
theorem flatMap_expand {vs : List Validator} (h : ∀ v ∈ vs, v.expand = [v]) :
    vs.flatMap Validator.expand = vs := by
  rw [List.flatMap_congr h, List.flatMap_singleton']

theorem isVariant_payload (before : List (String × Validator)) (body : Validator)
    (contentType : String) (declared : List (String × Validator)) :
    IsVariant (before ++ [("body", body)]) (headerOf declared (some contentType))
      (.object (before ++ payloadFields body contentType (gather declared)) .closed) := by
  -- The headers of a variant, whichever they are, stand behind its body.
  have hvariant {headers : List (String × Validator)} (hnodup : (headers.map (·.1)).Nodup)
      (hmem : ∀ name v, (name, v) ∈ headers ↔ headerOf declared (some contentType) name = some v) :
      IsVariant (before ++ [("body", body)]) (headerOf declared (some contentType))
        (.object (before ++ ("body", body) ::
          if headers.isEmpty then [] else [("headers", .object headers .closed)]) .closed) := by
    rw [List.append_cons before ("body", body) (if headers.isEmpty then [] else _)]
    exact .intro hnodup hmem
  have hnodup := nodup_gather declared
  unfold payloadFields
  by_cases hjson : contentType = jsonContent
  · subst hjson
    rw [if_pos rfl]
    exact hvariant hnodup fun name v => by simp [headerOf, mem_gather]
  · rw [if_neg hjson]
    refine hvariant (nodup_insertBy (by simp) hnodup) fun name v => ?_
    rw [mem_insertEntry hnodup, mem_gather]
    by_cases hname : name = "content-type" <;> simp [headerOf, hjson, hname, eq_comm]

/-- The variant of one entry of a content. -/
def ContentVariant (s : Setting) (path : String) (before declared : List (String × Validator))
    (entry : Scalar × Value) (v : Validator) : Prop :=
  ∃ contentType body, entry.1 = .text contentType ∧
    MediaBody s entry.2 (mediaPlace path contentType) body ∧
    IsVariant (before ++ [("body", body)]) (headerOf declared (some contentType)) v

/-! ## Request bodies -/

/-- The variants of the body of a request, if it has one: those of its content types, and then an empty
object if it is not required. -/
inductive BodyVariants (s : Setting) (operation : Value) (path : String) :
    Option Validator → Prop where
  | absent (stated : operation.getOrNull "requestBody" = .ok .null) :
    BodyVariants s operation path none
  | present {raw body content required : Value} {entries : List (Scalar × Value)}
    {variants : List Validator} {v : Validator}
    (stated : operation.getOrNull "requestBody" = .ok raw) (there : raw.isNull = false)
    (resolved : Pointer.resolve s.document raw (Pointer.raw path "requestBody") = .ok body)
    (contents : body.getOrNull "content" = .ok content)
    (found : content.entriesOrNone = .ok entries)
    (compiled : List.Forall₂ (ContentVariant s (Pointer.raw path "requestBody") [] []) entries variants)
    (flag : body.getOrNull "required" = .ok required)
    (expands : v.expand = variants ++ if required.isTrue then [] else [.object [] .closed]) :
    BodyVariants s operation path (some v)

theorem contentVariants_of_compileBodyVariants {content : List (Scalar × Value)} {path : String}
    {variants : List Validator} (h : (compileBodyVariants s content path).result = .ok variants) :
    List.Forall₂ (ContentVariant s path [] []) content variants := by
  simp only [compileBodyVariants, Reported.result_mapM, mapM_eq_ok, Reported.result_bind,
    Reported.result_lift, Reported.result_pure, bind_eq_ok, asText_eq_ok, Except.ok.injEq] at h
  refine h.imp fun e v hv => ?_
  obtain ⟨contentType, hkey, body, hbody, rfl⟩ := hv
  exact ⟨contentType, body, hkey, mediaBody_of_compileMedia hbody,
    isVariant_payload [] body contentType []⟩

theorem expand_contentVariants {path : String} {before declared : List (String × Validator)}
    {entries : List (Scalar × Value)} {variants : List Validator}
    (h : List.Forall₂ (ContentVariant s path before declared) entries variants) :
    variants.flatMap Validator.expand = variants := by
  refine flatMap_expand fun v hv => ?_
  obtain ⟨_, -, _, _, -, -, hvariant⟩ := h.exists_left hv
  exact hvariant.expand

theorem bodyVariants_of_compileBody {operation : Value} {path : String} {body : Option Validator}
    (h : (compileBody s operation path).result = .ok body) : BodyVariants s operation path body := by
  unfold compileBody at h
  simp only [Reported.result_bind, Reported.result_lift, bind_eq_ok] at h
  obtain ⟨raw, hraw, h⟩ := h
  split at h
  next hnull =>
    obtain rfl := Except.ok.inj h
    obtain rfl := Value.isNull_iff.1 hnull
    exact .absent hraw
  next hthere =>
    simp only [Reported.result_bind, Reported.result_lift, bind_eq_ok] at h
    obtain ⟨resolved, hresolved, stated, hstated, content, hcontent, variants, hvariants, h⟩ := h
    cases hv : unionOf? variants with
    | none => simp [hv] at h
    | some v =>
      simp only [hv, Reported.result_bind, Reported.result_lift, Reported.result_pure, bind_eq_ok,
        Except.ok.injEq] at h
      obtain ⟨required, hrequired, rfl⟩ := h
      have hcompiled := contentVariants_of_compileBodyVariants hvariants
      refine .present hraw (by simpa using hthere) hresolved hstated hcontent hcompiled hrequired ?_
      have hexpand : v.expand = variants := by
        rw [expand_of_unionOf? hv, expand_contentVariants hcompiled]
      cases required.isTrue <;> simp [expand_unionOf, hexpand]

/-! ## Responses -/

/-- What a variant tells of a status: the number if its key is written in digits, or else the key. -/
inductive StatusIs (status : String) : Validator → Prop where
  | number {i : Int} (there : status ≠ "") (digits : ∀ c ∈ status.toList, Text.isDigit c = true)
    (value : Number.readInt? status.toList = some i) : StatusIs status (.literal (.int i))
  | text (other : status = "" ∨ ∃ c ∈ status.toList, Text.isDigit c = false) :
    StatusIs status (.literal (.text status))

theorem statusIs_of_statusLiteral {status : String} {code : Validator}
    (h : statusLiteral status = .ok code) : StatusIs status code := by
  unfold statusLiteral at h
  dsimp only at h
  split at h
  next hdigits =>
    simp only [Bool.and_eq_true, Bool.not_eq_true', List.isEmpty_eq_false_iff, List.all_eq_true] at hdigits
    obtain ⟨hthere, hdigits⟩ := hdigits
    split at h
    next i hi =>
      cases h
      exact .number (by simpa using hthere) hdigits hi
    next => cases h
  next hother =>
    cases h
    simp only [Bool.and_eq_true, Bool.not_eq_true', List.isEmpty_eq_false_iff, List.all_eq_true] at hother
    refine .text ?_
    by_cases hthere : status = ""
    · exact .inl hthere
    · by_contra hnone
      simp only [hthere, false_or, not_exists, not_and, Bool.not_eq_false] at hnone
      exact hother ⟨by simpa using hthere, hnone⟩

/-- The headers that the response at `path` declares, by their names in lower case. -/
def DeclaredHeaders (s : Setting) (side : Side) (response : Value) (path : String)
    (declared : List (String × Validator)) : Prop :=
  ∃ stated entries, response.getOrNull "headers" = .ok stated ∧ stated.entriesOrNone = .ok entries ∧
    List.Forall₂ (fun entry header => Text.lowerString <$> entry.1.asText = .ok header.1 ∧
      (compileHeader s side path entry.1 entry.2).result = .ok header) entries declared

theorem declaredHeaders_of_compileHeaders {response : Value} {path : String}
    {headers : List (String × Validator)}
    (h : (compileHeaders s side response path).result = .ok headers) :
    ∃ declared, DeclaredHeaders s side response path declared ∧ headers = gather declared := by
  simp only [compileHeaders, Reported.result_bind, Reported.result_lift, Reported.result_pure,
    Reported.result_mapM, bind_eq_ok, mapM_eq_ok, Except.ok.injEq] at h
  obtain ⟨stated, hstated, entries, hentries, declared, hdeclared, rfl⟩ := h
  refine ⟨declared, ⟨stated, entries, hstated, hentries, hdeclared.imp fun e header hheader => ?_⟩, rfl⟩
  refine ⟨?_, hheader⟩
  simp only [compileHeader, Reported.result_bind, Reported.result_lift, Reported.result_pure, bind_eq_ok,
    asText_eq_ok, unless_fail_eq_ok, Except.ok.injEq] at hheader
  obtain ⟨name, hname, _, -, _, -, -, _, -, _, -, _, -, rfl⟩ := hheader
  rw [hname]
  rfl

/-- What all variants of the response of a status have in common. -/
structure StatusParts (s : Setting) (side : Side) (path : String) (entry : Scalar × Value)
    (response content : Value) (code : Validator) (declared : List (String × Validator)) : Prop where
  resolved : Pointer.resolve s.document entry.2 (statusPlace path entry.1) = .ok response
  stated : response.getOrNull "content" = .ok content
  code : StatusIs entry.1.display code
  headers : DeclaredHeaders s side response (statusPlace path entry.1) declared

/-- The variants of a status: one without content, or one for each content type in order. -/
inductive StatusVariants (s : Setting) (side : Side) (path : String) (entry : Scalar × Value) :
    List Validator → Prop where
  | empty {response content : Value} {code v : Validator} {declared : List (String × Validator)}
    (parts : StatusParts s side path entry response content code declared)
    (vacant : content.isVacant = true)
    (variant : IsVariant [("statusCode", code), ("body", .noContent)] (headerOf declared none) v) :
    StatusVariants s side path entry [v]
  | filled {response content : Value} {code : Validator} {declared : List (String × Validator)}
    {entries : List (Scalar × Value)} {variants : List Validator}
    (parts : StatusParts s side path entry response content code declared)
    (there : content.isVacant = false) (found : content.entries = .ok entries)
    (compiled : List.Forall₂
      (ContentVariant s (statusPlace path entry.1) [("statusCode", code)] declared) entries variants) :
    StatusVariants s side path entry variants

theorem contentVariant_of_compileVariant {status path : String} {code v : Validator}
    {declared : List (String × Validator)} {key : Scalar} {media : Value}
    (h : (compileVariant s status code (gather declared) path key media).result = .ok v) :
    ContentVariant s path [("statusCode", code)] declared (key, media) v := by
  simp only [compileVariant, Reported.result_bind, Reported.result_lift, Reported.result_pure,
    bind_eq_ok, asText_eq_ok, Except.ok.injEq] at h
  obtain ⟨contentType, hkey, body, hbody, rfl⟩ := h
  exact ⟨contentType, body, hkey, mediaBody_of_compileMedia hbody,
    isVariant_payload [("statusCode", code)] body contentType declared⟩

theorem statusVariants_of_compileStatus {path : String} {key : Scalar} {raw : Value} {v : Validator}
    (h : (compileStatus s side key raw path).result = .ok v) :
    StatusVariants s side path (key, raw) v.expand := by
  simp only [compileStatus, Reported.result_bind, Reported.result_lift, bind_eq_ok] at h
  obtain ⟨response, hresponse, code, hcode, headers, hheaders, content, hcontent, h⟩ := h
  obtain ⟨declared, hdeclared, rfl⟩ := declaredHeaders_of_compileHeaders hheaders
  have hparts : StatusParts s side path (key, raw) response content code declared :=
    ⟨hresponse, hcontent, statusIs_of_statusLiteral hcode, hdeclared⟩
  split at h
  next hvacant =>
    obtain rfl := Except.ok.inj h
    rw [expand_object]
    exact .empty hparts hvacant (.intro (nodup_gather declared) fun name v => mem_gather)
  next hthere =>
    simp only [Reported.result_bind, Reported.result_lift, Reported.result_mapM, bind_eq_ok,
      mapM_eq_ok] at h
    obtain ⟨entries, hentries, variants, hvariants, h⟩ := h
    cases hunion : unionOf? variants with
    | none => simp [hunion] at h
    | some union =>
      simp only [hunion, Reported.result_pure, Except.ok.injEq] at h
      subst h
      have hcompiled := hvariants.imp fun _ _ hv => contentVariant_of_compileVariant hv
      rw [expand_of_unionOf? hunion, expand_contentVariants hcompiled]
      exact .filled hparts (by simpa using hthere) hentries hcompiled

/-- The variants of a response, status by status. -/
def ResponseVariants (s : Setting) (side : Side) (operation : Value) (path : String)
    (variants : List Validator) : Prop :=
  ∃ responses entries blocks, operation.getOrNull "responses" = .ok responses ∧
    responses.entries = .ok entries ∧ List.Forall₂ (StatusVariants s side path) entries blocks ∧
    variants = blocks.flatten

theorem responseVariants_of_compileResponse {mode : Mode} {namePrefix : String}
    {document operation : Value} {path : String} {v : Validator}
    (h : (compileResponse mode namePrefix document operation path).result = .ok v) :
    ResponseVariants (sideSetting document namePrefix (Side.of mode .response) .response)
      (Side.of mode .response) operation path v.expand := by
  simp only [compileResponse, Reported.result_bind, Reported.result_lift, Reported.result_mapM,
    bind_eq_ok, mapM_eq_ok, unless_fail_eq_ok] at h
  obtain ⟨responses, hresponses, -, entries, hentries, variants, hvariants, h⟩ := h
  cases hunion : unionOf? variants with
  | none => simp [hunion] at h
  | some union =>
    simp only [hunion, Reported.result_pure, Except.ok.injEq] at h
    subst h
    refine ⟨responses, entries, variants.map Validator.expand, hresponses, hentries, ?_, ?_⟩
    · rw [List.forall₂_map_right_iff]
      exact hvariants.imp fun _ _ hv => statusVariants_of_compileStatus hv
    · rw [expand_of_unionOf? hunion, List.flatMap_def]

/-! ## Operations -/

/-- The response of an operation that compiles expands to the variants of its statuses in order, and the
body of its request, beside the groups of parameters, to those of its content types. -/
theorem compile_variants {document operation pathParameters : Value} {method route : String}
    {mode : Mode} {namePrefix path : String} {o : Operation}
    (h : (compile document operation method route mode namePrefix path pathParameters).result =
      .ok o) :
    ResponseVariants (sideSetting document namePrefix (Side.of mode .response) .response)
        (Side.of mode .response) operation path o.response.expand ∧
      ∃ group body, o.request = joinRequest (groupsObject group) body ∧
        BodyVariants (sideSetting document namePrefix (Side.of mode .request) .request) operation path
          body := by
  obtain ⟨hrequest, hresponse⟩ := compile_ok h
  obtain ⟨_, _, _, body, -, -, hgroups, hbody, hrequest⟩ := compileRequest_ok hrequest
  obtain ⟨group, -, rfl⟩ := parameterObject_groups hgroups
  exact ⟨responseVariants_of_compileResponse hresponse, group, body, hrequest,
    bodyVariants_of_compileBody hbody⟩

/-- A content type with a schema of a type. -/
def typedMedia (contentType type : String) : String × Value :=
  (contentType, .object [("schema", .object [("type", .text type)])])

/-- A report in two forms, with its length in a header, and nothing while there is none. -/
def report : Value :=
  .object [
    ("requestBody", .object [("content", .object [typedMedia "text/plain" "string"])]),
    ("responses", .object [
      ("200", .object [
        ("headers", .object [("X-Length", .object [("schema", .object [("type", .text "integer")])])]),
        ("content", .object [typedMedia "application/json" "object", typedMedia "text/csv" "string"])]),
      ("default", .object [("description", .text "Not yet")])])]

/-- The header of a report that tells its length. -/
def lengthHeader : String × Validator := ("x-length", .optional (.type .integer))

/-- The variants of a report, first to last. -/
def reportVariants : List Validator :=
  [.object [("statusCode", .literal (.int 200)), ("body", .object [] .open),
      ("headers", .object [lengthHeader] .closed)] .closed,
    .object [("statusCode", .literal (.int 200)), ("body", .type .string),
      ("headers", .object [lengthHeader, ("content-type", .literal (.text "text/csv"))] .closed)]
      .closed,
    .object [("statusCode", .literal (.text "default")), ("body", .noContent)] .closed]

/-- The three variants of a report, and the two of the request for it. -/
theorem variants_report :
    ∃ o, (compile (.object []) report "get" "/report" .handler "" "#/paths/~1report/get"
        .null).result = .ok o ∧
      o.response.expand = reportVariants ∧
      ResponseVariants (sideSetting (.object []) "" (Side.of .handler .response) .response)
        (Side.of .handler .response) report "#/paths/~1report/get" reportVariants ∧
      o.request.expand.length = 2 ∧
      ∃ group body, o.request = joinRequest (groupsObject group) body ∧
        BodyVariants (sideSetting (.object []) "" (Side.of .handler .request) .request) report
          "#/paths/~1report/get" body := by
  have heval : (compile (.object []) report "get" "/report" .handler "" "#/paths/~1report/get"
      .null).result.toOption.map (fun o => (o.response.expand, o.request.expand.length)) =
        some (reportVariants, 2) := rfl
  obtain ⟨o, h, heval⟩ := eq_ok_of_toOption heval
  obtain ⟨hresponse, hlength⟩ := Prod.mk.inj heval
  obtain ⟨hvariants, hrequest⟩ := compile_variants h
  exact ⟨o, h, hresponse, hresponse ▸ hvariants, hlength, hrequest⟩

end Operation

end ApiContract
