import ApiContract.Proofs.Operation.Entries
import ApiContract.Proofs.Schema.References

/-!
# What requests refer to

A request shows the schemas of the parameters that stay in their groups and of every content type of
its body (`RequestShows`). What a compiled request refers to are the names of these schemas:
`refers_compileRequest`.
-/

namespace ApiContract

namespace Operation

open Outcome Validator

variable {s : Setting} {side : Side} {name : String}

/-! ## Parameters -/

/-- The location of a parameter, its key there, and its schema. -/
def Parameter.read (p : Parameter) : Except Fault (Location × Scalar × Schema) := do
  let name := (← p.fields.get "name").getD (.text "")
  match locationOf? (← p.fields.getOrNull "in") with
  | none => .error .unexpected
  | some location =>
    let schema ← Schema.read (← p.fields.getOrNull "schema") (Pointer.raw p.path "schema") 0
    return (location, ← groupKey location name, schema)

theorem compileParameter_ok {p : Parameter} {location : Location} {key : Scalar} {v : Validator}
    (h : (compileParameter s side p).result = .ok (location, key, v)) :
    ∃ schema required style c, p.read = .ok (location, key, schema) ∧
      (compileField s required (Pointer.raw p.path "schema") schema (conversionAt side location)
        style).result = .ok c ∧ c.validator = v := by
  unfold compileParameter at h
  simp only [Reported.result_bind, Reported.result_lift, bind_eq_ok] at h
  obtain ⟨name, hname, stated, hstated, h⟩ := h
  cases hlocation : locationOf? stated with
  | none => simp [hlocation] at h
  | some found =>
    simp only [hlocation, Reported.result_bind, Reported.result_lift, Reported.result_pure,
      bind_eq_ok, unless_fail_eq_ok] at h
    obtain ⟨raw, hraw, -, schema, hschema, style, hstyle, required, hrequired, c, hc, key', hkey, h⟩ := h
    cases h
    refine ⟨schema, required.isTrue, style, c, ?_, hc, rfl⟩
    rw [Parameter.read, hname, hstated, hraw]
    simp only [bind_eq_ok, Except.ok.injEq, exists_eq_left', hlocation, hschema, hkey, pure_eq_ok]

theorem tells_compileField {required : Bool} {path : String} {schema : Schema}
    {convert : Option Conversion} {style : ArrayStyle} {c : Compiled}
    (h : (compileField s required path schema convert style).result = .ok c) (name : String) :
    Schema.Tells s name schema c := by
  unfold compileField at h
  split at h
  · split at h
    · exact Schema.tells_compileRepeated h name
    · exact Schema.tells_compileValue h name
  · exact Schema.tells_compileValue h name

/-- A compiled parameter is told by the parameter as it is read. -/
theorem refers_compileParameter {p : Parameter} {r : Location × Scalar × Validator}
    (h : (compileParameter s side p).result = .ok r) (name : String) :
    ∃ read, p.read = .ok read ∧
      Entrywise (Entrywise fun schema v => Schema.Names s schema name ↔ v.Refers name) read r := by
  obtain ⟨location, key, v⟩ := r
  obtain ⟨schema, required, style, c, hread, hc, rfl⟩ := compileParameter_ok h
  exact ⟨_, hread, rfl, rfl, (tells_compileField hc name).refers.symm⟩

/-- An object of fields has texts as its keys. -/
theorem closedObject_ok {fields : List (Scalar × Validator)} {v : Validator} :
    closedObject fields = .ok v ↔
      ∃ named : List (String × Validator),
        fields = named.map (fun e => (Scalar.text e.1, e.2)) ∧ .object named .closed = v := by
  constructor
  · intro h
    unfold closedObject at h
    simp only at h
    split at h
    next hissues =>
      refine ⟨_, ?_, Except.ok.inj h⟩
      rw [List.isEmpty_iff, List.filterMap_eq_nil_iff] at hissues
      clear h
      induction fields with
      | nil => rfl
      | cons e rest ih =>
        obtain ⟨key, w⟩ := e
        obtain ⟨hkey, hrest⟩ := List.forall_mem_cons.1 hissues
        cases key <;> simp only [reduceCtorEq] at hkey
        simpa using ih hrest
    next => cases h
  · rintro ⟨named, rfl, rfl⟩
    simp [closedObject]

theorem refers_closedObject {fields : List (Scalar × Validator)} {v : Validator}
    (h : closedObject fields = .ok v) : v.Refers name ↔ ∃ e ∈ fields, e.2.Refers name := by
  obtain ⟨named, rfl, rfl⟩ := closedObject_ok.1 h
  simp only [refers_object, List.mem_map, exists_exists_and_eq_and]

/-- The field of a group in a request; an empty group has none. -/
def groupField (compiled : List (Location × Scalar × Validator)) (g : Location × String) :
    Except Fault (Option (String × Validator)) :=
  if (groupAt g.1 compiled).isEmpty then .ok none
  else (fun v => some (g.2, v)) <$> closedObject (groupAt g.1 compiled)

theorem parameterObject_eq (compiled : List (Location × Scalar × Validator)) :
    parameterObject compiled = (do
      let groups ← groupNames.filterMapM (groupField compiled)
      return if groups.isEmpty then none else some (.object groups .closed)) := by
  unfold parameterObject groupField
  simp only [map_eq_pure_bind]
  rfl

theorem parameterObject_ok {compiled : List (Location × Scalar × Validator)}
    {parameters : Option Validator} :
    parameterObject compiled = .ok parameters ↔
      ∃ fields, List.Forall₂ (fun g field => groupField compiled g = .ok field) groupNames fields ∧
        (if (fields.filterMap id).isEmpty then none
          else some (.object (fields.filterMap id) .closed)) = parameters := by
  simp only [parameterObject_eq, bind_eq_ok, filterMapM_eq_ok, pure_eq_ok]
  constructor
  · rintro ⟨_, ⟨fields, hfields, rfl⟩, h⟩
    exact ⟨fields, hfields, h⟩
  · rintro ⟨fields, hfields, h⟩
    exact ⟨_, ⟨fields, hfields, rfl⟩, h⟩

theorem refers_groupField {compiled : List (Location × Scalar × Validator)} {g : Location × String}
    {field : Option (String × Validator)} (h : groupField compiled g = .ok field) :
    (∃ e ∈ field, e.2.Refers name) ↔ ∃ e ∈ groupAt g.1 compiled, e.2.Refers name := by
  unfold groupField at h
  split at h
  next hempty =>
    obtain rfl : none = field := Except.ok.inj h
    simp [List.isEmpty_iff.1 hempty]
  next =>
    obtain ⟨v, hv, rfl⟩ := map_eq_ok.1 h
    simp [← refers_closedObject hv]

theorem refers_parameterObject {compiled : List (Location × Scalar × Validator)}
    {parameters : Option Validator} (h : parameterObject compiled = .ok parameters) :
    (∃ v ∈ parameters, v.Refers name) ↔
      ∃ location, ∃ e ∈ groupAt location compiled, e.2.Refers name := by
  obtain ⟨fields, hfields, rfl⟩ := parameterObject_ok.1 h
  have hobject : (∃ v, (if (fields.filterMap id).isEmpty then none
        else some (Validator.object (fields.filterMap id) .closed)) = some v ∧ v.Refers name) ↔
      ∃ field ∈ fields, ∃ e ∈ field, e.2.Refers name := by
    split
    next hempty =>
      rw [List.isEmpty_iff, List.filterMap_eq_nil_iff] at hempty
      constructor
      · rintro ⟨v, h, -⟩
        cases h
      · rintro ⟨field, hfield, e, he, -⟩
        rw [show field = none from hempty field hfield] at he
        cases he
    next => simp
  refine hobject.trans ?_
  rw [← hfields.exists_iff fun g field h => (refers_groupField h).symm]
  constructor
  · rintro ⟨g, -, h⟩
    exact ⟨g.1, h⟩
  · rintro ⟨location, h⟩
    cases location with
    | header => exact ⟨(.header, "headers"), by simp [groupNames], h⟩
    | path => exact ⟨(.path, "params"), by simp [groupNames], h⟩
    | query => exact ⟨(.query, "query"), by simp [groupNames], h⟩

/-! ## Bodies -/

/-- In a payload of a content type that is told by a header, no other header has that name. -/
def StaysIn (contentType header : String) : Prop :=
  contentType = jsonContent ∨ header ≠ "content-type"

theorem refers_payloadFields {body : Validator} {contentType : String}
    {headers : List (String × Validator)} (h : (headers.map (·.1)).Nodup) :
    (∃ field ∈ payloadFields body contentType headers, field.2.Refers name) ↔
      body.Refers name ∨ ∃ e ∈ headers, StaysIn contentType e.1 ∧ e.2.Refers name := by
  have hheaders : ∀ xs : List (String × Validator),
      (∃ field ∈ ("body", body) :: (if xs.isEmpty then [] else [("headers", Validator.object xs .closed)]),
        field.2.Refers name) ↔ body.Refers name ∨ ∃ e ∈ xs, e.2.Refers name := by
    intro xs
    cases xs <;> simp
  unfold payloadFields
  simp only [hheaders, StaysIn]
  by_cases hjson : contentType = jsonContent
  · simp [hjson]
  · simp only [hjson, ↓reduceIte, false_or, mem_insertEntry h]
    refine or_congr_right ⟨?_, ?_⟩
    · rintro ⟨e, rfl | ⟨he, hne⟩, hrefers⟩
      · simp at hrefers
      · exact ⟨e, he, hne, hrefers⟩
    · rintro ⟨e, he, hne, hrefers⟩
      exact ⟨e, .inr ⟨he, hne⟩, hrefers⟩

/-- The schema of a content type at `path`. -/
def MediaSchema (media : Value) (path : String) (schema : Schema) : Prop :=
  ∃ raw, media.get? "schema" = some raw ∧
    Schema.read raw (Pointer.raw path "schema") 0 = .ok schema

/-- The body of a content type is what its own schema compiles to. -/
def MediaBody (s : Setting) (media : Value) (path : String) (body : Validator) : Prop :=
  ∃ schema c, MediaSchema media path schema ∧
    (schema.compile s none .standard (Pointer.raw path "schema")).result = .ok c ∧
    body = c.validator

theorem mediaBody_of_compileMedia {media : Value} {path : String} {missing : MissingSchema}
    {body : Validator} (h : (compileMedia s media path missing).result = .ok body) :
    MediaBody s media path body := by
  unfold compileMedia at h
  split at h
  next => cases h
  next => cases h
  next raw _ hraw =>
    simp only [Reported.result_bind, Reported.result_lift, Reported.result_pure, bind_eq_ok,
      Except.ok.injEq] at h
    obtain ⟨schema, hschema, c, hc, rfl⟩ := h
    exact ⟨schema, c, ⟨raw, hraw, hschema⟩, hc, rfl⟩

theorem refers_compileMedia {media : Value} {path : String} {missing : MissingSchema} {v : Validator}
    (h : (compileMedia s media path missing).result = .ok v) :
    v.Refers name ↔ ∃ schema, MediaSchema media path schema ∧ schema.Names s name := by
  obtain ⟨schema, c, ⟨raw, hraw, hschema⟩, hc, rfl⟩ := mediaBody_of_compileMedia h
  rw [(Schema.tells_compile schema hc name).refers]
  constructor
  · exact fun hnames => ⟨schema, ⟨raw, hraw, hschema⟩, hnames⟩
  · rintro ⟨schema', ⟨raw', hraw', hschema'⟩, hnames⟩
    obtain rfl : raw = raw' := by simpa [hraw] using hraw'
    obtain rfl : schema = schema' := by simpa [hschema] using hschema'
    exact hnames

/-- The contents of the request body, by content type. -/
def bodyContent (document operation : Value) (path : String) :
    Except Fault (List (Scalar × Value)) := do
  let raw ← operation.getOrNull "requestBody"
  if raw.isNull then return []
  let body ← Pointer.resolve document raw (Pointer.raw path "requestBody")
  (← body.getOrNull "content").entriesOrNone

/-- Where a content type of a payload stands. -/
def mediaPlace (path contentType : String) : String :=
  Pointer.child (Pointer.raw path "content") contentType

theorem refers_compileBodyVariants {content : List (Scalar × Value)} {path : String}
    {variants : List Validator} (h : (compileBodyVariants s content path).result = .ok variants) :
    (∃ v ∈ variants, v.Refers name) ↔ ∃ contentType media schema,
      (Scalar.text contentType, media) ∈ content ∧
        MediaSchema media (mediaPlace path contentType) schema ∧ schema.Names s name := by
  simp only [compileBodyVariants, Reported.result_mapM, mapM_eq_ok, Reported.result_bind,
    Reported.result_lift, Reported.result_pure, bind_eq_ok, asText_eq_ok, Except.ok.injEq] at h
  have hvariant : ∀ (e : Scalar × Value) v, (∃ contentType, e.1 = Scalar.text contentType ∧ ∃ body,
        (compileMedia s e.2 (mediaPlace path contentType) (.requestBody contentType)).result =
          .ok body ∧ Validator.object (payloadFields body contentType []) .closed = v) →
      ((∃ contentType schema, e.1 = Scalar.text contentType ∧
        MediaSchema e.2 (mediaPlace path contentType) schema ∧ schema.Names s name) ↔
          v.Refers name) := by
    rintro ⟨key, media⟩ v ⟨contentType, rfl, body, hbody, rfl⟩
    rw [refers_object, refers_payloadFields (by simp), refers_compileMedia hbody]
    simp
  rw [← h.exists_iff hvariant]
  constructor
  · rintro ⟨⟨_, media⟩, he, contentType, schema, rfl, hschema, hnames⟩
    exact ⟨contentType, media, schema, he, hschema, hnames⟩
  · rintro ⟨contentType, media, schema, he, hschema, hnames⟩
    exact ⟨(.text contentType, media), he, contentType, schema, rfl, hschema, hnames⟩

/-- A body is made of the variants of its content types, and of an empty object if it may be left
out. -/
theorem compileBody_ok {operation : Value} {path : String} {body : Option Validator}
    (h : (compileBody s operation path).result = .ok body) :
    ∃ content, bodyContent s.document operation path = .ok content ∧
      (content = [] ∧ body = none ∨
        ∃ variants v rest, (compileBodyVariants s content (Pointer.raw path "requestBody")).result =
            .ok variants ∧ unionOf? variants = some v ∧ body = some (unionOf v rest) ∧
          rest ⊆ [.object [] .closed]) := by
  unfold compileBody at h
  simp only [Reported.result_bind, Reported.result_lift, bind_eq_ok] at h
  obtain ⟨raw, hraw, h⟩ := h
  split at h
  next hnull =>
    refine ⟨[], ?_, .inl ⟨rfl, (Except.ok.inj h).symm⟩⟩
    rw [bodyContent, hraw]
    exact if_pos hnull
  next hbody =>
    simp only [Reported.result_bind, Reported.result_lift, bind_eq_ok] at h
    obtain ⟨resolved, hresolved, stated, hstated, content, hcontent, variants, hvariants, h⟩ := h
    refine ⟨content, ?_, .inr ⟨variants, ?_⟩⟩
    · rw [bodyContent, hraw]
      refine (if_neg hbody).trans ?_
      rw [bind_eq_ok]
      exact ⟨resolved, hresolved, bind_eq_ok.2 ⟨stated, hstated, hcontent⟩⟩
    · cases hv : unionOf? variants with
      | none => simp [hv] at h
      | some v =>
        simp only [hv, Reported.result_bind, Reported.result_lift, Reported.result_pure, bind_eq_ok,
          Except.ok.injEq] at h
        obtain ⟨required, -, rfl⟩ := h
        cases required.isTrue with
        | true => exact ⟨v, [], hvariants, rfl, rfl, by simp⟩
        | false => exact ⟨v, [.object [] .closed], hvariants, rfl, rfl, by simp⟩

theorem refers_compileBody {operation : Value} {path : String} {body : Option Validator}
    (h : (compileBody s operation path).result = .ok body) :
    (∃ v ∈ body, v.Refers name) ↔ ∃ content contentType media schema,
      bodyContent s.document operation path = .ok content ∧
        (Scalar.text contentType, media) ∈ content ∧
        MediaSchema media (mediaPlace (Pointer.raw path "requestBody") contentType) schema ∧
        schema.Names s name := by
  obtain ⟨content, hcontent, ⟨rfl, rfl⟩ | ⟨variants, v, rest, hvariants, hv, rfl, hrest⟩⟩ :=
    compileBody_ok h
  · simp [hcontent]
  · have hunion : (unionOf v rest).Refers name ↔ v.Refers name := by
      rw [refers_unionOf]
      constructor
      · rintro ⟨w, hw, hrefers⟩
        rcases List.mem_cons.1 hw with rfl | hw
        · exact hrefers
        · obtain rfl := List.mem_singleton.1 (hrest hw)
          simp at hrefers
      · exact fun hrefers => ⟨v, List.mem_cons_self, hrefers⟩
    have hbody : (∃ w ∈ some (unionOf v rest), w.Refers name) ↔ ∃ w ∈ variants, w.Refers name := by
      rw [← refers_of_unionOf? hv, ← hunion]
      simp
    rw [hbody, refers_compileBodyVariants hvariants]
    simp [hcontent]

/-! ## Requests -/

/-- The parameters of an operation, with those of its path. -/
def requestParameters (document operation : Value) (path : String) (pathParameters : Value) :
    Except Fault (List Parameter) := do
  let ofPath ← resolveParameters document pathParameters (Pointer.parent path)
  let ofOperation ← resolveParameters document (← operation.getOrNull "parameters") path
  mergeParameters ofPath ofOperation

/-- The schemas that a request shows: of a parameter that no later one replaces, and of a content
type. -/
inductive RequestShows (document operation : Value) (path : String) (pathParameters : Value) :
    Schema → Prop where
  | parameter {parameters : List Parameter} {read : List (Location × Scalar × Schema)}
    {location : Location} {key : Scalar} {schema : Schema}
    (merged : requestParameters document operation path pathParameters = .ok parameters)
    (parts : parameters.mapM Parameter.read = .ok read)
    (stays : (key, schema) ∈ groupAt location read) :
    RequestShows document operation path pathParameters schema
  | body {content : List (Scalar × Value)} {contentType : String} {media : Value} {schema : Schema}
    (found : bodyContent document operation path = .ok content)
    (member : (Scalar.text contentType, media) ∈ content)
    (reads : MediaSchema media (mediaPlace (Pointer.raw path "requestBody") contentType) schema) :
    RequestShows document operation path pathParameters schema

theorem refers_joinRequest {parameters body : Option Validator} :
    (joinRequest parameters body).Refers name ↔
      (∃ v ∈ parameters, v.Refers name) ∨ ∃ v ∈ body, v.Refers name := by
  cases parameters with
  | none => cases body <;> simp [joinRequest]
  | some v =>
    cases body with
    | none => simp [joinRequest]
    | some w =>
      have hjoined : intersectionOf? [v, w] = some (joinRequest (some v) (some w)) := rfl
      rw [refers_of_intersectionOf? hjoined]
      simp

/-- The parts of a request: its parameters, merged and compiled, and its body. -/
theorem compileRequest_ok {mode : Mode} {namePrefix : String} {document operation : Value}
    {path : String} {pathParameters : Value} {v : Validator}
    (h : (compileRequest mode namePrefix document operation path pathParameters).result = .ok v) :
    ∃ parameters compiled groups body,
      requestParameters document operation path pathParameters = .ok parameters ∧
      List.Forall₂ (fun p r => (compileParameter
        (sideSetting document namePrefix (Side.of mode .request) .request) (Side.of mode .request)
        p).result = .ok r) parameters compiled ∧
      parameterObject compiled = .ok groups ∧
      (compileBody (sideSetting document namePrefix (Side.of mode .request) .request) operation
        path).result = .ok body ∧
      v = joinRequest groups body := by
  simp only [compileRequest, Reported.result_bind, Reported.result_lift, Reported.result_pure,
    Reported.result_mapM, bind_eq_ok, mapM_eq_ok, Except.ok.injEq] at h
  obtain ⟨ofPath, hofPath, raw, hraw, ofOperation, hofOperation, parameters, hmerged, compiled,
    hcompiled, groups, hgroups, body, hbody, rfl⟩ := h
  refine ⟨parameters, compiled, groups, body, ?_, hcompiled, hgroups, hbody, rfl⟩
  simp only [requestParameters, bind_eq_ok]
  exact ⟨ofPath, hofPath, raw, hraw, ofOperation, hofOperation, hmerged⟩

theorem refers_compileRequest {mode : Mode} {namePrefix : String} {document operation : Value}
    {path : String} {pathParameters : Value} {v : Validator}
    (h : (compileRequest mode namePrefix document operation path pathParameters).result = .ok v) :
    v.Refers name ↔ ∃ schema, RequestShows document operation path pathParameters schema ∧
      schema.Names (sideSetting document namePrefix (Side.of mode .request) .request) name := by
  obtain ⟨parameters, compiled, object, body, hmerged, hcompiled, hobject, hbody, rfl⟩ :=
    compileRequest_ok h
  obtain ⟨read, hread, hpairs⟩ := hcompiled.exists_between fun p r hr =>
    refers_compileParameter hr name
  have hgroups : (∃ location, ∃ e ∈ groupAt location compiled, e.2.Refers name) ↔
      ∃ location, ∃ e ∈ groupAt location read, e.2.Names _ name :=
    exists_congr fun location => ((forall₂_groupAt hpairs).exists_iff fun _ _ he => he.2).symm
  rw [refers_joinRequest, refers_parameterObject hobject, refers_compileBody hbody, hgroups]
  constructor
  · rintro (⟨location, ⟨key, schema⟩, hstays, hnames⟩ | ⟨content, contentType, media, schema,
      hcontent, hmember, hreads, hnames⟩)
    · exact ⟨schema, .parameter hmerged (mapM_eq_ok.2 hread) hstays, hnames⟩
    · exact ⟨schema, .body hcontent hmember hreads, hnames⟩
  · rintro ⟨schema, hshows, hnames⟩
    cases hshows with
    | parameter merged parts stays =>
      obtain rfl := Except.ok.inj (hmerged.symm.trans merged)
      obtain rfl := Except.ok.inj ((mapM_eq_ok.2 hread).symm.trans parts)
      exact .inl ⟨_, _, stays, hnames⟩
    | body found member reads =>
      exact .inr ⟨_, _, _, _, found, member, reads, hnames⟩

end Operation

end ApiContract
