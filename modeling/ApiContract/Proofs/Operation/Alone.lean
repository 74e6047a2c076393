import ApiContract.Proofs.Operation.Groups
import ApiContract.Proofs.Operation.Renamed
import ApiContract.Proofs.Schema.Alone

/-!
# Operations whose schemas stand alone in compositions

An operation may have any of its schemas alone in a composition: those of parameters, bodies, responses
and headers, where there is room for one level more (`WrapsSchemas`). It compiles exactly when the operation
without these compositions does, and to the same, with one exception: an array in a query that arrives in
strings of its own is not seen as one inside a composition, and is refused (`HidesArray`).
-/

namespace ApiContract

open Outcome

namespace Operation

open Schema Reported Validator

/-! ## Schemas in their places -/

/-- The same fields but for references, with the schema alone in a composition perhaps. -/
structure WrapsSchema (v v' : Value) : Prop where
  fields : ∀ key, key ≠ "$ref" → key ≠ "schema" → v'.get key = v.get key
  schema : Agree Wraps (v.getOrNull "schema") (v'.getOrNull "schema")

/-- What is stated of one content type, with the schema alone in a composition perhaps. -/
def WrapsMedia (media media' : Value) : Prop :=
  Option.Rel Wraps (media.get? "schema") (media'.get? "schema")

/-- Two request bodies that are required alike. -/
structure WrapsBody (body body' : Value) : Prop where
  required : body'.getOrNull "required" = body.getOrNull "required"
  content : Agree (List.Forall₂ (Entrywise WrapsMedia))
    (body.getOrNull "content" >>= Value.entriesOrNone)
    (body'.getOrNull "content" >>= Value.entriesOrNone)

/-- Two contents of a response, each of which may be left out. -/
structure WrapsContent (content content' : Value) : Prop where
  isVacant : content'.isVacant = content.isVacant
  entries : Agree (List.Forall₂ (Entrywise WrapsMedia)) content.entries content'.entries

structure WrapsResponse (document document' response response' : Value) : Prop where
  headers : Agree (List.Forall₂ (Entrywise (Counterpart document document' WrapsSchema)))
    (response.getOrNull "headers" >>= Value.entriesOrNone)
    (response'.getOrNull "headers" >>= Value.entriesOrNone)
  content : Agree WrapsContent (response.getOrNull "content") (response'.getOrNull "content")

/-- Two values that hold responses by status, any of which may be left out. -/
structure WrapsResponses (document document' responses responses' : Value) : Prop where
  isVacant : responses'.isVacant = responses.isVacant
  entries : Agree (List.Forall₂ (Entrywise
      (Counterpart document document' (WrapsResponse document document'))))
    responses.entries responses'.entries

/-- Two lists of parameters that may be left out. -/
def WrapsMembers (document document' raw raw' : Value) : Prop :=
  Agree (List.Forall₂ (Counterpart document document' WrapsSchema)) raw.membersOrNone
    raw'.membersOrNone

/-- The second operation is the first one, in its document and with the parameters of its path, with any
of its schemas alone in a composition. -/
structure WrapsSchemas (document document' operation operation' pathParameters pathParameters' : Value) :
    Prop where
  /-- References to schemas lead somewhere in both documents or in none. -/
  schemas : ∀ target key, componentKey? target = some key →
    Agree (fun _ _ => True) (Pointer.find document target) (Pointer.find document' target)
  pathParameters : WrapsMembers document document' pathParameters pathParameters'
  parameters : Agree (WrapsMembers document document') (operation.getOrNull "parameters")
    (operation'.getOrNull "parameters")
  body : Agree (fun body body' => body'.isNull = body.isNull ∧
      Counterpart document document' WrapsBody body body')
    (operation.getOrNull "requestBody") (operation'.getOrNull "requestBody")
  responses : Agree (WrapsResponses document document') (operation.getOrNull "responses")
    (operation'.getOrNull "responses")
  security : operation'.getOrNull "security" = operation.getOrNull "security"
  documentSecurity : document'.getOrNull "security" = document.getOrNull "security"

/-! ## Hidden arrays -/

/-- The parameter has an array that would be parsed item by item, as the only branch of a
composition. -/
structure Parameter.HidesArray (p : Parameter) : Prop where
  inQuery : ∃ stated, p.fields.getOrNull "in" = .ok stated ∧ locationOf? stated = some .query
  explodes : ∃ style, readStyle p.fields = .ok style ∧ style.explode = true
  hidden : ∃ raw schema k notes items, p.fields.getOrNull "schema" = .ok raw ∧
    Schema.read raw (Pointer.raw p.path "schema") 0 = .ok schema ∧ schema.Composes k ∧
    k.variants = [.array notes items]

/-- Where requests are parsed, a parameter hides an array from that. -/
def HidesArray (mode : Mode) (document operation : Value) (path : String) (pathParameters : Value) :
    Prop :=
  mode = .server ∧ ∃ parameters,
    requestParameters document operation path pathParameters = .ok parameters ∧
    ∃ p ∈ parameters, p.HidesArray

/-- Requests are parsed by servers only. -/
theorem direction_eq_fromString {mode : Mode} :
    (Side.of mode .request).direction = some .fromString ↔ mode = .server := by
  cases mode <;> decide

variable {s s' : Setting} {side : Side} {path : String}

theorem compileField_composes {schema : Schema} {k : Combination} (hk : schema.Composes k)
    {required : Bool} {convert : Option Conversion} {style : ArrayStyle} :
    compileField s required path schema convert style =
      compileValue s required path schema convert style := by
  cases hk <;> rfl

/-- A hidden array does not compile, since an array is not parsed from one string. -/
theorem not_hidesArray_of_compileParameter {p : Parameter} {r : Location × Scalar × Validator}
    (h : (compileParameter s side p).result = .ok r) (hside : side.direction = some .fromString) :
    ¬ p.HidesArray := by
  rintro ⟨⟨stated, hstated, hquery⟩, -, raw, schema, k, notes, items, hraw, hread, hk, hvariants⟩
  obtain ⟨location, key, v⟩ := r
  obtain ⟨schema', required, style, c, hparameter, hc, -⟩ := compileParameter_ok h
  simp only [Parameter.read, hstated, hraw, bind_eq_ok, Except.ok.injEq, exists_eq_left', hquery,
    hread, pure_eq_ok, Prod.mk.injEq] at hparameter
  obtain ⟨_, -, _, -, rfl, -, rfl⟩ := hparameter
  rw [compileField_composes hk, compileValue, result_bind] at hc
  obtain ⟨inner, hinner, -⟩ := bind_eq_ok.1 hc
  obtain ⟨branches, -, hbranches, -⟩ := (compile_composes_ok hk).1 hinner
  rw [hvariants] at hbranches
  obtain ⟨array, -, harray⟩ := hbranches.exists_right List.mem_cons_self
  have hparsed := (compile_array_ok.1 harray).1
  simp [conversionAt, hside] at hparsed

/-! ## Parameters -/

section Steps

variable (h : s.Renames id s')

/-- Both branches fail where there is no schema, and reading it fails there as well. -/
theorem together_unless_null {α β : Type} {S : α → β → Prop} {raw raw' : Value}
    {x : Reported α} {y : Reported β} {k : Schema → Reported α} {k' : Schema → Reported β}
    (hraw : Wraps raw raw') (hx : ∀ a, x.result ≠ .ok a) (hy : ∀ b, y.result ≠ .ok b)
    (hk : ∀ schema schema', Schema.read raw' path 0 = .ok schema' → Collapses schema schema' →
      (k schema).Together S (k' schema')) :
    Reported.Together S (if raw.isNull then x else liftM (Schema.read raw path 0) >>= k)
      (if raw'.isNull then y else liftM (Schema.read raw' path 0) >>= k') := by
  have hnull {v : Value} {schema : Schema} (hread : Schema.read v path 0 = .ok schema) :
      v.isNull = false := by
    cases hv : v.isNull with
    | false => rfl
    | true =>
      obtain rfl := Value.isNull_iff.1 hv
      cases hread
  have hboth : Outcome.Together Collapses (Schema.read raw path 0) (Schema.read raw' path 0) :=
    together_read hraw
  generalize hleft : Schema.read raw path 0 = left at hboth ⊢
  generalize hright : Schema.read raw' path 0 = right at hboth ⊢
  cases hboth with
  | ok hcollapses =>
    rw [hnull hleft, hnull hright]
    exact hk _ _ hright hcollapses
  | error =>
    refine together_of_ok (fun a ha => ?_) fun b hb => ?_
    · split at ha
      · exact absurd ha (hx a)
      · cases ha
    · split at hb
      · exact absurd hb (hy b)
      · cases hb

include h

theorem together_compileField {schema schema' : Schema} {required : Bool}
    {convert : Option Conversion} {style : ArrayStyle} (hschema : Collapses schema schema')
    (hseen : convert = some ⟨.fromString, .query⟩ → style.explode = true →
      ∀ k notes items, schema' ≠ alone k (.array notes items)) :
    Reported.Together Compiled.Coincides (compileField s required path schema convert style)
      (compileField s' required path schema' convert style) := by
  cases hschema with
  | same =>
    have hfollows : Follows (fun _ => False) (Compiled.Image (Validator.renamed id) id)
        (compileField s required path schema convert style)
        (compileField s' required path schema convert style) :=
      follows_compileField h Function.injective_id
    exact ((alike_iff_follows.2 hfollows).imp fun _ _ => coincides_of_image).together
  | alone k =>
    have hleft : compileField s required path schema convert style =
        compileValue s required path schema convert style := by
      unfold compileField
      split
      next notes items =>
        rw [if_neg]
        exact fun hexplode => hseen rfl hexplode k notes items rfl
      next => rfl
    obtain ⟨_, hcomposes, -⟩ := exists_composes_alone k schema
    rw [hleft, compileField_composes hcomposes]
    exact together_compileValue h (.alone k)

omit h in
theorem WrapsSchema.get {v v' : Value} (hv : WrapsSchema v v') (key : String)
    (href : key ≠ "$ref" := by decide) (hschema : key ≠ "schema" := by decide) :
    v'.get key = v.get key := hv.fields key href hschema

omit h in
theorem WrapsSchema.getOrNull {v v' : Value} (hv : WrapsSchema v v') (key : String)
    (href : key ≠ "$ref" := by decide) (hschema : key ≠ "schema" := by decide) :
    v'.getOrNull key = v.getOrNull key := by
  unfold Value.getOrNull
  rw [hv.get key href hschema]

omit h in
theorem WrapsSchema.readStyle_eq {v v' : Value} (hv : WrapsSchema v v') :
    readStyle v' = readStyle v := by
  unfold readStyle
  rw [hv.get "style", hv.get "explode"]

/-- A parameter compiles to the same, unless it hides an array. -/
theorem together_compileParameter {p p' : Parameter} (hpath : p'.path = p.path)
    (hp : WrapsSchema p.fields p'.fields)
    (hseen : side.direction = some .fromString → ¬ p'.HidesArray) :
    Reported.Together Eq (compileParameter s side p) (compileParameter s' side p') := by
  have hstyle : readStyle p'.fields = readStyle p.fields := hp.readStyle_eq
  unfold compileParameter
  simp only [hpath, hp.get "name", hp.getOrNull "in", hp.getOrNull "required", hstyle]
  refine together_bind_same fun name _ => together_bind_same fun stated hstated => ?_
  cases hlocation : locationOf? stated with
  | none => exact together_fail _ _
  | some location =>
    refine Together.bind (R := fun raw raw' => Wraps raw raw' ∧ p.fields.getOrNull "schema" = .ok raw ∧
      p'.fields.getOrNull "schema" = .ok raw') hp.schema.and_ok.together ?_
    rintro raw raw' - ⟨hwraps, -, hraw'⟩
    refine together_unless_null hwraps nofun nofun fun schema schema' hread hcollapses => ?_
    refine together_bind_same fun style hfound => together_bind_same fun required _ => ?_
    refine (together_compileField h hcollapses fun hconvert hexplode k notes items heq => ?_).bind ?_
    · obtain ⟨direction, hdirection, hconversion⟩ := Option.map_eq_some_iff.1 hconvert
      obtain ⟨rfl, rfl⟩ := Conversion.mk.inj hconversion
      obtain ⟨combine, hcomposes, -⟩ := exists_composes_alone k (.array notes items)
      refine hseen hdirection ⟨⟨stated, ?_, hlocation⟩, ⟨style, ?_, hexplode⟩, ?_⟩
      · exact (hp.getOrNull "in").trans hstated
      · exact hstyle.trans hfound
      · exact ⟨raw', schema', _, notes, items, hraw', hpath ▸ hread, heq ▸ hcomposes, rfl⟩
    · intro c c' _ hc
      rw [hc.validator]
      exact together_refl _

/-! ## Bodies -/

theorem together_compileMedia {media media' : Value} {missing : MissingSchema}
    (hmedia : WrapsMedia media media') :
    Reported.Together Eq (compileMedia s media path missing) (compileMedia s' media' path missing) := by
  have hsplit : ∀ (s : Setting) (media raw : Value), media.get? "schema" = some raw →
      compileMedia s media path missing =
        if raw.isNull then
          .fail (.uncompilable (.missingSchema missing) (Pointer.raw path "schema"))
        else do
          let schema ← (liftM (Schema.read raw (Pointer.raw path "schema") 0) : Reported Schema)
          return (← schema.compile s none .standard (Pointer.raw path "schema")).validator := by
    intro s media raw hraw
    unfold compileMedia
    rw [hraw]
    rcases raw with (_ | _ | _ | _ | _ | _ | _ | _) | _ | _ | _ <;> rfl
  unfold WrapsMedia at hmedia
  generalize hleft : media.get? "schema" = left at hmedia
  generalize hright : media'.get? "schema" = right at hmedia
  cases hmedia with
  | none =>
    unfold compileMedia
    rw [hleft, hright]
    exact together_fail _ _
  | some hwraps =>
    rw [hsplit s media _ hleft, hsplit s' media' _ hright]
    refine together_unless_null hwraps nofun nofun fun schema schema' _ hcollapses => ?_
    refine (together_compile_collapses h hcollapses).bind fun c c' _ hc => ?_
    rw [hc.validator]
    exact together_refl _

theorem together_compileBodyVariants {content content' : List (Scalar × Value)}
    (hcontent : List.Forall₂ (Entrywise WrapsMedia) content content') :
    Reported.Together Eq (compileBodyVariants s content path)
      (compileBodyVariants s' content' path) := by
  refine .mapM_eq (hcontent.imp ?_)
  rintro ⟨key, media⟩ ⟨_, media'⟩ ⟨rfl, hmedia⟩
  refine together_bind_same fun contentType _ => ?_
  exact (together_compileMedia h hmedia).bind_eq fun body _ => together_refl _

theorem together_compileBody {operation operation' : Value}
    (hbody : Agree (fun body body' => body'.isNull = body.isNull ∧
        Counterpart s.document s'.document WrapsBody body body')
      (operation.getOrNull "requestBody") (operation'.getOrNull "requestBody")) :
    Reported.Together Eq (compileBody s operation path) (compileBody s' operation' path) := by
  unfold compileBody
  refine Together.bind hbody.together fun raw raw' _ hraw => ?_
  obtain ⟨hnull, hcounterpart⟩ := hraw
  rw [hnull]
  split
  · exact together_refl _
  · refine Together.bind (hcounterpart.resolve _).together fun body body' _ hfields => ?_
    rw [lift_bind_assoc, lift_bind_assoc, hfields.required]
    refine Together.bind hfields.content.together fun content content' _ hcontent => ?_
    exact (together_compileBodyVariants h hcontent).bind_eq fun variants _ => together_refl _

/-! ## Responses -/

theorem together_compileHeader {key : Scalar} {raw raw' : Value}
    (hraw : Counterpart s.document s'.document WrapsSchema raw raw') :
    Reported.Together Eq (compileHeader s side path key raw) (compileHeader s' side path key raw') := by
  unfold compileHeader
  refine together_bind_same fun name _ => ?_
  refine Together.bind (hraw.resolve _).together fun header header' _ hfields => ?_
  rw [hfields.getOrNull "required"]
  refine Together.bind hfields.schema.together fun raw raw' _ hwraps => ?_
  refine together_unless_null hwraps nofun nofun fun schema schema' _ hcollapses => ?_
  refine together_bind_same fun required _ => ?_
  refine (together_compileValue h hcollapses).bind fun c c' _ hc => ?_
  rw [hc.validator]
  exact together_refl _

theorem together_compileHeaders {response response' : Value}
    (hresponse : WrapsResponse s.document s'.document response response') :
    Reported.Together Eq (compileHeaders s side response path)
      (compileHeaders s' side response' path) := by
  unfold compileHeaders
  rw [lift_bind_assoc, lift_bind_assoc]
  refine Together.bind hresponse.headers.together fun declared declared' _ hdeclared => ?_
  refine Together.bind_eq (.mapM_eq (hdeclared.imp ?_)) fun headers _ => together_refl _
  rintro ⟨key, raw⟩ ⟨_, raw'⟩ ⟨rfl, hraw⟩
  exact together_compileHeader h hraw

theorem together_compileVariant {status : String} {code : Validator}
    {headers : List (String × Validator)} {key : Scalar} {media media' : Value}
    (hmedia : WrapsMedia media media') :
    Reported.Together Eq (compileVariant s status code headers path key media)
      (compileVariant s' status code headers path key media') := by
  unfold compileVariant
  refine together_bind_same fun contentType _ => ?_
  exact (together_compileMedia h hmedia).bind_eq fun body _ => together_refl _

theorem together_compileStatus {key : Scalar} {raw raw' : Value}
    (hraw : Counterpart s.document s'.document (WrapsResponse s.document s'.document) raw raw') :
    Reported.Together Eq (compileStatus s side key raw path) (compileStatus s' side key raw' path) := by
  unfold compileStatus
  refine Together.bind (hraw.resolve _).together fun response response' _ hresponse => ?_
  refine together_bind_same fun code _ => ?_
  refine (together_compileHeaders h hresponse).bind_eq fun headers _ => ?_
  refine Together.bind hresponse.content.together fun content content' _ hcontent => ?_
  rw [hcontent.isVacant]
  split
  · exact together_refl _
  · refine Together.bind hcontent.entries.together fun entries entries' _ hentries => ?_
    refine Together.bind_eq (.mapM_eq (hentries.imp ?_)) fun variants _ => together_refl _
    rintro ⟨key, media⟩ ⟨_, media'⟩ ⟨rfl, hmedia⟩
    exact together_compileVariant h hmedia

end Steps

/-! ## Operations -/

variable {document document' operation operation' pathParameters pathParameters' : Value}
  {namePrefix : String} {mode : Mode}

section Wrapped

variable (hwraps : WrapsSchemas document document' operation operation' pathParameters pathParameters')

include hwraps

theorem WrapsSchemas.settings (namePrefix : String) (side : Side) (use : Use) :
    (sideSetting document namePrefix side use).Renames id
      (sideSetting document' namePrefix side use) where
  crossing := rfl
  use := rfl
  name _ := rfl
  schemas := hwraps.schemas

theorem agree_requestParameters :
    Agree (List.Forall₂ fun p p' => p'.path = p.path ∧ WrapsSchema p.fields p'.fields)
      (requestParameters document operation path pathParameters)
      (requestParameters document' operation' path pathParameters') := by
  unfold requestParameters
  refine (agree_resolveParameters hwraps.pathParameters).bind fun ofPath ofPath' hpath => ?_
  refine hwraps.parameters.bind fun raw raw' hraw => ?_
  refine (agree_resolveParameters hraw).bind fun own own' hown => ?_
  refine agree_mergeParameters (fun p p' hp => ?_) hpath hown
  unfold Parameter.identity
  rw [hp.2.get "name", hp.2.get "in"]

theorem together_compileRequest
    (hseen : ¬ HidesArray mode document' operation' path pathParameters') :
    Reported.Together Eq (compileRequest mode namePrefix document operation path pathParameters)
      (compileRequest mode namePrefix document' operation' path pathParameters') := by
  have hs := hwraps.settings namePrefix (Side.of mode .request) .request
  rw [compileRequest_eq, compileRequest_eq]
  refine Together.bind (agree_requestParameters hwraps).and_ok.together ?_
  rintro parameters parameters' - ⟨hparameters, -, hmerged⟩
  refine Together.bind_eq (.mapM_eq ?_) fun compiled _ => ?_
  · refine List.Forall₂.flip (hparameters.flip.imp_of_mem fun p' hp' p hp => ?_)
    exact together_compileParameter hs hp.1 hp.2 fun hdirection hhides =>
      hseen ⟨direction_eq_fromString.1 hdirection, parameters', hmerged, p', hp', hhides⟩
  · refine together_bind_same fun groups _ => ?_
    exact (together_compileBody hs hwraps.body).bind_eq fun body _ => together_refl _

theorem together_compileResponse :
    Reported.Together Eq (compileResponse mode namePrefix document operation path)
      (compileResponse mode namePrefix document' operation' path) := by
  have hs := hwraps.settings namePrefix (Side.of mode .response) .response
  unfold compileResponse
  refine Together.bind hwraps.responses.together fun responses responses' _ hresponses => ?_
  rw [hresponses.isVacant]
  split
  · exact together_fail _ _
  · refine Together.bind hresponses.entries.together fun entries entries' _ hentries => ?_
    refine Together.bind_eq (.mapM_eq (hentries.imp ?_)) fun variants _ => together_refl _
    rintro ⟨key, raw⟩ ⟨_, raw'⟩ ⟨rfl, hraw⟩
    exact together_compileStatus hs hraw

theorem WrapsSchemas.compileSecurity_eq :
    compileSecurity document' operation' = compileSecurity document operation := by
  unfold compileSecurity
  rw [hwraps.security, hwraps.documentSecurity]

theorem together_compile {method route : String}
    (hseen : ¬ HidesArray mode document' operation' path pathParameters') :
    Reported.Together Eq (compile document operation method route mode namePrefix path pathParameters)
      (compile document' operation' method route mode namePrefix path pathParameters') := by
  unfold compile
  rw [hwraps.compileSecurity_eq]
  refine (together_compileRequest hwraps hseen).bind_eq fun request _ => ?_
  exact (together_compileResponse hwraps).bind_eq fun response _ => together_refl _

end Wrapped

theorem not_hidesArray_of_compile {method route : String} {o : Operation}
    (h : (compile document operation method route mode namePrefix path pathParameters).result =
      .ok o) : ¬ HidesArray mode document operation path pathParameters := by
  rintro ⟨hserver, parameters, hparameters, p, hp, hhides⟩
  obtain ⟨parameters', _, _, _, hparameters', hcompiled, -⟩ := compileRequest_ok (compile_ok h).1
  obtain rfl : parameters = parameters' := Except.ok.inj (hparameters.symm.trans hparameters')
  obtain ⟨r, -, hr⟩ := hcompiled.exists_right hp
  exact not_hidesArray_of_compileParameter hr (direction_eq_fromString.2 hserver) hhides

/-- An operation with schemas alone in compositions compiles when it does without these compositions, and
to the same, unless it hides an array. -/
theorem compile_alone (hwraps : WrapsSchemas document document' operation operation' pathParameters
      pathParameters') {method route : String} {o : Operation} :
    (compile document' operation' method route mode namePrefix path pathParameters').result = .ok o ↔
      (compile document operation method route mode namePrefix path pathParameters).result = .ok o ∧
        ¬ HidesArray mode document' operation' path pathParameters' := by
  constructor
  · intro h
    have hseen : ¬ HidesArray mode document' operation' path pathParameters' :=
      not_hidesArray_of_compile h
    exact ⟨(together_iff.1 (together_compile hwraps hseen) o).2 h, hseen⟩
  · rintro ⟨h, hseen⟩
    exact (together_iff.1 (together_compile hwraps hseen) o).1 h

/-! ## A schema replaced -/

/-- The schema of a parameter or a header, put alone into a composition in its place. -/
theorem wrapsSchema_insert {entries : List (Scalar × Value)} {raw raw' : Value}
    (hraw : Value.find? "schema" entries = some raw) (h : Wraps raw raw') :
    WrapsSchema (.map entries) (.map (insertEntry (.text "schema") raw' entries)) where
  fields key _ hkey := by simp [Value.get, Value.find?_insertEntry, hkey.symm]
  schema := by
    simp only [Value.getOrNull, Value.get, Value.find?_insertEntry, hraw]
    exact .ok h

/-- The schema of a content type, put alone into a composition in its place. -/
theorem wrapsMedia_insert {entries : List (Scalar × Value)} {raw raw' : Value}
    (hraw : Value.find? "schema" entries = some raw) (h : Wraps raw raw') :
    WrapsMedia (.map entries) (.map (insertEntry (.text "schema") raw' entries)) := by
  simp only [WrapsMedia, Value.get?, Value.find?_insertEntry, hraw, ↓reduceIte]
  exact .some h

/-- A list of integers. -/
def integerList : Value :=
  .object [("type", .text "array"), ("items", .object [("type", .text "integer")])]

/-- A lookup of things by their numbers, with the schemas of its parameter, its body and the header of its
response. -/
def lookup (numbers body total : Value) : Value :=
  .object [
    ("parameters", .list [.object [("name", .text "numbers"), ("in", .text "query"),
      ("schema", numbers)]]),
    ("requestBody", .object [("content", .object [("application/json",
      .object [("schema", body)])])]),
    ("responses", .object [("200", .object [("headers", .object [("X-Total",
      .object [("schema", total)])])])])]

def plainLookup : Value := lookup integerList integerList (.object [("type", .text "integer")])

/-- The lookup with all of its schemas alone in compositions. -/
def aloneLookup : Value :=
  lookup (rawAlone .oneOf integerList) (rawAlone .anyOf integerList)
    (rawAlone .allOf (.object [("type", .text "integer")]))

def compileLookup (mode : Mode) (operation : Value) : Reported Operation :=
  compile (.object []) operation "post" "/lookup" mode "" "#/paths/~1lookup/post" .null

/-- Clients write the same requests for both lookups. Servers do not see that the numbers of the second one
are a list, and refuse it. -/
theorem lookup_alone :
    WrapsSchemas (.object []) (.object []) plainLookup aloneLookup .null .null ∧
      (∃ o, (compileLookup .client plainLookup).result = .ok o ∧
        (compileLookup .client aloneLookup).result = .ok o) ∧
      (∃ o, (compileLookup .server plainLookup).result = .ok o) ∧
      HidesArray .server (.object []) aloneLookup "#/paths/~1lookup/post" .null ∧
      ∀ o, (compileLookup .server aloneLookup).result ≠ .ok o := by
  have hlist (k : Composition) : Wraps integerList (rawAlone k integerList) :=
    wraps_alone k fun _ => ⟨_, rfl⟩
  have htotal (k : Composition) : Wraps (.object [("type", .text "integer")])
      (rawAlone k (.object [("type", .text "integer")])) := wraps_alone k fun _ => ⟨_, rfl⟩
  have hwraps : WrapsSchemas (.object []) (.object []) plainLookup aloneLookup .null .null := {
    schemas _ _ _ := .of_eq rfl fun _ _ => trivial
    pathParameters := .ok List.Forall₂.nil
    parameters := .ok (.ok (.cons (.plain rfl rfl (wrapsSchema_insert rfl (hlist .oneOf))) .nil))
    body := .ok ⟨rfl, .plain rfl rfl
      ⟨rfl, .ok (.cons ⟨rfl, wrapsMedia_insert rfl (hlist .anyOf)⟩ .nil)⟩⟩
    responses := .ok ⟨rfl, .ok (.cons ⟨rfl, .plain rfl rfl {
      headers := .ok (.cons ⟨rfl, .plain rfl rfl (wrapsSchema_insert rfl (htotal .allOf))⟩ .nil)
      content := .ok ⟨rfl, .error _⟩ }⟩ .nil)⟩
    security := rfl
    documentSecurity := rfl }
  obtain ⟨o, ho⟩ : ∃ o, (compileLookup .client plainLookup).result = .ok o := ⟨_, rfl⟩
  have hclient : ¬ HidesArray .client (.object []) aloneLookup "#/paths/~1lookup/post" .null :=
    fun ⟨hmode, _⟩ => nomatch hmode
  have hserver : HidesArray .server (.object []) aloneLookup "#/paths/~1lookup/post" .null :=
    ⟨rfl, _, rfl, _, List.mem_cons_self,
      ⟨⟨_, rfl, rfl⟩, ⟨_, rfl, rfl⟩, _, _, _, _, _, rfl, rfl, .oneOf _ _ _, rfl⟩⟩
  exact ⟨hwraps, ⟨o, ho, (compile_alone hwraps).2 ⟨ho, hclient⟩⟩, ⟨_, rfl⟩, hserver,
    fun o ho => ((compile_alone hwraps).1 ho).2 hserver⟩

end Operation

end ApiContract
