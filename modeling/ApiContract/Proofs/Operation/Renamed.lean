import ApiContract.Proofs.Operation.Counterparts
import ApiContract.Proofs.Operation.Response
import ApiContract.Proofs.Schema.Renamed

/-!
# Operations compiled under other names

Where the names of declarations only change by a map that keeps them apart, operations that are
counterparts compile to the same operation up to these names: `compile_counterparts`.
-/

namespace ApiContract

/-- The second validator is the first one under the other names. -/
def Validator.Becomes (f : String → String) (v v' : Validator) : Prop := v' = v.renamed f

namespace Operation

open Outcome Reported Validator

variable {f : String → String} {excused : Fault → Prop}

/-! ## Lists of validators -/

theorem eq_map_of_becomes {vs vs' : List Validator} (h : List.Forall₂ (Becomes f) vs vs') :
    vs' = vs.map (renamed f) := by
  induction h with
  | nil => rfl
  | cons hv _ ih => rw [List.map_cons, ← ih, hv]

theorem eq_map_of_entrywise {κ : Type} {xs ys : List (κ × Validator)}
    (h : List.Forall₂ (Entrywise (Becomes f)) xs ys) : ys = xs.map fun e => (e.1, e.2.renamed f) := by
  induction h with
  | nil => rfl
  | cons he _ ih => rw [List.map_cons, ← ih, he.1, ← he.2]

theorem becomes_object {fields fields' : List (String × Validator)} {extra : ExtraPolicy}
    (h : List.Forall₂ (Entrywise (Becomes f)) fields fields') :
    (object fields extra).Becomes f (object fields' extra) := by
  rw [eq_map_of_entrywise h]
  exact renamed_object.symm

/-- The fold of validators that are there, or else a fault. -/
theorem follows_union {vs vs' : List Validator} {fault : Fault}
    (h : List.Forall₂ (Becomes f) vs vs') :
    Follows excused (Becomes f)
      (match unionOf? vs with
      | some v => pure v
      | none => Reported.fail fault)
      (match unionOf? vs' with
      | some v => pure v
      | none => Reported.fail fault) := by
  rw [eq_map_of_becomes h, (morphism_renamed f).unionOf?]
  cases unionOf? vs with
  | none => exact follows_fail fault
  | some v => exact follows_pure rfl

/-! ## Parameters -/

theorem readStyle_eq {v v' : Value} (hv : SameFields v v') : readStyle v' = readStyle v := by
  unfold readStyle
  rw [hv.get "style", hv.get "explode"]

theorem agree_closedObject {xs ys : List (Scalar × Validator)}
    (hxs : List.Forall₂ (Entrywise (Becomes f)) xs ys) :
    Agree (Becomes f) (closedObject xs) (closedObject ys) := by
  unfold closedObject
  extract_lets issues issues'
  have hissues : List.Forall₂ Eq issues issues' := by
    refine List.rel_filterMap ?_ hxs
    rintro ⟨key, v⟩ ⟨_, v'⟩ ⟨rfl, -⟩
    cases key <;> first | exact .none | exact .some rfl
  rw [List.forall₂_eq_eq_eq] at hissues
  rw [← hissues]
  split
  next =>
    refine .ok (becomes_object (List.rel_filterMap ?_ hxs))
    rintro ⟨key, v⟩ ⟨_, v'⟩ ⟨rfl, hv⟩
    cases key <;> first | exact .some ⟨rfl, hv⟩ | exact .none
  next => exact .error _

theorem agree_groupField {xs ys : List (Location × Scalar × Validator)} (g : Location × String)
    (hxs : List.Forall₂ (Entrywise (Entrywise (Becomes f))) xs ys) :
    Agree (Option.Rel (Entrywise (Becomes f))) (groupField xs g) (groupField ys g) := by
  have hgroup : List.Forall₂ (Entrywise (Becomes f)) (groupAt g.1 xs) (groupAt g.1 ys) :=
    forall₂_groupAt hxs
  have hempty : (groupAt g.1 ys).isEmpty = (groupAt g.1 xs).isEmpty := hgroup.isEmpty_eq.symm
  unfold groupField
  rw [hempty]
  cases (groupAt g.1 xs).isEmpty with
  | true => exact .ok .none
  | false => exact (agree_closedObject hgroup).bind fun v v' hv => .ok (.some ⟨rfl, hv⟩)

theorem agree_parameterObject {xs ys : List (Location × Scalar × Validator)}
    (hxs : List.Forall₂ (Entrywise (Entrywise (Becomes f))) xs ys) :
    Agree (Option.Rel (Becomes f)) (parameterObject xs) (parameterObject ys) := by
  rw [parameterObject_eq, parameterObject_eq]
  refine Agree.bind (R := List.Forall₂ (Entrywise (Becomes f))) (.filterMapM ?_)
    fun groups groups' hgroups => ?_
  · exact List.forall₂_same.2 fun g _ => agree_groupField g hxs
  · cases hgroups with
    | nil => exact .ok .none
    | cons he hrest => exact .ok (.some (becomes_object (.cons he hrest)))

section Steps

variable {s s' : Setting} (h : s.Renames f s') (hf : Function.Injective f) {side : Side}

include h hf

theorem follows_compileField {required : Bool} {path : String} {schema : Schema}
    {convert : Option Conversion} {style : ArrayStyle} :
    Follows excused (Compiled.Image (renamed f) f)
      (compileField s required path schema convert style)
      (compileField s' required path schema convert style) := by
  unfold compileField
  split
  · split
    · exact (Schema.compileRepeated_renamed h hf _).follows
    · exact (Schema.compileValue_renamed h hf _).follows
  · exact (Schema.compileValue_renamed h hf _).follows

theorem follows_compileParameter {p p' : Parameter} (hp : p.Alike p') :
    Follows excused (Entrywise (Entrywise (Becomes f))) (compileParameter s side p)
      (compileParameter s' side p') := by
  unfold compileParameter
  simp only [hp.path, hp.fields.get "name", hp.fields.getOrNull "in", hp.fields.getOrNull "schema",
    hp.fields.getOrNull "required", readStyle_eq hp.fields]
  refine follows_bind_same fun name => follows_bind_same fun stated => ?_
  cases locationOf? stated with
  | none => exact follows_fail _
  | some location =>
    refine follows_bind_same fun raw => ?_
    split
    · exact follows_fail _
    · refine follows_bind_same fun schema => follows_bind_same fun style =>
        follows_bind_same fun required => ?_
      refine (follows_compileField h hf).bind fun c c' hc => follows_bind_same fun key => ?_
      exact follows_pure ⟨rfl, rfl, hc.validator⟩

/-! ## Bodies -/

omit h hf in
theorem forall₂_payloadFields {body body' : Validator} {contentType : String}
    {headers headers' : List (String × Validator)} (hbody : body.Becomes f body')
    (hheaders : List.Forall₂ (Entrywise (Becomes f)) headers headers') :
    List.Forall₂ (Entrywise (Becomes f)) (payloadFields body contentType headers)
      (payloadFields body' contentType headers') := by
  have hfields : ∀ {xs ys : List (String × Validator)}, List.Forall₂ (Entrywise (Becomes f)) xs ys →
      List.Forall₂ (Entrywise (Becomes f))
        (("body", body) :: (if xs.isEmpty then [] else [("headers", Validator.object xs .closed)]))
        (("body", body') :: (if ys.isEmpty then [] else [("headers", Validator.object ys .closed)])) := by
    intro xs ys hxs
    rw [← hxs.isEmpty_eq]
    cases xs.isEmpty with
    | true => exact .cons ⟨rfl, hbody⟩ .nil
    | false => exact .cons ⟨rfl, hbody⟩ (.cons ⟨rfl, becomes_object hxs⟩ .nil)
  unfold payloadFields
  split
  · exact hfields hheaders
  · exact hfields (forall₂_insertBy hheaders rfl)

theorem follows_compileMedia {media : Value} {path : String} {missing : MissingSchema} :
    Follows excused (Becomes f) (compileMedia s media path missing)
      (compileMedia s' media path missing) := by
  unfold compileMedia
  dsimp only
  split
  next => exact follows_fail _
  next => exact follows_fail _
  next =>
    refine follows_bind_same fun schema => ?_
    refine (Schema.compile_renamed h hf schema).bind fun c c' hc => ?_
    exact follows_pure hc.validator

theorem follows_compileBodyVariants {content : List (Scalar × Value)} {path : String} :
    Follows excused (List.Forall₂ (Becomes f)) (compileBodyVariants s content path)
      (compileBodyVariants s' content path) := by
  unfold compileBodyVariants
  refine .mapM (List.forall₂_same.2 fun e _ => follows_bind_same fun contentType => ?_)
  refine (follows_compileMedia h hf).bind fun body body' hbody => ?_
  exact follows_pure (becomes_object (forall₂_payloadFields hbody .nil))

theorem follows_compileBody {operation operation' : Value} {path : String}
    (hbody : Agree (BodyAlike s.document s'.document) (operation.getOrNull "requestBody")
      (operation'.getOrNull "requestBody")) :
    Follows excused (Option.Rel (Becomes f)) (compileBody s operation path)
      (compileBody s' operation' path) := by
  unfold compileBody
  refine (follows_lift hbody).bind fun raw raw' hraw => ?_
  rw [hraw.isNull]
  split
  · exact follows_pure .none
  · refine (follows_lift (hraw.counterpart.resolve _)).bind fun body body' hfields => ?_
    rw [hfields.getOrNull "content", hfields.getOrNull "required"]
    refine follows_bind_same fun stated => follows_bind_same fun content => ?_
    refine (follows_compileBodyVariants h hf).bind fun variants variants' hvariants => ?_
    rw [eq_map_of_becomes hvariants, (morphism_renamed f).unionOf?]
    cases unionOf? variants with
    | none => exact follows_fail _
    | some v =>
      refine follows_bind_same fun required => follows_pure (.some ?_)
      split
      · rfl
      · have hunion : renamed f (unionOf v [.object [] .closed]) =
          unionOf (v.renamed f) [.object [] .closed] := (morphism_renamed f).unionOf
        exact hunion.symm

/-! ## Requests -/

omit h hf in
theorem becomes_joinRequest {parameters parameters' body body' : Option Validator}
    (hparameters : Option.Rel (Becomes f) parameters parameters')
    (hbody : Option.Rel (Becomes f) body body') :
    (joinRequest parameters body).Becomes f (joinRequest parameters' body') := by
  cases hbody with
  | none =>
    cases hparameters with
    | none => rfl
    | some hv => exact hv
  | @some w _ hw =>
    cases hparameters with
    | none => exact hw
    | @some v _ hv =>
      rw [hv, hw]
      have hjoined : renamed f (intersectionOf v [w]) = intersectionOf (v.renamed f) [w.renamed f] :=
        (morphism_renamed f).intersectionOf
      exact hjoined.symm

/-! ## Responses -/

theorem follows_compileHeader {path : String} {key : Scalar} {raw raw' : Value}
    (hraw : Counterpart s.document s'.document SameFields raw raw') :
    Follows excused (Entrywise (Becomes f)) (compileHeader s side path key raw)
      (compileHeader s' side path key raw') := by
  unfold compileHeader
  refine follows_bind_same fun name => ?_
  refine (follows_lift (hraw.resolve _)).bind fun header header' hfields => ?_
  rw [hfields.getOrNull "schema", hfields.getOrNull "required"]
  refine follows_bind_same fun raw => ?_
  split
  · exact follows_fail _
  · refine follows_bind_same fun schema => follows_bind_same fun required => ?_
    refine (Schema.compileValue_renamed h hf schema).bind fun c c' hc => ?_
    exact follows_pure ⟨rfl, hc.validator⟩

theorem follows_compileHeaders {response response' : Value} {path : String}
    (hresponse : ResponseAlike s.document s'.document response response') :
    Follows excused (List.Forall₂ (Entrywise (Becomes f))) (compileHeaders s side response path)
      (compileHeaders s' side response' path) := by
  unfold compileHeaders
  rw [lift_bind_assoc, lift_bind_assoc]
  refine (follows_lift hresponse.headers).bind fun declared declared' hdeclared => ?_
  refine (Follows.mapM (hdeclared.imp ?_)).bind fun headers headers' hheaders =>
    follows_pure (forall₂_gather hheaders)
  rintro ⟨key, raw⟩ ⟨_, raw'⟩ ⟨rfl, hraw⟩
  exact follows_compileHeader h hf hraw

theorem follows_compileVariant {status path : String} {code : Validator}
    {headers headers' : List (String × Validator)} {key : Scalar} {media : Value}
    (hcode : code.Becomes f code) (hheaders : List.Forall₂ (Entrywise (Becomes f)) headers headers') :
    Follows excused (Becomes f) (compileVariant s status code headers path key media)
      (compileVariant s' status code headers' path key media) := by
  unfold compileVariant
  refine follows_bind_same fun contentType => ?_
  refine (follows_compileMedia h hf).bind fun body body' hbody => follows_pure ?_
  exact becomes_object (.cons ⟨rfl, hcode⟩ (forall₂_payloadFields hbody hheaders))

omit h hf in
theorem statusLiteral_becomes {status : String} {code : Validator}
    (h : statusLiteral status = .ok code) : code.Becomes f code := by
  unfold statusLiteral at h
  dsimp only at h
  split at h
  · split at h
    · cases h
      rfl
    · cases h
  · cases h
    rfl

theorem follows_compileStatus {key : Scalar} {raw raw' : Value} {path : String}
    (hraw : Counterpart s.document s'.document (ResponseAlike s.document s'.document) raw raw') :
    Follows excused (Becomes f) (compileStatus s side key raw path)
      (compileStatus s' side key raw' path) := by
  unfold compileStatus
  refine (follows_lift (hraw.resolve _)).bind fun response response' hresponse => ?_
  have hcontent : response'.getOrNull "content" = response.getOrNull "content" := by
    unfold Value.getOrNull
    rw [hresponse.fields "content" (by decide) (by decide)]
  have hcode : Agree (fun code code' => code = code' ∧ code.Becomes f code)
      (statusLiteral key.display) (statusLiteral key.display) :=
    .of_eq rfl fun code hcode => ⟨rfl, statusLiteral_becomes hcode⟩
  rw [hcontent]
  refine (follows_lift hcode).bind ?_
  rintro code _ ⟨rfl, hcode⟩
  refine (follows_compileHeaders h hf hresponse).bind fun headers headers' hheaders => ?_
  refine follows_bind_same fun content => ?_
  split
  · refine follows_pure (becomes_object (.cons ⟨rfl, hcode⟩ (.cons ⟨rfl, rfl⟩ ?_)))
    rw [← hheaders.isEmpty_eq]
    cases headers.isEmpty with
    | true => exact .nil
    | false => exact .cons ⟨rfl, becomes_object hheaders⟩ .nil
  · refine follows_bind_same fun entries => ?_
    have hvariants : ∀ e ∈ entries, Follows excused (Becomes f)
        (compileVariant s key.display code headers (statusPlace path key) e.1 e.2)
        (compileVariant s' key.display code headers' (statusPlace path key) e.1 e.2) :=
      fun e _ => follows_compileVariant h hf hcode hheaders
    exact (Follows.mapM (List.forall₂_same.2 hvariants)).bind fun _ _ hv => follows_union hv

end Steps

/-! ## Operations -/

/-- The request and the response under other names. -/
def renamed (f : String → String) (o : Operation) : Operation :=
  { o with request := o.request.renamed f, response := o.response.renamed f }

variable {document document' operation operation' pathParameters pathParameters' : Value}
  {namePrefix namePrefix' path : String} {mode : Mode}

theorem Counterparts.compileSecurity_eq
    (hcounterparts : Counterparts document document' operation operation' pathParameters
      pathParameters') : compileSecurity document' operation' = compileSecurity document operation := by
  unfold compileSecurity
  rw [hcounterparts.security, hcounterparts.documentSecurity]

theorem Counterparts.settings
    (hcounterparts : Counterparts document document' operation operation' pathParameters
      pathParameters')
    (hnames : ∀ name, namePrefix' ++ name = f (namePrefix ++ name)) (side : Side) (use : Use) :
    (sideSetting document namePrefix side use).Renames f
      (sideSetting document' namePrefix' side use) where
  crossing := rfl
  use := rfl
  name key := by
    unfold Setting.declarationName sideSetting
    dsimp only
    rw [String.append_assoc, String.append_assoc, hnames]
  schemas := hcounterparts.schemas

section Counterparts

variable (hcounterparts : Counterparts document document' operation operation' pathParameters
    pathParameters')
  (hf : Function.Injective f) (hnames : ∀ name, namePrefix' ++ name = f (namePrefix ++ name))

include hcounterparts hf hnames

theorem follows_compileRequest :
    Follows excused (Becomes f)
      (compileRequest mode namePrefix document operation path pathParameters)
      (compileRequest mode namePrefix' document' operation' path pathParameters') := by
  have hs := hcounterparts.settings hnames (Side.of mode .request) .request
  unfold compileRequest
  refine (follows_lift hcounterparts.pathParameters.resolveParameters).bind
    fun ofPath ofPath' hpath => ?_
  refine (follows_lift hcounterparts.parameters).bind fun raw raw' hraw => ?_
  refine (follows_lift hraw.resolveParameters).bind fun own own' hown => ?_
  refine (follows_lift (agree_mergeParameters (fun _ _ => Parameter.Alike.identity) hpath hown)).bind
    fun merged merged' hmerged => ?_
  refine (Follows.mapM (hmerged.imp fun p p' hp => follows_compileParameter hs hf hp)).bind
    fun compiled compiled' hcompiled => ?_
  refine (follows_lift (agree_parameterObject hcompiled)).bind fun object object' hobject => ?_
  refine (follows_compileBody hs hf hcounterparts.body).bind fun body body' hbody => ?_
  exact follows_pure (becomes_joinRequest hobject hbody)

theorem follows_compileResponse :
    Follows excused (Becomes f) (compileResponse mode namePrefix document operation path)
      (compileResponse mode namePrefix' document' operation' path) := by
  have hs := hcounterparts.settings hnames (Side.of mode .response) .response
  unfold compileResponse
  refine (follows_lift hcounterparts.responses).bind fun responses responses' hresponses => ?_
  rw [hresponses.isVacant]
  split
  · exact follows_fail _
  · refine (follows_lift hresponses.entries).bind fun entries entries' hentries => ?_
    refine (Follows.mapM (hentries.imp ?_)).bind fun _ _ hv => follows_union hv
    rintro ⟨key, raw⟩ ⟨_, raw'⟩ ⟨rfl, hraw⟩
    exact follows_compileStatus hs hf hraw

/-- Counterparts compile to the same operation under the other names. -/
theorem compile_counterparts {method route : String} :
    Reported.Alike (fun o o' => o' = o.renamed f)
      (compile document operation method route mode namePrefix path pathParameters)
      (compile document' operation' method route mode namePrefix' path pathParameters') := by
  rw [alike_iff_follows]
  unfold compile
  rw [hcounterparts.compileSecurity_eq]
  refine (follows_compileRequest hcounterparts hf hnames).bind fun request request' hrequest => ?_
  refine (follows_compileResponse hcounterparts hf hnames).bind fun response response' hresponse => ?_
  refine follows_bind_same fun security => follows_pure ?_
  rw [hrequest, hresponse]
  rfl

end Counterparts

end Operation

end ApiContract
