import ApiContract.Proofs.Operation.Variants
import ApiContract.Proofs.Validator.Junction

/-!
# Nested variants

A status with several content types has a union of its own. Where it is the first status of a response,
this union is opened, and where it is a later one, it stays nested among the variants of the response:
`nested_behind_first`.
-/

namespace ApiContract

namespace Operation

open Outcome Validator

variable {s : Setting} {side : Side} {path : String}

/-- The response of a status has several content types. -/
def SeveralContents (document : Value) (path : String) (status : Scalar × Value) : Prop :=
  ∃ response content types,
    Pointer.resolve document status.2 (statusPlace path status.1) = .ok response ∧
      response.getOrNull "content" = .ok content ∧ content.entries = .ok types ∧ 1 < types.length

theorem not_joins_object {fields : List (String × Validator)} {extra : ExtraPolicy} :
    ¬ Junction.union.Joins (.object fields extra) := nofun

theorem not_joins_of_compileVariant {status : String} {code v : Validator}
    {headers : List (String × Validator)} {key : Scalar} {media : Value}
    (h : (compileVariant s status code headers path key media).result = .ok v) :
    ¬ Junction.union.Joins v := by
  simp only [compileVariant, Reported.result_bind, Reported.result_lift, Reported.result_pure,
    bind_eq_ok, Except.ok.injEq] at h
  obtain ⟨_, -, _, -, rfl⟩ := h
  exact not_joins_object

/-- The variants of one status are no union within a union, and a union at all only if there are
several. -/
theorem joins_compileStatus_iff {key : Scalar} {raw : Value} {v : Validator}
    (h : (compileStatus s side key raw path).result = .ok v) :
    Junction.union.IsFlat v ∧
      (Junction.union.Joins v ↔ SeveralContents s.document path (key, raw)) := by
  simp only [compileStatus, Reported.result_bind, Reported.result_lift, bind_eq_ok] at h
  obtain ⟨response, hresponse, code, -, headers, -, content, hcontent, h⟩ := h
  -- The number of content types decides, since a status has one response only.
  have hcount {types : List (Scalar × Value)} (htypes : content.entries = .ok types) :
      SeveralContents s.document path (key, raw) ↔ 1 < types.length := by
    constructor
    · rintro ⟨_, _, _, hresponse', hcontent', htypes', hseveral⟩
      obtain rfl := Except.ok.inj (hresponse.symm.trans hresponse')
      obtain rfl := Except.ok.inj (hcontent.symm.trans hcontent')
      obtain rfl := Except.ok.inj (htypes.symm.trans htypes')
      exact hseveral
    · exact fun hseveral => ⟨response, content, types, hresponse, hcontent, htypes, hseveral⟩
  split at h
  next hvacant =>
    obtain rfl := Except.ok.inj h
    have hnone : ¬ SeveralContents s.document path (key, raw) := by
      rintro ⟨_, _, types, hresponse', hcontent', htypes, hseveral⟩
      obtain rfl := Except.ok.inj (hresponse.symm.trans hresponse')
      obtain rfl := Except.ok.inj (hcontent.symm.trans hcontent')
      rw [entries_of_isVacant hvacant htypes] at hseveral
      cases hseveral
    exact ⟨Junction.isFlat_of_not_joins not_joins_object, iff_of_false not_joins_object hnone⟩
  next =>
    simp only [Reported.result_bind, Reported.result_lift, Reported.result_mapM, bind_eq_ok,
      mapM_eq_ok] at h
    obtain ⟨types, htypes, variants, hvariants, h⟩ := h
    have hobjects : ∀ w ∈ variants, ¬ Junction.union.Joins w := fun w hw => by
      obtain ⟨_, -, hcompiled⟩ := hvariants.exists_left hw
      exact not_joins_of_compileVariant hcompiled
    cases hunion : unionOf? variants with
    | none => simp [hunion] at h
    | some union =>
      simp only [hunion, Reported.result_pure, Except.ok.injEq] at h
      subst h
      rw [hcount htypes, hvariants.length_eq]
      exact Junction.isFlat_and_joins_of_fold? hobjects hunion

/-- A response that compiles is flat exactly when no status but the first has several content types. -/
theorem isFlat_compileResponse_iff {mode : Mode} {namePrefix : String} {document operation : Value}
    {v : Validator}
    (h : (compileResponse mode namePrefix document operation path).result = .ok v) :
    ∃ responses statuses, operation.getOrNull "responses" = .ok responses ∧
      responses.entries = .ok statuses ∧
      (Junction.union.IsFlat v ↔ ∀ status ∈ statuses.tail, ¬ SeveralContents document path status) := by
  simp only [compileResponse, Reported.result_bind, Reported.result_lift, Reported.result_mapM,
    bind_eq_ok, mapM_eq_ok, unless_fail_eq_ok] at h
  obtain ⟨responses, hresponses, -, statuses, hstatuses, variants, hvariants, h⟩ := h
  refine ⟨responses, statuses, hresponses, hstatuses, ?_⟩
  cases hunion : unionOf? variants with
  | none => simp [hunion] at h
  | some union =>
    simp only [hunion, Reported.result_pure, Except.ok.injEq] at h
    subst h
    cases hvariants with
    | nil => cases hunion
    | @cons _ first _ rest hfirst hrest =>
      have hflat := (joins_compileStatus_iff hfirst).1
      cases rest with
      | nil =>
        cases hrest
        obtain rfl : first = union := Option.some.inj hunion
        simpa using hflat
      | cons =>
        rw [Junction.isFlat_of_fold?_iff hflat hunion, List.tail_cons]
        exact (hrest.forall_iff fun status v hv => not_congr (joins_compileStatus_iff hv).2.symm).symm

/-- A fold opens a junction where it comes first, and nests those that come later. So a fold whose first
validator is flat is flat exactly when no other one is a junction, and the response of an operation
exactly when no status but the first has several content types. -/
theorem nested_behind_first (j : Junction) {first : Validator} (second : Validator)
    (rest : List Validator) (hfirst : j.IsFlat first) :
    (∃ members, j.fold? (first :: second :: rest) = some (j.join members) ∧
        (∀ m, j.Joins m → (m ∈ members ↔ m ∈ second :: rest)) ∧
        (j.IsFlat (j.join members) ↔ ∀ w ∈ second :: rest, ¬ j.Joins w)) ∧
      ∀ (mode : Mode) (namePrefix path : String) (document operation : Value) (v : Validator),
        (compileResponse mode namePrefix document operation path).result = .ok v →
        ∃ responses statuses, operation.getOrNull "responses" = .ok responses ∧
          responses.entries = .ok statuses ∧
          (Junction.union.IsFlat v ↔
            ∀ status ∈ statuses.tail, ¬ SeveralContents document path status) := by
  refine ⟨?_, fun _ _ _ _ _ _ h => isFlat_compileResponse_iff h⟩
  obtain ⟨members, hfold, hnested⟩ := Junction.nested_of_fold? second rest hfirst
  exact ⟨members, hfold, hnested, Junction.isFlat_of_fold?_iff hfirst hfold⟩

/-- A response in two forms. -/
def twoForms : Value :=
  .object [("content",
    .object [typedMedia "application/json" "string", typedMedia "text/plain" "string"])]

/-- An operation with two statuses. -/
def twoStatuses (first second : Value) : Value :=
  .object [("responses", .object [("200", first), ("400", second)])]

/-- The same two statuses make a flat response in one order, and not in the other; and an intersection
behind another validator is nested. -/
theorem nested_behind_first_forms :
    (∃ v, (compileResponse .handler "" (.object []) (twoStatuses twoForms (.object [])) "#").result =
        .ok v ∧ Junction.union.IsFlat v) ∧
      (∃ v, (compileResponse .handler "" (.object []) (twoStatuses (.object []) twoForms) "#").result =
        .ok v ∧ ¬ Junction.union.IsFlat v) ∧
      ∃ v, intersectionOf? [.never, .intersection [.noContent, .ref "Moss"]] = some v ∧
        ¬ Junction.intersection.IsFlat v := by
  have hnever : Junction.intersection.IsFlat .never := Junction.isFlat_of_not_joins nofun
  obtain ⟨⟨members, hfold, -, hflat⟩, hresponses⟩ := nested_behind_first .intersection
    (.intersection [.noContent, .ref "Moss"]) [] hnever
  refine ⟨?_, ?_, ?_⟩
  · obtain ⟨v, hv⟩ : ∃ v, (compileResponse .handler "" (.object [])
        (twoStatuses twoForms (.object [])) "#").result = .ok v := ⟨_, rfl⟩
    obtain ⟨_, _, hstated, hentries, hflat⟩ := hresponses _ _ _ _ _ _ hv
    cases hstated
    cases hentries
    refine ⟨v, hv, hflat.2 fun status hstatus => ?_⟩
    obtain rfl := List.mem_singleton.1 hstatus
    rintro ⟨_, _, _, hresponse, hcontent, htypes, -⟩
    cases hresponse
    cases hcontent
    cases htypes
  · obtain ⟨v, hv⟩ : ∃ v, (compileResponse .handler "" (.object [])
        (twoStatuses (.object []) twoForms) "#").result = .ok v := ⟨_, rfl⟩
    obtain ⟨_, _, hstated, hentries, hflat⟩ := hresponses _ _ _ _ _ _ hv
    cases hstated
    cases hentries
    refine ⟨v, hv, fun h => hflat.1 h _ List.mem_cons_self ?_⟩
    exact ⟨_, _, _, rfl, rfl, rfl, by decide⟩
  · exact ⟨_, hfold, fun h => hflat.1 h _ List.mem_cons_self ⟨_, rfl⟩⟩

end Operation

end ApiContract
