import ApiContract.Operation.Compile
import ApiContract.Proofs.Counterpart
import ApiContract.Proofs.Operation.Entries
import ApiContract.Proofs.Schema.Compiled

/-!
# Operations that are counterparts

Two operations, each in its document, are counterparts when whatever is read of the first has its
counterpart in the second: parameters, the body, responses and their headers (`Counterparts`). Parameters
that are counterparts are merged alike: `agree_mergeParameters`.
-/

namespace List

variable {α β : Type} {R : α → β → Prop} {xs : List α} {ys : List β}

theorem Forall₂.zipIdx (h : Forall₂ R xs ys) (i : Nat) :
    Forall₂ (fun x y => R x.1 y.1 ∧ x.2 = y.2) (xs.zipIdx i) (ys.zipIdx i) := by
  induction h generalizing i with
  | nil => exact .nil
  | cons hxy _ ih =>
    rw [zipIdx_cons, zipIdx_cons]
    exact .cons ⟨hxy, rfl⟩ (ih (i + 1))

end List

namespace ApiContract.Operation

open Outcome

/-- The members of two lists that may be left out are counterparts. -/
def MembersAlike (document document' raw raw' : Value) : Prop :=
  Agree (List.Forall₂ (Counterpart document document' SameFields)) raw.membersOrNone raw'.membersOrNone

/-- Two request bodies, each of which may be left out. -/
structure BodyAlike (document document' body body' : Value) : Prop where
  isNull : body'.isNull = body.isNull
  counterpart : Counterpart document document' SameFields body body'

/-- Two responses whose headers are counterparts and whose other fields are the same. -/
structure ResponseAlike (document document' response response' : Value) : Prop where
  fields : ∀ key, key ≠ "$ref" → key ≠ "headers" → response'.get key = response.get key
  headers : Agree (List.Forall₂ (Entrywise (Counterpart document document' SameFields)))
    (response.getOrNull "headers" >>= Value.entriesOrNone)
    (response'.getOrNull "headers" >>= Value.entriesOrNone)

/-- Two values that hold responses by status, any of which may be left out. -/
structure ResponsesAlike (document document' responses responses' : Value) : Prop where
  isVacant : responses'.isVacant = responses.isVacant
  entries : Agree (List.Forall₂ (Entrywise
      (Counterpart document document' (ResponseAlike document document'))))
    responses.entries responses'.entries

/-- Whatever is read of the first operation, with the parameters of its path, has its counterpart in the
second one. -/
structure Counterparts (document document' operation operation' pathParameters pathParameters' : Value) :
    Prop where
  /-- References to schemas lead somewhere in both documents or in none. -/
  schemas : ∀ target key, Schema.componentKey? target = some key →
    Agree (fun _ _ => True) (Pointer.find document target) (Pointer.find document' target)
  pathParameters : MembersAlike document document' pathParameters pathParameters'
  parameters : Agree (MembersAlike document document') (operation.getOrNull "parameters")
    (operation'.getOrNull "parameters")
  body : Agree (BodyAlike document document') (operation.getOrNull "requestBody")
    (operation'.getOrNull "requestBody")
  responses : Agree (ResponsesAlike document document') (operation.getOrNull "responses")
    (operation'.getOrNull "responses")
  security : operation'.getOrNull "security" = operation.getOrNull "security"
  documentSecurity : document'.getOrNull "security" = document.getOrNull "security"

/-! ## An operation is its own counterpart -/

section Same

variable (document : Value)

theorem membersAlike_refl (raw : Value) : MembersAlike document document raw raw :=
  .of_eq rfl fun _ _ => List.forall₂_same.2 fun v _ => counterpart_refl SameFields.refl v

theorem responseAlike_refl (response : Value) : ResponseAlike document document response response where
  fields _ _ _ := rfl
  headers := .of_eq rfl fun _ _ =>
    List.forall₂_same.2 fun e _ => ⟨rfl, counterpart_refl SameFields.refl e.2⟩

theorem responsesAlike_refl (responses : Value) :
    ResponsesAlike document document responses responses where
  isVacant := rfl
  entries := .of_eq rfl fun _ _ =>
    List.forall₂_same.2 fun e _ => ⟨rfl, counterpart_refl (responseAlike_refl document) e.2⟩

theorem counterparts_refl (operation pathParameters : Value) :
    Counterparts document document operation operation pathParameters pathParameters where
  schemas _ _ _ := .of_eq rfl fun _ _ => trivial
  pathParameters := membersAlike_refl document pathParameters
  parameters := .of_eq rfl fun raw _ => membersAlike_refl document raw
  body := .of_eq rfl fun body _ => ⟨rfl, counterpart_refl SameFields.refl body⟩
  responses := .of_eq rfl fun responses _ => responsesAlike_refl document responses
  security := rfl
  documentSecurity := rfl

end Same

/-! ## Parameters -/

variable {document document' : Value}

/-- Two parameters at one place with the same fields. -/
structure Parameter.Alike (p p' : Parameter) : Prop where
  path : p'.path = p.path
  fields : SameFields p.fields p'.fields

/-- Parameters whose fields compare as those of the values that they are resolved from. -/
theorem agree_resolveParameters {Same : Value → Value → Prop} {raw raw' : Value} {path : String}
    (h : Agree (List.Forall₂ (Counterpart document document' Same)) raw.membersOrNone
      raw'.membersOrNone) :
    Agree (List.Forall₂ fun p p' => p'.path = p.path ∧ Same p.fields p'.fields)
      (resolveParameters document raw path) (resolveParameters document' raw' path) := by
  refine h.bind fun _ _ hmembers => .mapM ((hmembers.zipIdx 0).imp ?_)
  rintro ⟨v, i⟩ ⟨v', _⟩ ⟨hv, rfl⟩
  exact (hv.resolve _).bind fun _ _ hfields => .ok ⟨rfl, hfields⟩

theorem MembersAlike.resolveParameters {raw raw' : Value} {path : String}
    (h : MembersAlike document document' raw raw') :
    Agree (List.Forall₂ Parameter.Alike) (resolveParameters document raw path)
      (resolveParameters document' raw' path) :=
  (agree_resolveParameters h).imp fun _ _ hs => hs.imp fun _ _ hp => ⟨hp.1, hp.2⟩

theorem Parameter.Alike.identity {p p' : Parameter} (h : p.Alike p') : p'.identity = p.identity := by
  unfold Parameter.identity
  rw [h.fields.get "name", h.fields.get "in"]

/-- Only the identities of parameters matter for how they are merged. -/
theorem agree_mergeParameters {R : Parameter → Parameter → Prop}
    {ofPath ofPath' ofOperation ofOperation' : List Parameter}
    (hidentity : ∀ p p', R p p' → p'.identity = p.identity) (hpath : List.Forall₂ R ofPath ofPath')
    (hoperation : List.Forall₂ R ofOperation ofOperation') :
    Agree (List.Forall₂ R) (mergeParameters ofPath ofOperation)
      (mergeParameters ofPath' ofOperation') := by
  have hown : Agree (List.Forall₂ Eq) (ofOperation.mapM Parameter.identity)
      (ofOperation'.mapM Parameter.identity) :=
    .mapM (hoperation.imp fun p p' hp => .of_eq (hidentity p p' hp).symm fun _ _ => rfl)
  unfold mergeParameters
  refine hown.bind fun own own' heq => ?_
  obtain rfl : own = own' := List.forall₂_eq_eq_eq ▸ heq
  refine Agree.bind (R := List.Forall₂ R) (.filterMapM (hpath.imp fun p p' hp => ?_))
    fun kept kept' hkept => .ok (List.rel_append hkept hoperation)
  rw [hidentity p p' hp]
  refine .bind_same fun identity _ => ?_
  dsimp only
  split
  · exact .ok .none
  · exact .ok (.some hp)

end ApiContract.Operation
