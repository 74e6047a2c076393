import ApiContract.Contract.Basic
import ApiContract.Proofs.Operation.Request

/-!
# Faults without a place

Much of what is read from a document can only go wrong in ways that tell no place in it: a value has a
shape that nothing provides for, or a record is rejected. So these steps fail as any property asks that
holds of all such faults (`HoldsUnplaced`).
-/

namespace ApiContract

open Outcome Reported

/-- A property of faults that those without a place all have. -/
class HoldsUnplaced (P : Fault → Prop) : Prop where
  unexpected : P .unexpected
  rejected (rejection : Rejection) : P (.rejected rejection)

variable {P : Fault → Prop} [HoldsUnplaced P]

@[simp high] theorem failsAs_unexpected {α : Type} : FailsAs P (.error .unexpected : Except Fault α) :=
  failsAs_error.2 HoldsUnplaced.unexpected

@[simp high] theorem failsAs_rejected {α : Type} {rejection : Rejection} :
    FailsAs P (.error (.rejected rejection) : Except Fault α) :=
  failsAs_error.2 (HoldsUnplaced.rejected rejection)

/-! ## Reading values -/

@[simp] theorem failsAs_accept {α : Type} (record : String) (x : Checked α) :
    FailsAs P (x.accept record) := by
  cases x <;> simp [Checked.accept]

/-- A record that is as wanted whatever its fields hold is accepted so, or rejected as a whole. -/
theorem ends_accept_map {α β : Type} {Q : β → Prop} {f : α → β} {x : Checked α} {record : String}
    (h : ∀ a, Q (f a)) : Ends P Q ((f <$> x).accept record) := by
  refine ⟨failsAs_accept record _, ?_⟩
  cases x with
  | ok a => exact gives_ok (h a)
  | issues found => exact gives_error _

theorem ends_accept_seq {α β γ : Type} {Q : γ → Prop} {f : α → β → γ} {x : Checked α}
    {y : Checked β} {record : String} (h : ∀ a b, Q (f a b)) :
    Ends P Q ((f <$> x <*> y).accept record) := by
  refine ⟨failsAs_accept record _, ?_⟩
  cases x with
  | ok a =>
    cases y with
    | ok b => exact gives_ok (h a b)
    | issues found => exact gives_error _
  | issues found => cases y <;> exact gives_error _

@[simp] theorem failsAs_asText (key : Scalar) : FailsAs P key.asText := by
  cases key <;> simp [Scalar.asText]

namespace Value

variable (v : Value) (key : String)

@[simp] theorem failsAs_get : FailsAs P (v.get key) := by
  unfold Value.get
  split <;> simp

@[simp] theorem failsAs_getOrNull : FailsAs P (v.getOrNull key) := by simp [getOrNull]

@[simp] theorem failsAs_entries : FailsAs P v.entries := by
  unfold Value.entries
  split <;> simp

@[simp] theorem failsAs_members : FailsAs P v.members := by
  unfold Value.members
  split <;> simp

@[simp] theorem failsAs_entriesOrNone : FailsAs P v.entriesOrNone := by
  unfold Value.entriesOrNone
  split <;> simp

@[simp] theorem failsAs_membersOrNone : FailsAs P v.membersOrNone := by
  unfold Value.membersOrNone
  split <;> simp

end Value

/-! ## Schemas -/

namespace Schema

@[simp] theorem failsAs_discriminatorOf (raw : Value) : FailsAs P (discriminatorOf raw) := by
  unfold discriminatorOf
  dsimp only
  split <;> simp

end Schema

/-! ## Operations -/

namespace Operation

@[simp] theorem failsAs_idOf (operation : Value) (method route : String) :
    FailsAs P (idOf operation method route) := by simp [idOf]

@[simp] theorem failsAs_scalarOf (v : Value) : FailsAs P (scalarOf v) := by
  unfold scalarOf
  split <;> simp

@[simp] theorem failsAs_identity (p : Parameter) : FailsAs P p.identity := by
  simp [Parameter.identity]

@[simp] theorem failsAs_mergeParameters (ofPath ofOperation : List Parameter) :
    FailsAs P (mergeParameters ofPath ofOperation) := by
  simp [mergeParameters, failsAs_mapM, failsAs_filterMapM]

@[simp] theorem failsAs_readStyle (fields : Value) : FailsAs P (readStyle fields) := by
  simp [readStyle]

@[simp] theorem failsAs_groupKey (location : Location) (name : Value) :
    FailsAs P (groupKey location name) := by
  unfold groupKey
  split <;> simp

@[simp] theorem failsAs_closedObject (fields : List (Scalar × Validator)) :
    FailsAs P (closedObject fields) := by
  unfold closedObject
  dsimp only
  split <;> simp

@[simp] theorem failsAs_parameterObject (compiled : List (Location × Scalar × Validator)) :
    FailsAs P (parameterObject compiled) := by
  rw [parameterObject_eq]
  refine failsAs_bind.2 ⟨failsAs_filterMapM fun g _ => ?_, by simp⟩
  unfold groupField
  split <;> simp

@[simp] theorem failsAs_statusLiteral (status : String) : FailsAs P (statusLiteral status) := by
  unfold statusLiteral
  dsimp only
  split
  · split <;> simp
  · simp

/-- The last step of a response: its variants, of which there is one at least. -/
@[simp] theorem failsAs_union {variants : List Validator} :
    FailsAs P (match Validator.unionOf? variants with
      | some v => pure v
      | none => Reported.fail .unexpected : Reported Validator).result := by
  split <;> simp

@[simp] theorem failsAs_readRequirement (key : Scalar) (scopes : Value) :
    FailsAs P (readRequirement key scopes) := by
  simp [readRequirement]

@[simp] theorem failsAs_compileSecurity (document operation : Value) :
    FailsAs P (compileSecurity document operation) := by
  simp [compileSecurity, failsAs_mapM]

end Operation

/-! ## Service configuration -/

namespace Service

@[simp] theorem failsAs_firstServer (servers : Value) : FailsAs P (firstServer servers) := by
  unfold firstServer
  split
  · simp
  · split <;> simp
  · simp

@[simp] theorem failsAs_readScheme (name : String) (declared : Value) :
    FailsAs P (readScheme name declared) := by
  simp [readScheme]

@[simp] theorem failsAs_componentsOf (document : Value) (part : String) :
    FailsAs P (componentsOf document part) := by
  simp [componentsOf]

end Service

end ApiContract
