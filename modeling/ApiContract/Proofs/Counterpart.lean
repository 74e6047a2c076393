import ApiContract.Pointer
import ApiContract.Proofs.Agreement

/-!
# Counterparts of values

Where a reference may stand for a value, one reference is followed and the fields of what it leads to are
read, never a reference among them. A value of another document is the counterpart of such a value when
neither is a reference, when both are the same one, or when it stands in place of a reference, as what
that leads to in one step (`Counterpart`). Counterparts resolve alike: `Counterpart.resolve`.
-/

namespace ApiContract

open Outcome

/-- All fields but a reference are the same. -/
def SameFields (v v' : Value) : Prop := ∀ key, key ≠ "$ref" → v'.get key = v.get key

theorem SameFields.refl (v : Value) : SameFields v v := fun _ _ => rfl

theorem SameFields.get {v v' : Value} (h : SameFields v v') (key : String)
    (hkey : key ≠ "$ref" := by decide) : v'.get key = v.get key := h key hkey

theorem SameFields.getOrNull {v v' : Value} (h : SameFields v v') (key : String)
    (hkey : key ≠ "$ref" := by decide) : v'.getOrNull key = v.getOrNull key := by
  unfold Value.getOrNull
  rw [h key hkey]

/-- `v'` stands in the second document for `v` in the first one, where the values that are read compare
by `Same`. -/
inductive Counterpart (document document' : Value) (Same : Value → Value → Prop) (v v' : Value) :
    Prop where
  /-- Neither is a reference. -/
  | plain (left : v.get? "$ref" = none) (right : v'.get? "$ref" = none) (same : Same v v')
  /-- Both are one reference, which leads to the same or nowhere. -/
  | reference {target : Value} (left : v.get? "$ref" = some target)
      (right : v'.get? "$ref" = some target)
      (leads : ∀ ref, target = .text ref → Pointer.isLocal ref = true →
        Agree Same (Pointer.find document ref) (Pointer.find document' ref))
  /-- In place of a reference stands what it leads to in one step. If that is a reference again, it
  stands there without it, as an object of its other fields. -/
  | target {w : Value} {ref : String} (left : v.get? "$ref" = some (.text ref))
      (isLocal : Pointer.isLocal ref = true) (found : Pointer.find document ref = .ok w)
      (right : v'.get? "$ref" = none) (same : Same w v')

variable {document document' : Value} {Same : Value → Value → Prop}

theorem counterpart_refl (hsame : ∀ v, Same v v) (v : Value) :
    Counterpart document document Same v v := by
  cases h : v.get? "$ref" with
  | none => exact .plain h h (hsame v)
  | some target => exact .reference h h fun _ _ _ => .of_eq rfl fun w _ => hsame w

theorem Pointer.agree_follow {R : Value → Value → Prop} {ref path : String}
    (h : Agree R (find document ref) (find document' ref)) :
    Agree R (follow document ref path) (follow document' ref path) := by
  unfold follow
  generalize find document ref = x at h
  generalize find document' ref = y at h
  cases h with
  | ok h => exact .ok h
  | error problem => exact .error _

theorem Counterpart.resolve {v v' : Value} (h : Counterpart document document' Same v v')
    (path : String) :
    Agree Same (Pointer.resolve document v path) (Pointer.resolve document' v' path) := by
  unfold Pointer.resolve
  cases h with
  | plain left right same =>
    rw [left, right]
    exact .ok same
  | @reference target left right leads =>
    rw [left, right]
    split
    next heq => cases heq
    next ref heq =>
      split
      next hlocal => exact Pointer.agree_follow (leads ref (Option.some.inj heq) hlocal)
      next => exact .error _
    next => exact .error _
  | target left isLocal found right same =>
    rw [left, right]
    simp only [isLocal, ↓reduceIte, Pointer.follow, found]
    exact .ok same

end ApiContract
