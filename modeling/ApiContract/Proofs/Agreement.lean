import ApiContract.Proofs.Outcome

/-!
# Computations that agree

Two computations agree when both succeed with related results or both end with the same fault; reported
ones also give the same warnings (`Alike`). `Follows` excuses some faults of the first, and `Together` asks
only that both succeed, with related results, or none. All of this is kept by taking steps in sequence and
by walking through lists (`Follows.bind`, `Follows.mapM`, `AgreeUpTo.foldlM`), so that it is shown of two
programs one step at a time.
-/

namespace ApiContract

namespace Outcome

variable {ε α β γ δ : Type} {R : α → β → Prop} {S : γ → δ → Prop}

/-- Both succeed with related results, or both end with the same error. -/
inductive Agree (R : α → β → Prop) : Except ε α → Except ε β → Prop where
  | ok {a : α} {b : β} (h : R a b) : Agree R (.ok a) (.ok b)
  | error (e : ε) : Agree R (.error e) (.error e)

theorem Agree.of_eq {R : α → α → Prop} {x y : Except ε α} (h : x = y) (hR : ∀ a, x = .ok a → R a a) :
    Agree R x y := by
  subst h
  cases x with
  | ok a => exact .ok (hR a rfl)
  | error e => exact .error e

theorem Agree.imp {x : Except ε α} {y : Except ε β} {T : α → β → Prop} (h : Agree R x y)
    (hRT : ∀ a b, R a b → T a b) : Agree T x y := by
  cases h with
  | ok h => exact .ok (hRT _ _ h)
  | error e => exact .error e

theorem Agree.symm {x : Except ε α} {y : Except ε β} (h : Agree R x y) :
    Agree (fun b a => R a b) y x := by
  cases h with
  | ok h => exact .ok h
  | error e => exact .error e

/-- Two computations that agree with the same third one agree with each other. -/
theorem Agree.of_common {T : α → γ → Prop} {x : Except ε α} {y : Except ε β} {z : Except ε γ}
    (hy : Agree R x y) (hz : Agree T x z) : Agree (fun b c => ∃ a, R a b ∧ T a c) y z := by
  cases hy with
  | ok hb =>
    cases hz with
    | ok hc => exact .ok ⟨_, hb, hc⟩
  | error e =>
    cases hz with
    | error => exact .error e

/-- What is related are the results. -/
theorem Agree.and_ok {x : Except ε α} {y : Except ε β} (h : Agree R x y) :
    Agree (fun a b => R a b ∧ x = .ok a ∧ y = .ok b) x y := by
  cases h with
  | ok h => exact .ok ⟨h, rfl, rfl⟩
  | error e => exact .error e

theorem Agree.bind {x : Except ε α} {y : Except ε β} {f : α → Except ε γ} {g : β → Except ε δ}
    (h : Agree R x y) (hf : ∀ a b, R a b → Agree S (f a) (g b)) : Agree S (x >>= f) (y >>= g) := by
  cases h with
  | ok h => exact hf _ _ h
  | error e => exact .error e

/-- Steps that follow the same computation only have to agree on its result. -/
theorem Agree.bind_same {x : Except ε α} {f : α → Except ε γ} {g : α → Except ε δ}
    (h : ∀ a, x = .ok a → Agree S (f a) (g a)) : Agree S (x >>= f) (x >>= g) := by
  cases x with
  | ok a => exact h a rfl
  | error e => exact .error e

theorem Agree.mapM {γ' : Type} {xs : List γ} {ys : List γ'} {f : γ → Except ε α}
    {g : γ' → Except ε β} (h : List.Forall₂ (fun x y => Agree R (f x) (g y)) xs ys) :
    Agree (List.Forall₂ R) (xs.mapM f) (ys.mapM g) := by
  induction h with
  | nil => exact .ok .nil
  | cons hxy _ ih =>
    rw [List.mapM_cons, List.mapM_cons]
    exact hxy.bind fun a b hab => ih.bind fun as bs habs => .ok (.cons hab habs)

/-- Walks that keep some of the results agree when each of their steps keeps related results or none. -/
theorem Agree.filterMapM {γ' : Type} {xs : List γ} {ys : List γ'} {f : γ → Except ε (Option α)}
    {g : γ' → Except ε (Option β)}
    (h : List.Forall₂ (fun x y => Agree (Option.Rel R) (f x) (g y)) xs ys) :
    Agree (List.Forall₂ R) (xs.filterMapM f) (ys.filterMapM g) := by
  induction h with
  | nil => exact .ok .nil
  | cons hxy _ ih =>
    rw [List.filterMapM_cons, List.filterMapM_cons]
    refine hxy.bind fun a b hab => ?_
    cases hab with
    | none => exact ih
    | some hab => exact ih.bind fun as bs habs => .ok (.cons hab habs)

theorem Agree.eq_ok {x : Except ε α} {y : Except ε β} (h : Agree R x y) {a : α} (hx : x = .ok a) :
    ∃ b, y = .ok b ∧ R a b := by
  cases h with
  | ok h =>
    cases hx
    exact ⟨_, rfl, h⟩
  | error e => cases hx

theorem Agree.eq_error {x : Except ε α} {y : Except ε β} (h : Agree R x y) {e : ε}
    (hx : x = .error e) : y = .error e := by
  cases h with
  | ok h => cases hx
  | error e =>
    cases hx
    rfl

theorem Agree.eq {x y : Except ε α} (h : Agree Eq x y) : x = y := by
  cases h with
  | ok h => rw [h]
  | error e => rfl

/-! ## Errors that are related -/

variable {ε' : Type} {E : ε → ε' → Prop}

/-- Both succeed with related results, or both end with related errors. -/
inductive AgreeUpTo (E : ε → ε' → Prop) (R : α → β → Prop) : Except ε α → Except ε' β → Prop where
  | ok {a : α} {b : β} (h : R a b) : AgreeUpTo E R (.ok a) (.ok b)
  | error {e : ε} {e' : ε'} (h : E e e') : AgreeUpTo E R (.error e) (.error e')

theorem agree_iff_upTo {x : Except ε α} {y : Except ε β} : Agree R x y ↔ AgreeUpTo Eq R x y := by
  constructor
  · rintro (h | e)
    · exact .ok h
    · exact .error rfl
  · rintro (h | ⟨⟨⟩⟩)
    · exact .ok h
    · exact .error _

/-- Two computations that agree do so up to a relation in which all their errors stand to themselves. -/
theorem Agree.upTo {E : ε → ε → Prop} {x : Except ε α} {y : Except ε β} (h : Agree R x y)
    (hE : FailsAs (fun e => E e e) x) : AgreeUpTo E R x y := by
  cases h with
  | ok h => exact .ok h
  | error e => exact .error (hE e rfl)

theorem AgreeUpTo.bind {x : Except ε α} {y : Except ε' β} {f : α → Except ε γ} {g : β → Except ε' δ}
    (h : AgreeUpTo E R x y) (hf : ∀ a b, x = .ok a → R a b → AgreeUpTo E S (f a) (g b)) :
    AgreeUpTo E S (x >>= f) (y >>= g) := by
  cases h with
  | ok h => exact hf _ _ rfl h
  | error h => exact .error h

theorem AgreeUpTo.foldlM {T : γ → δ → Prop} {xs : List γ} {ys : List δ} {a : α} {b : β}
    {f : α → γ → Except ε α} {g : β → δ → Except ε' β} (hxs : List.Forall₂ T xs ys) (hab : R a b)
    (hf : ∀ a b x y, R a b → T x y → AgreeUpTo E R (f a x) (g b y)) :
    AgreeUpTo E R (xs.foldlM f a) (ys.foldlM g b) := by
  induction hxs generalizing a b with
  | nil => exact .ok hab
  | cons hxy _ ih =>
    rw [List.foldlM_cons, List.foldlM_cons]
    exact (hf _ _ _ _ hab hxy).bind fun a b _ h => ih h

/-- Where results and errors are those of the first computation, mapped, the second is the first one
mapped. -/
theorem AgreeUpTo.eq_map {x : Except ε α} {y : Except ε' β} {g : α → β} {k : ε → ε'}
    (h : AgreeUpTo (fun e e' => k e = e') (fun a b => g a = b) x y) : (x.map g).mapError k = y := by
  cases h with
  | ok h => exact congrArg _ h
  | error h => exact congrArg _ h

theorem AgreeUpTo.mapM {γ' : Type} {xs : List γ} {ys : List γ'} {f : γ → Except ε α}
    {g : γ' → Except ε' β} (h : List.Forall₂ (fun x y => AgreeUpTo E R (f x) (g y)) xs ys) :
    AgreeUpTo E (List.Forall₂ R) (xs.mapM f) (ys.mapM g) := by
  induction h with
  | nil => exact .ok .nil
  | cons hxy _ ih =>
    rw [List.mapM_cons, List.mapM_cons]
    exact hxy.bind fun a b _ hab => ih.bind fun as bs _ habs => .ok (.cons hab habs)

/-! ## Success alone -/

/-- Both succeed with related results, or both fail, with whatever errors. -/
abbrev Together (R : α → β → Prop) : Except ε α → Except ε' β → Prop := AgreeUpTo (fun _ _ => True) R

theorem Agree.together {x : Except ε α} {y : Except ε β} (h : Agree R x y) : Together R x y :=
  h.upTo fun _ _ => trivial

theorem together_same (x : Except ε α) : Together Eq x x := (Agree.of_eq rfl fun _ _ => rfl).together

theorem together_of_ok {x : Except ε α} {y : Except ε' β}
    (left : ∀ a, x = .ok a → ∃ b, y = .ok b ∧ R a b) (right : ∀ b, y = .ok b → ∃ a, x = .ok a) :
    Together R x y := by
  cases x with
  | ok a =>
    obtain ⟨b, rfl, hab⟩ := left a rfl
    exact .ok hab
  | error e =>
    cases y with
    | ok b => exact nomatch right b rfl
    | error e' => exact .error trivial

theorem together_iff {x : Except ε α} {y : Except ε' α} :
    Together Eq x y ↔ ∀ a, x = .ok a ↔ y = .ok a := by
  constructor
  · rintro (⟨⟨⟩⟩ | _) a
    · simp
    · simp
  · intro h
    exact together_of_ok (fun a ha => ⟨a, (h a).1 ha, rfl⟩) fun a ha => ⟨a, (h a).2 ha⟩

theorem together_uncompilable (cause cause' : Cause) (path path' : String) :
    Together R (uncompilable cause path : Except Fault α) (uncompilable cause' path' : Except Fault β) :=
  .error trivial

theorem Together.bind_eq {x : Except ε α} {y : Except ε' α} {f : α → Except ε γ}
    {g : α → Except ε' δ} (h : Together Eq x y) (hf : ∀ a, x = .ok a → Together S (f a) (g a)) :
    Together S (x >>= f) (y >>= g) := by
  refine AgreeUpTo.bind h ?_
  rintro a _ ha rfl
  exact hf a ha

theorem Together.mapM_eq {γ' : Type} {xs : List γ} {ys : List γ'} {f : γ → Except ε α}
    {g : γ' → Except ε' α} (h : List.Forall₂ (fun x y => Together Eq (f x) (g y)) xs ys) :
    Together Eq (xs.mapM f) (ys.mapM g) := by
  have hlists := AgreeUpTo.mapM h
  rwa [List.forall₂_eq_eq_eq] at hlists

end Outcome

namespace Reported

open Outcome

variable {α β γ δ : Type} {R : α → β → Prop} {S : γ → δ → Prop} {excused : Fault → Prop}

/-- The computations give the same warnings and agree. -/
def Alike (R : α → β → Prop) (x : Reported α) (y : Reported β) : Prop :=
  x.warnings = y.warnings ∧ Agree R x.result y.result

/-- The second computation is like the first one, unless that ends with an excused fault. -/
def Follows (excused : Fault → Prop) (R : α → β → Prop) (x : Reported α) (y : Reported β) : Prop :=
  (∃ fault, x.result = .error fault ∧ excused fault) ∨ x.Alike R y

theorem Alike.imp {x : Reported α} {y : Reported β} {T : α → β → Prop} (h : x.Alike R y)
    (hRT : ∀ a b, R a b → T a b) : x.Alike T y := ⟨h.1, h.2.imp hRT⟩

theorem Alike.symm {x : Reported α} {y : Reported β} (h : x.Alike R y) :
    y.Alike (fun b a => R a b) x := ⟨h.1.symm, h.2.symm⟩

theorem alike_same (x : Reported α) : x.Alike Eq x := ⟨rfl, .of_eq rfl fun _ _ => rfl⟩

theorem Alike.eq {x y : Reported α} (h : x.Alike Eq y) : x = y := by
  obtain ⟨w, r⟩ := x
  obtain ⟨w', r'⟩ := y
  exact congrArg₂ Reported.mk h.1 h.2.eq

theorem Alike.follows {x : Reported α} {y : Reported β} (h : x.Alike R y) : Follows excused R x y :=
  .inr h

theorem Follows.alike {x : Reported α} {y : Reported β} (h : Follows excused R x y)
    (hx : ∀ fault, excused fault → x.result ≠ .error fault) : x.Alike R y := by
  rcases h with ⟨fault, hfault, hexcused⟩ | h
  · exact absurd hfault (hx fault hexcused)
  · exact h

theorem follows_pure {a : α} {b : β} (h : R a b) : Follows excused R (pure a) (pure b) :=
  .inr ⟨rfl, .ok h⟩

theorem follows_fail (fault : Fault) : Follows excused R (fail fault) (fail fault) :=
  .inr ⟨rfl, .error fault⟩

theorem follows_lift {x : Except Fault α} {y : Except Fault β} (h : Agree R x y) :
    Follows excused R (liftM x : Reported α) (liftM y : Reported β) := .inr ⟨rfl, h⟩

/-- Only the results of the first computation can be excused. -/
theorem follows_lift_of {x : Except Fault α} {y : Except Fault β}
    (h : (∃ fault, x = .error fault ∧ excused fault) ∨ Agree R x y) :
    Follows excused R (liftM x : Reported α) (liftM y : Reported β) :=
  h.imp id fun h => ⟨rfl, h⟩

theorem Alike.bind {x : Reported α} {y : Reported β} {f : α → Reported γ} {g : β → Reported δ}
    (h : x.Alike R y) (hf : ∀ a b, R a b → Follows excused S (f a) (g b)) :
    Follows excused S (x >>= f) (y >>= g) := by
  obtain ⟨w, r⟩ := x
  obtain ⟨_, r'⟩ := y
  obtain ⟨rfl, h⟩ := h
  cases h with
  | error e => exact .inr ⟨rfl, .error e⟩
  | ok h =>
    rcases hf _ _ h with hexcused | ⟨hwarnings, hagree⟩
    · exact .inl hexcused
    · exact .inr ⟨congrArg (w ++ ·) hwarnings, hagree⟩

theorem Follows.bind {x : Reported α} {y : Reported β} {f : α → Reported γ} {g : β → Reported δ}
    (h : Follows excused R x y) (hf : ∀ a b, R a b → Follows excused S (f a) (g b)) :
    Follows excused S (x >>= f) (y >>= g) := by
  rcases h with ⟨fault, hfault, hexcused⟩ | h
  · refine .inl ⟨fault, ?_, hexcused⟩
    rw [result_bind, hfault]
    rfl
  · exact h.bind hf

/-- Steps that follow the same computation only have to follow each other on its result. -/
theorem follows_bind_same {x : Reported α} {f : α → Reported γ} {g : α → Reported δ}
    (h : ∀ a, Follows excused S (f a) (g a)) : Follows excused S (x >>= f) (x >>= g) := by
  refine (alike_same x).bind fun a _ heq => ?_
  subst heq
  exact h a

theorem Follows.mapM {γ' : Type} {xs : List γ} {ys : List γ'} {f : γ → Reported α}
    {g : γ' → Reported β} (h : List.Forall₂ (fun x y => Follows excused R (f x) (g y)) xs ys) :
    Follows excused (List.Forall₂ R) (xs.mapM f) (ys.mapM g) := by
  induction h with
  | nil => exact follows_pure .nil
  | cons hxy _ ih =>
    rw [List.mapM_cons, List.mapM_cons]
    exact hxy.bind fun a b hab => ih.bind fun as bs habs => follows_pure (.cons hab habs)

theorem Follows.foldlM {xs : List γ} {f : α → γ → Reported α} {g : β → γ → Reported β} {a : α} {b : β}
    (hab : R a b) (hf : ∀ a b x, R a b → Follows excused R (f a x) (g b x)) :
    Follows excused R (xs.foldlM f a) (xs.foldlM g b) := by
  induction xs generalizing a b with
  | nil => exact follows_pure hab
  | cons x rest ih =>
    rw [List.foldlM_cons, List.foldlM_cons]
    exact (hf a b x hab).bind fun _ _ h => ih h

theorem alike_iff_follows {x : Reported α} {y : Reported β} :
    x.Alike R y ↔ Follows (fun _ => False) R x y :=
  ⟨.inr, fun h => h.alike nofun⟩

/-! ## Faults that are related -/

variable {E : Fault → Fault → Prop}

/-- The computations give the same warnings and agree up to a relation of their faults. -/
def AlikeUpTo (E : Fault → Fault → Prop) (R : α → β → Prop) (x : Reported α) (y : Reported β) : Prop :=
  x.warnings = y.warnings ∧ AgreeUpTo E R x.result y.result

theorem Alike.upTo {x : Reported α} {y : Reported β} (h : x.Alike R y)
    (hE : FailsAs (fun e => E e e) x.result) : x.AlikeUpTo E R y := ⟨h.1, h.2.upTo hE⟩

theorem alikeUpTo_pure {a : α} {b : β} (h : R a b) : AlikeUpTo E R (pure a) (pure b) := ⟨rfl, .ok h⟩

theorem alikeUpTo_lift {x : Except Fault α} {y : Except Fault β} (h : AgreeUpTo E R x y) :
    AlikeUpTo E R (liftM x : Reported α) (liftM y : Reported β) := ⟨rfl, h⟩

theorem AlikeUpTo.bind {x : Reported α} {y : Reported β} {f : α → Reported γ} {g : β → Reported δ}
    (h : x.AlikeUpTo E R y) (hf : ∀ a b, R a b → (f a).AlikeUpTo E S (g b)) :
    (x >>= f).AlikeUpTo E S (y >>= g) := by
  obtain ⟨w, r⟩ := x
  obtain ⟨_, r'⟩ := y
  obtain ⟨rfl, h⟩ := h
  cases h with
  | error h => exact ⟨rfl, .error h⟩
  | ok h =>
    obtain ⟨hwarnings, hagree⟩ := hf _ _ h
    exact ⟨congrArg (w ++ ·) hwarnings, hagree⟩

/-! ## Success alone -/

/-- Both computations succeed with related results, or both fail. Warnings do not matter. -/
def Together (R : α → β → Prop) (x : Reported α) (y : Reported β) : Prop :=
  Outcome.Together R x.result y.result

theorem Alike.together {x : Reported α} {y : Reported β} (h : x.Alike R y) : x.Together R y :=
  h.2.together

theorem together_refl (x : Reported α) : x.Together Eq x := Outcome.together_same x.result

theorem together_fail (fault fault' : Fault) :
    Together R (fail fault : Reported α) (fail fault' : Reported β) := .error trivial

theorem Together.bind {x : Reported α} {y : Reported β} {f : α → Reported γ} {g : β → Reported δ}
    (h : x.Together R y) (hf : ∀ a b, x.result = .ok a → R a b → (f a).Together S (g b)) :
    (x >>= f).Together S (y >>= g) := by
  unfold Together
  rw [result_bind, result_bind]
  exact AgreeUpTo.bind h hf

theorem Together.bind_eq {x y : Reported α} {f : α → Reported γ} {g : α → Reported δ}
    (h : x.Together Eq y) (hf : ∀ a, x.result = .ok a → (f a).Together S (g a)) :
    (x >>= f).Together S (y >>= g) := by
  refine h.bind ?_
  rintro a _ ha rfl
  exact hf a ha

/-- Steps that follow the same computation only have to go together on its result. -/
theorem together_bind_same {x : Reported α} {f : α → Reported γ} {g : α → Reported δ}
    (h : ∀ a, x.result = .ok a → (f a).Together S (g a)) : (x >>= f).Together S (x >>= g) :=
  (together_refl x).bind_eq h

theorem Together.mapM_eq {γ' : Type} {xs : List γ} {ys : List γ'} {f : γ → Reported α}
    {g : γ' → Reported α} (h : List.Forall₂ (fun x y => (f x).Together Eq (g y)) xs ys) :
    (xs.mapM f).Together Eq (ys.mapM g) := by
  unfold Together
  rw [result_mapM, result_mapM]
  exact Outcome.Together.mapM_eq h

end Reported

end ApiContract
