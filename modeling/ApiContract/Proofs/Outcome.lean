import ApiContract.Fault.Basic
import Mathlib.Data.List.Forall2

/-!
# Outcomes

What it takes for a computation in steps to succeed: a sequence succeeds when each step does
(`bind_eq_ok`), a walk through a list when each item does (`mapM_eq_ok`). The result of a reported
computation is the computation of its results (`result_mapM`, `result_foldlM`), so that questions of
success are asked in `Except` alone.
-/

namespace ApiContract

namespace Outcome

variable {ε α β : Type}

theorem bind_eq_ok {x : Except ε α} {f : α → Except ε β} {b : β} :
    (x >>= f) = .ok b ↔ ∃ a, x = .ok a ∧ f a = .ok b := by
  cases x <;> simp [bind, Except.bind]

theorem bind_congr_of_ok {x : Except ε α} {f g : α → Except ε β} (h : ∀ a, x = .ok a → f a = g a) :
    x >>= f = x >>= g := by
  cases x with
  | ok a => exact h a rfl
  | error e => rfl

theorem map_eq_ok {x : Except ε α} {f : α → β} {b : β} :
    f <$> x = .ok b ↔ ∃ a, x = .ok a ∧ f a = b := by
  cases x <;> simp [Functor.map, Except.map]

theorem pure_eq_ok {a b : α} : (pure a : Except ε α) = .ok b ↔ a = b := by
  simp [pure, Except.pure]

/-- What is read off the result of a computation tells that it succeeds. -/
theorem eq_ok_of_toOption {x : Except ε α} {f : α → β} {b : β} (h : x.toOption.map f = some b) :
    ∃ a, x = .ok a ∧ f a = b := by
  cases x with
  | ok a => exact ⟨a, rfl, by simpa [Except.toOption] using h⟩
  | error e => simp [Except.toOption] at h

theorem mapM_eq_ok {f : α → Except ε β} {xs : List α} {ys : List β} :
    xs.mapM f = .ok ys ↔ List.Forall₂ (fun x y => f x = .ok y) xs ys := by
  induction xs generalizing ys with
  | nil => cases ys <;> simp [pure_eq_ok]
  | cons x xs ih =>
    simp only [List.mapM_cons, bind_eq_ok, pure_eq_ok, ih, List.forall₂_cons_left_iff]
    constructor
    · rintro ⟨y, hy, ys, hys, rfl⟩
      exact ⟨y, ys, hy, hys, rfl⟩
    · rintro ⟨y, ys, hy, hys, rfl⟩
      exact ⟨y, hy, ys, hys, rfl⟩

theorem mapM_eq_map {f : α → Except ε β} {g : α → β} {xs : List α}
    (h : ∀ x ∈ xs, f x = .ok (g x)) : xs.mapM f = .ok (xs.map g) := by
  rw [mapM_eq_ok, List.forall₂_map_right_iff, List.forall₂_same]
  exact h

/-- A walk ends with the error of the first item that has one. -/
theorem mapM_eq_error {f : α → Except ε β} {before : List α} {x : α} {e : ε}
    (hbefore : ∀ a ∈ before, ∃ b, f a = .ok b) (hx : f x = .error e) (after : List α) :
    (before ++ x :: after).mapM f = .error e := by
  induction before with
  | nil =>
    rw [List.nil_append, List.mapM_cons, hx]
    rfl
  | cons a before ih =>
    simp only [List.mem_cons, forall_eq_or_imp] at hbefore
    obtain ⟨⟨b, ha⟩, hbefore⟩ := hbefore
    rw [List.cons_append, List.mapM_cons, ha, ih hbefore]
    rfl

/-- A walk that keeps some of the results succeeds when each item does, kept or not. -/
theorem filterMapM_eq_ok {f : α → Except ε (Option β)} {xs : List α} {ys : List β} :
    xs.filterMapM f = .ok ys ↔
      ∃ kept, List.Forall₂ (fun x y => f x = .ok y) xs kept ∧ ys = kept.filterMap id := by
  induction xs generalizing ys with
  | nil => simp [pure, Except.pure, eq_comm]
  | cons x xs ih =>
    simp only [List.filterMapM_cons, bind_eq_ok, List.forall₂_cons_left_iff]
    constructor
    · rintro ⟨_ | y, hx, h⟩
      · obtain ⟨kept, hkept, rfl⟩ := ih.1 h
        exact ⟨none :: kept, ⟨none, kept, hx, hkept, rfl⟩, rfl⟩
      · obtain ⟨rest, hrest, h⟩ := bind_eq_ok.1 h
        obtain rfl := pure_eq_ok.1 h
        obtain ⟨kept, hkept, rfl⟩ := ih.1 hrest
        exact ⟨some y :: kept, ⟨some y, kept, hx, hkept, rfl⟩, rfl⟩
    · rintro ⟨_, ⟨_ | y, kept, hx, hkept, rfl⟩, rfl⟩
      · exact ⟨none, hx, ih.2 ⟨kept, hkept, rfl⟩⟩
      · exact ⟨some y, hx, bind_eq_ok.2 ⟨_, ih.2 ⟨kept, hkept, rfl⟩, rfl⟩⟩

theorem uncompilable_ne_ok {cause : Cause} {path : String} {a : α} :
    (uncompilable cause path : Except Fault α) ≠ .ok a := nofun

theorem asText_eq_ok {key : Scalar} {s : String} : key.asText = .ok s ↔ key = .text s := by
  cases key <;> simp [Scalar.asText]

/-- A step that fails under a condition leaves only the case in which it does not hold. -/
theorem unless_fail_eq_ok {p : Prop} [Decidable p] {fault : Fault} {f : β → Reported α}
    {x : Reported α} {a : α} :
    (if p then Reported.fail fault >>= f else x).result = .ok a ↔ ¬ p ∧ x.result = .ok a := by
  by_cases h : p
  · simp only [h, ↓reduceIte, Reported.result_bind, not_true_eq_false, false_and, iff_false]
    exact nofun
  · simp [h]

/-! ## Failure -/

/-- Every error that the computation can end with has a property. -/
def FailsAs (P : ε → Prop) (x : Except ε α) : Prop := ∀ e, x = .error e → P e

variable {P : ε → Prop}

@[simp] theorem failsAs_ok (a : α) : FailsAs P (.ok a : Except ε α) := nofun

@[simp] theorem failsAs_pure (a : α) : FailsAs P (pure a : Except ε α) := failsAs_ok a

@[simp] theorem failsAs_error {e : ε} : FailsAs P (.error e : Except ε α) ↔ P e := by
  simp [FailsAs]

theorem FailsAs.imp {P' : ε → Prop} {x : Except ε α} (h : FailsAs P x) (hP : ∀ e, P e → P' e) :
    FailsAs P' x := fun e he => hP e (h e he)

@[simp] theorem failsAs_bind {x : Except ε α} {f : α → Except ε β} :
    FailsAs P (x >>= f) ↔ FailsAs P x ∧ ∀ a, x = .ok a → FailsAs P (f a) := by
  cases x <;> simp [bind, Except.bind]

theorem FailsAs.bind {x : Except ε α} {f : α → Except ε β} (hx : FailsAs P x)
    (hf : ∀ a, x = .ok a → FailsAs P (f a)) : FailsAs P (x >>= f) :=
  failsAs_bind.2 ⟨hx, hf⟩

@[simp] theorem failsAs_map {x : Except ε α} {f : α → β} : FailsAs P (f <$> x) ↔ FailsAs P x := by
  cases x <;> simp [Functor.map, Except.map]

@[simp] theorem failsAs_ite {p : Prop} [Decidable p] {x y : Except ε α} :
    FailsAs P (if p then x else y) ↔ (p → FailsAs P x) ∧ (¬ p → FailsAs P y) := by
  split <;> simp [*]

theorem failsAs_mapM {f : α → Except ε β} {xs : List α} (h : ∀ x ∈ xs, FailsAs P (f x)) :
    FailsAs P (xs.mapM f) := by
  induction xs with
  | nil => exact failsAs_ok []
  | cons x rest ih =>
    rw [List.mapM_cons]
    simp only [List.mem_cons, forall_eq_or_imp] at h
    exact h.1.bind fun _ _ => (ih h.2).bind fun _ _ => failsAs_ok _

theorem failsAs_filterMapM {f : α → Except ε (Option β)} {xs : List α}
    (h : ∀ x ∈ xs, FailsAs P (f x)) : FailsAs P (xs.filterMapM f) := by
  induction xs with
  | nil => exact failsAs_ok []
  | cons x rest ih =>
    rw [List.filterMapM_cons]
    simp only [List.mem_cons, forall_eq_or_imp] at h
    refine h.1.bind fun kept _ => ?_
    cases kept with
    | none => exact ih h.2
    | some b => exact (ih h.2).bind fun _ _ => failsAs_ok _

theorem failsAs_foldlM {f : β → α → Except ε β} {xs : List α} {b : β}
    (h : ∀ b, ∀ x ∈ xs, FailsAs P (f b x)) : FailsAs P (xs.foldlM f b) := by
  induction xs generalizing b with
  | nil => exact failsAs_ok b
  | cons x rest ih =>
    rw [List.foldlM_cons]
    simp only [List.mem_cons, forall_eq_or_imp, forall_and] at h
    exact (h.1 b).bind fun _ _ => ih h.2

/-- An error that a computation does not end with comes of what follows it. -/
theorem FailsAs.bind_eq_error {x : Except ε α} {f : α → Except ε β} {e : ε} (hx : FailsAs P x)
    (he : ¬ P e) : (x >>= f) = .error e ↔ ∃ a, x = .ok a ∧ f a = .error e := by
  cases x with
  | ok a => exact ⟨fun h => ⟨a, rfl, h⟩, fun ⟨_, heq, h⟩ => Except.ok.inj heq ▸ h⟩
  | error e' =>
    constructor
    · rintro ⟨⟩
      exact absurd (failsAs_error.1 hx) he
    · rintro ⟨a, ⟨⟩, -⟩

/-- A walk ends with an error at the first item where there is one. -/
theorem foldlM_eq_error {f : β → α → Except ε β} {xs : List α} {b : β} {e : ε} :
    xs.foldlM f b = .error e ↔ ∃ before x after b', xs = before ++ x :: after ∧
      before.foldlM f b = .ok b' ∧ f b' x = .error e := by
  induction xs generalizing b with
  | nil => simp [pure, Except.pure]
  | cons x rest ih =>
    rw [List.foldlM_cons]
    constructor
    · cases hx : f b x with
      | error e' =>
        rintro ⟨⟩
        exact ⟨[], x, rest, b, rfl, rfl, hx⟩
      | ok b' =>
        intro h
        obtain ⟨before, y, after, b'', rfl, hbefore, hy⟩ := ih.1 h
        refine ⟨x :: before, y, after, b'', rfl, ?_, hy⟩
        rw [List.foldlM_cons, hx]
        exact hbefore
    · rintro ⟨_ | ⟨_, before⟩, y, after, b'', heq, hbefore, hy⟩
      · cases heq
        cases hbefore
        rw [hy]
        rfl
      · cases heq
        rw [List.foldlM_cons, bind_eq_ok] at hbefore
        obtain ⟨b', hx, hbefore⟩ := hbefore
        rw [hx]
        exact ih.2 ⟨before, y, after, b'', rfl, hbefore, hy⟩

/-! ## Where a walk ends -/

/-- The items that a walk comes to: all up to the first at which it fails. -/
def reached (f : α → Except ε β) : List α → List α
  | [] => []
  | x :: rest =>
    x :: match f x with
      | .ok _ => reached f rest
      | .error _ => []

@[simp] theorem reached_nil (f : α → Except ε β) : reached f [] = [] := rfl

@[simp] theorem reached_singleton (f : α → Except ε β) (x : α) : reached f [x] = [x] := by
  rw [reached]
  cases f x <;> rfl

theorem reached_cons_of_ok {f : α → Except ε β} {x : α} {y : β} (h : f x = .ok y) (rest : List α) :
    reached f (x :: rest) = x :: reached f rest := by
  rw [reached, h]

theorem reached_cons_of_error {f : α → Except ε β} {x : α} {e : ε} (h : f x = .error e)
    (rest : List α) : reached f (x :: rest) = [x] := by
  rw [reached, h]

theorem mem_of_mem_reached {f : α → Except ε β} {x : α} {xs : List α} (h : x ∈ reached f xs) :
    x ∈ xs := by
  induction xs with
  | nil => cases h
  | cons y rest ih =>
    cases hy : f y with
    | ok z =>
      rw [reached_cons_of_ok hy, List.mem_cons] at h
      exact List.mem_cons.2 (h.imp_right ih)
    | error e =>
      rw [reached_cons_of_error hy, List.mem_singleton] at h
      exact List.mem_cons.2 (.inl h)

/-- Items that a walk does not come to do not matter. -/
theorem mapM_congr_of_reached {f g : α → Except ε β} {xs : List α}
    (h : ∀ x ∈ reached f xs, g x = f x) : xs.mapM g = xs.mapM f := by
  induction xs with
  | nil => rfl
  | cons x rest ih =>
    have hx : g x = f x := h x List.mem_cons_self
    rw [List.mapM_cons, List.mapM_cons, hx]
    cases hf : f x with
    | error e => rfl
    | ok y =>
      have hrest : ∀ x' ∈ reached f rest, g x' = f x' := by
        rw [reached_cons_of_ok hf] at h
        exact fun x' hx' => h x' (List.mem_cons_of_mem x hx')
      rw [ih hrest]

/-- A walk like another, but for errors that the other does not end with, ends with one of them if there
is one among the items that the other comes to. -/
theorem mapM_fails_of_reached {f g : α → Except ε β} {xs : List α}
    (h : ∀ x ∈ reached f xs, g x = f x ∨ ∃ e, g x = .error e ∧ P e)
    (hfails : ∃ x ∈ reached f xs, ∃ e, g x = .error e ∧ P e) :
    ∃ e, xs.mapM g = .error e ∧ P e := by
  induction xs with
  | nil =>
    obtain ⟨x, hx, -⟩ := hfails
    cases hx
  | cons x rest ih =>
    rw [List.mapM_cons]
    have herror {e : ε} (hx : g x = .error e) (he : P e) :
        ∃ e, (do let y ← g x; let ys ← rest.mapM g; pure (y :: ys)) = .error e ∧ P e :=
      ⟨e, by rw [hx]; rfl, he⟩
    rcases h x List.mem_cons_self with hx | ⟨e, hx, he⟩
    · cases hf : f x with
      | error e =>
        -- The walk ends here, so this is the item at which it fails.
        rw [reached_cons_of_error hf] at hfails
        obtain ⟨x', hx', e', hg, he'⟩ := hfails
        rw [List.mem_singleton.1 hx'] at hg
        exact herror hg he'
      | ok y =>
        rw [reached_cons_of_ok hf] at h hfails
        simp only [List.mem_cons, forall_eq_or_imp, exists_eq_or_imp] at h hfails
        rcases hfails with ⟨e, hg, he⟩ | hfails
        · exact herror hg he
        · obtain ⟨e, hrest, he⟩ := ih h.2 hfails
          rw [hx, hf, hrest]
          exact ⟨e, rfl, he⟩
    · exact herror hx he

/-! ## What is given -/

/-- What the computation gives, if it succeeds, has a property. -/
def Gives (Q : α → Prop) (x : Except ε α) : Prop := ∀ a, x = .ok a → Q a

variable {Q : α → Prop} {R : β → Prop}

theorem gives_ok {a : α} (h : Q a) : Gives Q (.ok a : Except ε α) := by
  rintro _ ⟨⟩
  exact h

theorem gives_error (e : ε) : Gives Q (.error e : Except ε α) := nofun

theorem Gives.bind {x : Except ε α} {f : α → Except ε β} (hx : Gives Q x)
    (hf : ∀ a, Q a → Gives R (f a)) : Gives R (x >>= f) := by
  cases x with
  | ok a => exact hf a (hx a rfl)
  | error e => exact gives_error e

theorem Gives.map {x : Except ε α} {f : α → β} (hx : Gives Q x) (hf : ∀ a, Q a → R (f a)) :
    Gives R (f <$> x) := by
  cases x with
  | ok a => exact gives_ok (hf a (hx a rfl))
  | error e => exact gives_error e

/-- Steps that do not matter for what is given. -/
theorem gives_any (x : Except ε α) : Gives (fun _ => True) x := fun _ _ => trivial

/-- What a walk starts with and each of its steps keeps, it ends with. -/
theorem gives_foldlM {f : α → β → Except ε α} {xs : List β} {a : α} (ha : Q a)
    (hf : ∀ a, ∀ x ∈ xs, Q a → Gives Q (f a x)) : Gives Q (xs.foldlM f a) := by
  induction xs generalizing a with
  | nil => exact gives_ok ha
  | cons x rest ih =>
    rw [List.foldlM_cons]
    simp only [List.mem_cons, forall_eq_or_imp, forall_and] at hf
    exact (hf.1 a ha).bind fun b hb => ih hb hf.2

/-- The computation gives a value with the one property, or ends with an error that has the other. -/
structure Ends (P : ε → Prop) (Q : α → Prop) (x : Except ε α) : Prop where
  fails : FailsAs P x
  gives : Gives Q x

theorem Ends.ok {a : α} (h : Q a) : Ends P Q (.ok a : Except ε α) := ⟨failsAs_ok a, gives_ok h⟩

theorem FailsAs.bind_ends {x : Except ε α} {f : α → Except ε β} (hx : FailsAs P x)
    (hf : ∀ a, x = .ok a → Ends P R (f a)) : Ends P R (x >>= f) where
  fails := hx.bind fun a ha => (hf a ha).fails
  gives := by
    cases x with
    | ok a => exact (hf a rfl).gives
    | error e => exact gives_error e

theorem Ends.mapM {f : α → Except ε β} {xs : List α} (h : ∀ x ∈ xs, Ends P R (f x)) :
    Ends P (fun ys => ∀ y ∈ ys, R y) (xs.mapM f) := by
  induction xs with
  | nil => exact .ok nofun
  | cons x rest ih =>
    rw [List.mapM_cons]
    simp only [List.mem_cons, forall_eq_or_imp] at h
    refine h.1.fails.bind_ends fun y hy => (ih h.2).fails.bind_ends fun ys hys => .ok ?_
    simp only [List.mem_cons, forall_eq_or_imp]
    exact ⟨h.1.gives y hy, (ih h.2).gives ys hys⟩

end Outcome

/-- A cause within one part of a document: neither a cycle of declarations nor a second operation of one
name. -/
@[simp] def Cause.IsLocal : Cause → Prop
  | .cycle _ | .duplicateOperation _ => False
  | _ => True

namespace Reported

variable {α β : Type}

theorem lift_pure (a : α) : (liftM (pure a : Except Fault α) : Reported α) = pure a := rfl

theorem lift_bind (x : Except Fault α) (f : α → Except Fault β) :
    (liftM (x >>= f) : Reported β) = (liftM x : Reported α) >>= fun a => liftM (f a) := by
  cases x <;> rfl

theorem lift_bind_assoc {γ : Type} (x : Except Fault α) (f : α → Except Fault β)
    (k : β → Reported γ) : (liftM x : Reported α) >>= (fun a => (liftM (f a) : Reported β) >>= k) =
      (liftM (x >>= f) : Reported β) >>= k := by
  rw [lift_bind, bind_assoc]

theorem result_mapM (f : α → Reported β) (xs : List α) :
    (xs.mapM f).result = xs.mapM fun x => (f x).result := by
  induction xs with
  | nil => rfl
  | cons x xs ih => simp only [List.mapM_cons, result_bind, result_pure, ih]; rfl

theorem result_foldlM (f : β → α → Reported β) (xs : List α) (b : β) :
    (xs.foldlM f b).result = xs.foldlM (fun b x => (f b x).result) b := by
  induction xs generalizing b with
  | nil => rfl
  | cons x xs ih => simp only [List.foldlM_cons, result_bind, ih]

/-! ## Failure -/

open Outcome

variable {P : Fault → Prop}

@[simp] theorem failsAs_result_ite {p : Prop} [Decidable p] {x y : Reported α} :
    FailsAs P (if p then x else y).result ↔
      (p → FailsAs P x.result) ∧ (¬ p → FailsAs P y.result) := by
  rw [apply_ite Reported.result, failsAs_ite]

@[simp] theorem failsAs_result_map {x : Reported α} {f : α → β} :
    FailsAs P (f <$> x).result ↔ FailsAs P x.result := by
  rw [← bind_pure_comp, result_bind, failsAs_bind]
  simp

/-- A step that fails under a condition. -/
theorem failsAs_unless_fail {p : Prop} [Decidable p] {fault : Fault} {f : β → Reported α}
    {x : Reported α} :
    FailsAs P (if p then fail fault >>= f else x).result ↔
      (p → P fault) ∧ (¬ p → FailsAs P x.result) := by
  have hfail : FailsAs P (fail fault >>= f).result ↔ P fault := by
    rw [result_bind]
    exact failsAs_error
  rw [failsAs_result_ite, hfail]

theorem failsAs_result_bind {x : Reported α} {f : α → Reported β} (hx : FailsAs P x.result)
    (hf : ∀ a, FailsAs P (f a).result) : FailsAs P (x >>= f).result := by
  rw [result_bind]
  exact hx.bind fun a _ => hf a

theorem failsAs_result_mapM {f : α → Reported β} {xs : List α}
    (h : ∀ x ∈ xs, FailsAs P (f x).result) : FailsAs P (xs.mapM f).result := by
  rw [result_mapM]
  exact failsAs_mapM h

theorem failsAs_result_foldlM {f : β → α → Reported β} {xs : List α} {b : β}
    (h : ∀ b, ∀ x ∈ xs, FailsAs P (f b x).result) : FailsAs P (xs.foldlM f b).result := by
  rw [result_foldlM]
  exact failsAs_foldlM h

end Reported

end ApiContract

namespace List

variable {α β : Type} {R : α → β → Prop} {S : α → β → Prop} {xs : List α} {ys : List β}

/-- What is met on one side of a pairing is met on the other. -/
theorem Forall₂.exists_iff {P : α → Prop} {Q : β → Prop} (h : Forall₂ R xs ys)
    (hR : ∀ x y, R x y → (P x ↔ Q y)) : (∃ x ∈ xs, P x) ↔ ∃ y ∈ ys, Q y := by
  induction h with
  | nil => simp
  | cons hxy _ ih => simp [hR _ _ hxy, ih]

theorem Forall₂.forall_iff {P : α → Prop} {Q : β → Prop} (h : Forall₂ R xs ys)
    (hR : ∀ x y, R x y → (P x ↔ Q y)) : (∀ x ∈ xs, P x) ↔ ∀ y ∈ ys, Q y := by
  induction h with
  | nil => simp
  | cons hxy _ ih => simp [hR _ _ hxy, ih]

theorem Forall₂.exists_right (h : Forall₂ R xs ys) {x : α} (hx : x ∈ xs) : ∃ y ∈ ys, R x y := by
  induction h with
  | nil => cases hx
  | cons hxy _ ih =>
    rcases mem_cons.1 hx with rfl | hx
    · exact ⟨_, mem_cons_self, hxy⟩
    · obtain ⟨y, hy, hxy⟩ := ih hx
      exact ⟨y, mem_cons_of_mem _ hy, hxy⟩

theorem Forall₂.exists_left (h : Forall₂ R xs ys) {y : β} (hy : y ∈ ys) : ∃ x ∈ xs, R x y :=
  h.flip.exists_right hy

theorem Forall₂.exists_getElem? (h : Forall₂ R xs ys) {i : Nat} {y : β} (hy : ys[i]? = some y) :
    ∃ x, xs[i]? = some x ∧ R x y := by
  induction h generalizing i with
  | nil => cases hy
  | cons hxy _ ih =>
    cases i with
    | zero =>
      cases hy
      exact ⟨_, rfl, hxy⟩
    | succ i => exact ih hy

theorem Forall₂.map_eq {γ : Type} {f : α → γ} {g : β → γ} (h : Forall₂ R xs ys)
    (hR : ∀ x y, R x y → f x = g y) : xs.map f = ys.map g := by
  induction h with
  | nil => rfl
  | cons hxy _ ih => rw [map_cons, map_cons, hR _ _ hxy, ih]

theorem Forall₂.isEmpty_eq (h : Forall₂ R xs ys) : xs.isEmpty = ys.isEmpty := by
  cases h <;> rfl

theorem Forall₂.any_eq {p : α → Bool} {q : β → Bool} (h : Forall₂ R xs ys)
    (hpq : ∀ x y, R x y → p x = q y) : xs.any p = ys.any q := by
  induction h with
  | nil => rfl
  | cons hxy _ ih => rw [any_cons, any_cons, hpq _ _ hxy, ih]

/-- What is looked for on both sides in the same way is found in one pair or on neither side. -/
theorem Forall₂.rel_find? {p : α → Bool} {q : β → Bool} (h : Forall₂ R xs ys)
    (hpq : ∀ x y, R x y → p x = q y) : Option.Rel R (xs.find? p) (ys.find? q) := by
  induction h with
  | nil => exact .none
  | @cons x y _ _ hxy _ ih =>
    rw [find?_cons, find?_cons, hpq x y hxy]
    cases q y with
    | true => exact .some hxy
    | false => exact ih

/-- A pairing that leads through a third thing each time leads through a third list. -/
theorem Forall₂.exists_between {γ : Type} {S : α → γ → Prop} {T : γ → β → Prop}
    (h : Forall₂ R xs ys) (hR : ∀ x y, R x y → ∃ z, S x z ∧ T z y) :
    ∃ zs, Forall₂ S xs zs ∧ Forall₂ T zs ys := by
  induction h with
  | nil => exact ⟨[], .nil, .nil⟩
  | cons hxy _ ih =>
    obtain ⟨z, hS, hT⟩ := hR _ _ hxy
    obtain ⟨zs, hSs, hTs⟩ := ih
    exact ⟨z :: zs, .cons hS hSs, .cons hT hTs⟩

theorem Forall₂.imp_of_mem (h : Forall₂ R xs ys) (hRS : ∀ x ∈ xs, ∀ y, R x y → S x y) :
    Forall₂ S xs ys := by
  induction h with
  | nil => exact .nil
  | cons hxy _ ih =>
    simp only [mem_cons, forall_eq_or_imp] at hRS
    exact .cons (hRS.1 _ hxy) (ih hRS.2)

/-- A pairing of the items with their positions is a pairing of the items. -/
theorem Forall₂.of_zipIdx {R : α × Nat → β → Prop} {i : Nat} (h : Forall₂ R (xs.zipIdx i) ys)
    (hRS : ∀ x ∈ xs, ∀ i y, R (x, i) y → S x y) : Forall₂ S xs ys := by
  induction xs generalizing i ys with
  | nil => cases h; exact .nil
  | cons x xs ih =>
    rw [zipIdx_cons] at h
    obtain ⟨y, ys, hy, hys, rfl⟩ := forall₂_cons_left_iff.1 h
    simp only [mem_cons, forall_eq_or_imp] at hRS
    exact .cons (hRS.1 _ _ hy) (ih hys hRS.2)

end List
