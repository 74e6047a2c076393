import ApiContract.Proofs.Validator.Fold

/-!
# Junctions

Validators are joined in two ways, by a union without discriminator or by an intersection, and the folds
of both do the same. The first validator is opened if it is such a junction itself, and all others stand
behind its members as they are: `fold?_of_two`. So a fold accepts what its validators accept together and
keeps their order, whichever of them were junctions before (`fold?_keeps`). But a junction that comes
later stays nested (`nested_of_fold?`).
-/

namespace ApiContract.Validator

/-- The two ways in which validators are joined. -/
inductive Junction where
  | union
  | intersection
  deriving DecidableEq, Repr

namespace Junction

/-- The validator that joins the others. -/
def join : Junction → List Validator → Validator
  | .union, members => .union members none
  | .intersection, members => .intersection members

/-- The members of a validator that is joined in this way. A union with a discriminator is not. -/
def members? : Junction → Validator → Option (List Validator)
  | .union, .union members none => some members
  | .intersection, .intersection members => some members
  | _, _ => none

/-- The fold of validators from left to right. -/
def fold? : Junction → List Validator → Option Validator
  | .union => unionOf?
  | .intersection => intersectionOf?

/-- A junction with one more member: what is no junction of this kind becomes one. -/
def extend : Junction → Validator → Validator → Validator
  | .union => orElse
  | .intersection => andAlso

/-- The members of a junction of this kind, and any other validator alone. -/
def opened (j : Junction) (v : Validator) : List Validator := (j.members? v).getD [v]

/-- What holds of a junction: it holds of some member of a union, or of all that an intersection has. -/
def Among (P : Validator → Prop) (members : List Validator) : Junction → Prop
  | .union => ∃ v ∈ members, P v
  | .intersection => ∀ v ∈ members, P v

variable {j : Junction} {v w first second : Validator} {members rest vs : List Validator}
  {P : Validator → Prop}

/-! ## Folds -/

theorem members?_eq_some : j.members? v = some members ↔ v = j.join members := by
  constructor
  · intro h
    unfold members? at h
    split at h
    next => rw [← Option.some.inj h]; rfl
    next => rw [← Option.some.inj h]; rfl
    next => cases h
  · rintro rfl
    cases j <;> rfl

@[simp] theorem members?_join : j.members? (j.join members) = some members :=
  members?_eq_some.2 rfl

@[simp] theorem opened_join : j.opened (j.join members) = members := by
  rw [opened, members?_join, Option.getD_some]

theorem opened_of_single (h : j.members? v = none) : j.opened v = [v] := by
  rw [opened, h, Option.getD_none]

theorem extend_eq : j.extend v w = j.join (j.opened v ++ [w]) := by
  cases hv : j.members? v with
  | some members =>
    obtain rfl := members?_eq_some.1 hv
    rw [opened_join]
    cases j <;> rfl
  | none =>
    rw [opened_of_single hv]
    cases j with
    | union =>
      cases v with
      | union variants discriminator =>
        cases discriminator with
        | none => cases hv
        | some discriminator => rfl
      | _ => rfl
    | intersection =>
      cases v with
      | intersection parts => cases hv
      | _ => rfl

theorem fold?_cons : j.fold? (first :: rest) = some (rest.foldl j.extend first) := by
  cases j <;> rfl

theorem foldl_extend_join : rest.foldl j.extend (j.join members) = j.join (members ++ rest) := by
  induction rest generalizing members with
  | nil => simp
  | cons v rest ih => rw [List.foldl_cons, extend_eq, opened_join, ih, List.append_assoc]; rfl

/-- Of two validators or more the first one is opened, and no other. -/
theorem fold?_of_two :
    j.fold? (first :: second :: rest) = some (j.join (j.opened first ++ second :: rest)) := by
  rw [fold?_cons, List.foldl_cons, extend_eq, foldl_extend_join, List.append_assoc]
  rfl

theorem exists_fold? (j : Junction) (h : vs ≠ []) : ∃ v, j.fold? vs = some v := by
  cases vs with
  | nil => exact absurd rfl h
  | cons first rest => exact ⟨_, fold?_cons⟩

/-- A fold may be interrupted: what has been folded takes the place of the first validator. -/
theorem fold?_append (h : j.fold? vs = some v) : j.fold? (v :: rest) = j.fold? (vs ++ rest) := by
  cases vs with
  | nil => cases j <;> cases h
  | cons first vs =>
    rw [fold?_cons, Option.some.injEq] at h
    rw [List.cons_append, fold?_cons, fold?_cons, List.foldl_append, h]

/-! ## Meaning -/

/-- The validator takes the value, where a junction takes what some of its members take, or what all of
them do, and `atom` tells what any other validator takes. -/
inductive Takes (atom : Validator → Value → Prop) : Junction → Validator → Value → Prop where
  | variant {variants : List Validator} {w : Validator} {x : Value} (member : w ∈ variants)
    (h : Takes atom .union w x) : Takes atom .union (.union variants none) x
  | parts {parts : List Validator} {x : Value} (h : ∀ w ∈ parts, Takes atom .intersection w x) :
    Takes atom .intersection (.intersection parts) x
  | single {j : Junction} {v : Validator} {x : Value} (single : j.members? v = none) (h : atom v x) :
    Takes atom j v x

section Meaning

variable {atom : Validator → Value → Prop} {x : Value}

theorem takes_join : Takes atom j (j.join members) x ↔ j.Among (Takes atom j · x) members := by
  cases j with
  | union =>
    constructor
    · rintro (⟨member, h⟩ | _ | ⟨⟨⟩, -⟩)
      exact ⟨_, member, h⟩
    · rintro ⟨w, member, h⟩
      exact .variant member h
  | intersection =>
    constructor
    · rintro (_ | h | ⟨⟨⟩, -⟩)
      exact h
    · exact .parts

/-- Members that mean together what a validator means may stand in its place. -/
theorem among_append_congr (h : j.Among P members ↔ P v) :
    j.Among P (members ++ rest) ↔ j.Among P (v :: rest) := by
  cases j with
  | union =>
    have h : (∃ w ∈ members, P w) ↔ P v := h
    simp only [Among, List.mem_append, List.mem_cons, or_and_right, exists_or, exists_eq_left, h]
  | intersection =>
    have h : (∀ w ∈ members, P w) ↔ P v := h
    simp only [Among, List.mem_append, List.mem_cons, or_imp, forall_and, forall_eq, h]

theorem among_singleton : j.Among P [v] ↔ P v := by
  cases j <;> simp [Among]

theorem among_opened : j.Among (Takes atom j · x) (j.opened v) ↔ Takes atom j v x := by
  cases hv : j.members? v with
  | some members =>
    obtain rfl := members?_eq_some.1 hv
    rw [opened_join, takes_join]
  | none => rw [opened_of_single hv, among_singleton]

theorem takes_of_fold? (h : j.fold? vs = some v) :
    Takes atom j v x ↔ j.Among (Takes atom j · x) vs := by
  match vs with
  | [] => cases j <;> cases h
  | [first] =>
    rw [fold?_cons, List.foldl_nil, Option.some.injEq] at h
    rw [h, among_singleton]
  | first :: second :: rest =>
    rw [fold?_of_two, Option.some.injEq] at h
    rw [← h, takes_join, among_append_congr among_opened]

end Meaning

/-! ## Order -/

mutual

/-- The parts of a validator in order: those of all parts of an intersection, and a validator of another
kind alone. -/
def factors : Validator → List Validator
  | .intersection parts => factorsAll parts
  | v => [v]

def factorsAll : List Validator → List Validator
  | [] => []
  | v :: vs => factors v ++ factorsAll vs

end

theorem factorsAll_eq (vs : List Validator) : factorsAll vs = vs.flatMap factors := by
  induction vs with
  | nil => rfl
  | cons v vs ih => rw [factorsAll, ih, List.flatMap_cons]

/-- What a validator consists of in order, where a junction consists of what its members consist of. -/
def leaves : Junction → Validator → List Validator
  | .union => expand
  | .intersection => factors

theorem leaves_join : j.leaves (j.join members) = members.flatMap j.leaves := by
  cases j with
  | union => exact expand_union
  | intersection => rw [leaves, join, factors, factorsAll_eq]

theorem flatMap_leaves_opened : (j.opened v).flatMap j.leaves = j.leaves v := by
  cases hv : j.members? v with
  | some members =>
    obtain rfl := members?_eq_some.1 hv
    rw [opened_join, leaves_join]
  | none => rw [opened_of_single hv, List.flatMap_singleton]

theorem leaves_of_fold? (h : j.fold? vs = some v) : j.leaves v = vs.flatMap j.leaves := by
  match vs with
  | [] => cases j <;> cases h
  | [first] =>
    rw [fold?_cons, List.foldl_nil, Option.some.injEq] at h
    rw [h, List.flatMap_singleton]
  | first :: second :: rest =>
    rw [fold?_of_two, Option.some.injEq] at h
    rw [← h, leaves_join, List.flatMap_append, flatMap_leaves_opened, ← List.flatMap_cons]

/-! ## Nesting -/

/-- The validator is a junction of this kind. -/
def Joins (j : Junction) (v : Validator) : Prop := ∃ members, v = j.join members

/-- No member of the validator, if it is a junction, is one itself. -/
def IsFlat (j : Junction) (v : Validator) : Prop :=
  ∀ members, v = j.join members → ∀ m ∈ members, ¬ j.Joins m

theorem not_joins_iff : ¬ j.Joins v ↔ j.members? v = none := by
  simp only [Joins, ← members?_eq_some, ← Option.isSome_iff_exists, Option.not_isSome_iff_eq_none]

theorem isFlat_of_not_joins (h : ¬ j.Joins v) : j.IsFlat v := fun members hv => absurd ⟨members, hv⟩ h

theorem isFlat_join : j.IsFlat (j.join members) ↔ ∀ m ∈ members, ¬ j.Joins m := by
  constructor
  · exact fun h => h members rfl
  · intro h others heq
    have hsame : some members = some others := by rw [← members?_join, heq, members?_join]
    exact Option.some.inj hsame ▸ h

theorem not_joins_of_mem_opened (h : j.IsFlat v) : ∀ m ∈ j.opened v, ¬ j.Joins m := by
  cases hv : j.members? v with
  | some members =>
    obtain rfl := members?_eq_some.1 hv
    rw [opened_join]
    exact isFlat_join.1 h
  | none =>
    rw [opened_of_single hv]
    simpa using not_joins_iff.2 hv

/-- Only where it comes first is a junction opened: in a fold of two validators or more, the first of them
flat, the others that are junctions are nested, and nothing else is. -/
theorem nested_of_fold? (second : Validator) (rest : List Validator) (h : j.IsFlat first) :
    ∃ members, j.fold? (first :: second :: rest) = some (j.join members) ∧
      ∀ m, j.Joins m → (m ∈ members ↔ m ∈ second :: rest) := by
  refine ⟨_, fold?_of_two, fun m hm => ?_⟩
  rw [List.mem_append, or_iff_right fun hfirst => not_joins_of_mem_opened h m hfirst hm]

/-- Such a fold is flat exactly when the first validator is the only one that may be a junction. -/
theorem isFlat_of_fold?_iff (h : j.IsFlat first) (hv : j.fold? (first :: second :: rest) = some v) :
    j.IsFlat v ↔ ∀ w ∈ second :: rest, ¬ j.Joins w := by
  obtain ⟨members, hfold, hnested⟩ := nested_of_fold? second rest h
  obtain rfl := Option.some.inj (hfold.symm.trans hv)
  rw [isFlat_join]
  exact forall_congr' fun m =>
    ⟨fun hm hlater hjoins => hm ((hnested m hjoins).2 hlater) hjoins,
      fun hm hmember hjoins => hm ((hnested m hjoins).1 hmember) hjoins⟩

theorem joins_of_fold? (hv : j.fold? (first :: second :: rest) = some v) : j.Joins v :=
  ⟨_, (Option.some.inj (fold?_of_two.symm.trans hv)).symm⟩

/-- Without junctions among its validators a fold is flat, and a junction only if there are several. -/
theorem isFlat_and_joins_of_fold? (h : ∀ w ∈ vs, ¬ j.Joins w) (hv : j.fold? vs = some v) :
    j.IsFlat v ∧ (j.Joins v ↔ 1 < vs.length) := by
  match vs with
  | [] => cases j <;> cases hv
  | [first] =>
    rw [fold?_cons, List.foldl_nil, Option.some.injEq] at hv
    have hfirst : ¬ j.Joins v := hv ▸ h first List.mem_cons_self
    exact ⟨isFlat_of_not_joins hfirst, iff_of_false hfirst (Nat.lt_irrefl 1)⟩
  | first :: second :: rest =>
    rw [List.forall_mem_cons] at h
    exact ⟨(isFlat_of_fold?_iff (isFlat_of_not_joins h.1) hv).2 h.2,
      iff_of_true (joins_of_fold? hv) (by simp)⟩

/-! ## Folds as a whole -/

/-- A validator that is no junction is the fold, or stands in it as a member. -/
theorem kept_of_fold? (h : j.fold? vs = some v) (hw : w ∈ vs) (single : j.members? w = none) :
    v = w ∨ ∃ members, v = j.join members ∧ w ∈ members := by
  match vs with
  | [first] =>
    rw [fold?_cons, List.foldl_nil, Option.some.injEq] at h
    exact .inl (h ▸ (List.mem_singleton.1 hw).symm)
  | first :: second :: rest =>
    rw [fold?_of_two, Option.some.injEq] at h
    refine .inr ⟨_, h.symm, ?_⟩
    rcases List.mem_cons.1 hw with rfl | hw
    · rw [opened_of_single single]
      exact List.mem_cons_self
    · exact List.mem_append_right _ hw

/-- One validator or more have a fold. It takes what some of them take, for a union, or what all of them
take, for an intersection, and it consists of what they consist of, in their order; unions with a
discriminator are kept as they are. Folding from a prefix on gives the same. -/
theorem fold?_keeps (j : Junction) (h : vs ≠ []) :
    ∃ v, j.fold? vs = some v ∧
      (∀ atom x, j.Takes atom v x ↔ j.Among (Takes atom j · x) vs) ∧
      j.leaves v = vs.flatMap j.leaves ∧
      (∀ variants d, .union variants (some d) ∈ vs → v = .union variants (some d) ∨
        ∃ members, v = j.join members ∧ .union variants (some d) ∈ members) ∧
      ∀ front rest, vs = front ++ rest → front ≠ [] →
        ∃ u, j.fold? front = some u ∧ j.fold? (u :: rest) = some v := by
  obtain ⟨v, hv⟩ := exists_fold? j h
  refine ⟨v, hv, fun atom x => takes_of_fold? hv, leaves_of_fold? hv, ?_, ?_⟩
  · intro variants d hmem
    have hsingle : j.members? (.union variants (some d)) = none := by cases j <;> rfl
    exact kept_of_fold? hv hmem hsingle
  · rintro front rest rfl hfront
    obtain ⟨u, hu⟩ := exists_fold? j hfront
    exact ⟨u, hu, (fold?_append hu).trans hv⟩

/-- A tagged union of two, an untagged one of a tagged union and another, and one more. -/
def assorted : List Validator :=
  [.union [.ref "Cat", .ref "Dog"] (some "kind"),
    .union [.union [.ref "Oak", .ref "Elm"] (some "kind"), .never] none,
    .ref "Moss"]

/-- The union keeps both tagged unions, and takes what any of the leaves takes. -/
theorem fold?_keeps_assorted :
    assorted ≠ [] ∧ ∃ v, unionOf? assorted = some v ∧
      v.expand = [.union [.ref "Cat", .ref "Dog"] (some "kind"),
        .union [.ref "Oak", .ref "Elm"] (some "kind"), .never, .ref "Moss"] ∧
      ∀ atom x, Junction.union.Takes atom v x ↔ ∃ w ∈ assorted, Junction.union.Takes atom w x := by
  have hsome : assorted ≠ [] := by simp [assorted]
  obtain ⟨v, hv, htakes, hleaves, -⟩ := fold?_keeps .union hsome
  refine ⟨hsome, v, hv, hleaves.trans ?_, htakes⟩
  simp [assorted, leaves, expand, expandAll]

end Junction

end ApiContract.Validator
