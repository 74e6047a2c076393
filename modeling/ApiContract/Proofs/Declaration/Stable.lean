import ApiContract.Proofs.Declaration.Cyclic
import Mathlib.Data.String.Basic

/-!
# Where an order departs from its input

An accepted order starts with the declarations without dependencies, sorted by name. The others stay as
they are in the input, except where a dependency forces a change: if two of them change places, the later
one is needed by the earlier one or by something before that (`order_departs`). For whatever a visit
places is needed by the declaration that is visited (`adds_visit`). A list that is ordered already is not
changed at all (`order_eq_self`), so that ordering twice is ordering once (`order_idempotent`).
-/

namespace ApiContract.Declaration

open Outcome Relation

/-- The first declaration stands before the second one in the list. -/
def Precedes (ds : List Declaration) (d e : Declaration) : Prop :=
  ∃ front back, ds = front ++ d :: back ∧ e ∈ back

variable {pool ds out : List Declaration} {d e : Declaration} {path : List String}

theorem precedes_of_mem {front back : List Declaration} (h : e ∈ front) :
    Precedes (front ++ d :: back) e d := by
  obtain ⟨before, between, rfl⟩ := List.append_of_mem h
  exact ⟨before, between ++ d :: back, by simp, by simp⟩

/-- What stands before a member of the front part of a list is in that part too. -/
theorem Precedes.mem_front {front back : List Declaration} (h : Precedes (front ++ back) d e)
    (hnodup : (front ++ back).Nodup) (he : e ∈ front) : d ∈ front := by
  obtain ⟨before, after, hsplit, hafter⟩ := h
  rcases List.append_eq_append_iff.1 hsplit with ⟨between, rfl, rfl⟩ | ⟨between, rfl, hback⟩
  · -- The front part ends before `d`, so that `e` would stand on both sides of `d`.
    have hdisjoint := (List.nodup_append.1 hnodup).2.2
    exact absurd rfl (hdisjoint e he e (by simp [hafter]))
  · cases between with
    | nil =>
      obtain rfl : back = d :: after := by simpa using hback.symm
      have hdisjoint := (List.nodup_append.1 hnodup).2.2
      exact absurd rfl (hdisjoint e he e (by simp [hafter]))
    | cons first rest =>
      obtain rfl : d = first := (List.cons.inj hback).1
      simp

/-! ## What a visit places -/

/-- What the second placement has beyond the first are declarations with a property. -/
def Placement.Adds (P : Declaration → Prop) (p q : Placement) : Prop :=
  ∃ new, q.declarations = p.declarations ++ new ∧ ∀ e ∈ new, P e

section Adds

variable {P Q : Declaration → Prop} {p q r : Placement}

theorem Placement.Adds.refl (P : Declaration → Prop) (p : Placement) : p.Adds P p :=
  ⟨[], by simp, by simp⟩

theorem Placement.Adds.trans (hpq : p.Adds P q) (hqr : q.Adds P r) : p.Adds P r := by
  obtain ⟨new, hq, hnew⟩ := hpq
  obtain ⟨newer, hr, hnewer⟩ := hqr
  refine ⟨new ++ newer, by rw [hr, hq, List.append_assoc], ?_⟩
  simp only [List.mem_append]
  rintro e (he | he)
  · exact hnew e he
  · exact hnewer e he

theorem Placement.Adds.imp (h : p.Adds P q) (hPQ : ∀ e, P e → Q e) : p.Adds Q q := by
  obtain ⟨new, hq, hnew⟩ := h
  exact ⟨new, hq, fun e he => hPQ e (hnew e he)⟩

theorem Placement.Adds.place (h : p.Adds P q) (hd : P d) : p.Adds P (q.place d) := by
  obtain ⟨new, hq, hnew⟩ := h
  refine ⟨new ++ [d], by simp [Placement.place, hq], ?_⟩
  simp only [List.mem_append, List.mem_singleton]
  rintro e (he | rfl)
  · exact hnew e he
  · exact hd

theorem adds_foldlM {visit : Placement → Declaration → Except Fault Placement}
    (h : ∀ q, ∀ d ∈ ds, Gives (q.Adds P) (visit q d)) (p : Placement) :
    Gives (p.Adds P) (ds.foldlM visit p) :=
  gives_foldlM (.refl P p) fun q d hd hq r hr => hq.trans (h q d hd r hr)

end Adds

/-- A visit places what the visited declaration needs, directly or through others, and the declaration
itself. -/
theorem adds_visit (levels : Nat) (p : Placement) (hd : d ∈ pool) :
    Gives (p.Adds fun e => ReflTransGen (Needs pool) d.name e.name) (visit pool levels path p d) := by
  induction levels generalizing path p d with
  | zero => exact gives_error _
  | succ levels ih =>
    unfold visit
    split
    next => exact gives_ok (.refl _ p)
    next =>
      split
      next => exact gives_error _
      next =>
        have hdeps : Gives (p.Adds fun e => ReflTransGen (Needs pool) d.name e.name)
            ((dependencies pool d).foldlM (visit pool levels (path ++ [d.name])) p) := by
          refine adds_foldlM (fun q e he r hr => ?_) p
          obtain ⟨he, hneeds⟩ := List.mem_filter.1 he
          have hstep : Needs pool d.name e.name := ⟨d, hd, e, he, rfl, rfl, by simpa using hneeds⟩
          exact (ih q he r hr).imp fun f hf => .head hstep hf
        exact hdeps.bind fun q hq => gives_ok (hq.place .refl)

/-! ## The start -/

theorem leaves_sorted (hnames : (ds.map (·.name)).Nodup) :
    (leaves ds).Pairwise fun d e => d.name < e.name := by
  have hle : (leaves ds).Pairwise fun d e => d.name ≤ e.name := by
    have hsorted : (leaves ds).Pairwise fun d e => decide (d.name ≤ e.name) = true := by
      refine List.pairwise_mergeSort (fun a b c hab hbc => ?_) (fun a b => ?_) _
      · rw [decide_eq_true_iff] at hab hbc ⊢
        exact hab.trans hbc
      · simpa using le_total a.name b.name
    exact hsorted.imp of_decide_eq_true
  have hne : (leaves ds).Pairwise fun d e => d.name ≠ e.name :=
    List.pairwise_map.1 (valid_leaves hnames).nodup
  exact (hle.and hne).imp fun h => lt_of_le_of_ne h.1 h.2

theorem leaves_eq_of_perm (hnames : (ds.map (·.name)).Nodup) (hperm : out.Perm ds) :
    leaves out = leaves ds := by
  have hout : (out.map (·.name)).Nodup := (hperm.map _).nodup_iff.2 hnames
  have hleaves : (leaves out).Perm (leaves ds) :=
    leaves_perm.trans ((hperm.filter _).trans leaves_perm.symm)
  refine List.Perm.eq_of_pairwise (fun d e _ _ hde hed => ?_) (leaves_sorted hout)
    (leaves_sorted hnames) hleaves
  exact absurd hde hed.asymm

theorem leaves_prefix (hnames : (ds.map (·.name)).Nodup) (ho : order ds = .ok out) :
    leaves ds <+: out := by
  simp only [order, current_eq_self hnames, bind_eq_ok, pure_eq_ok] at ho
  obtain ⟨placed, hplaced, rfl⟩ := ho
  obtain ⟨-, hreaches, -⟩ := (visits_visit (ds.length + 1) []).foldlM (List.Subset.refl ds) hplaced
    (valid_leaves hnames) (by simp)
  exact hreaches.grows

/-! ## What a change of places is due to -/

/-- An order can be cut behind each declaration of the input: what stands in the first part is a leaf, or
needed by the declaration or one before it. -/
theorem order_cut {front back : List Declaration}
    (hnames : ((front ++ d :: back).map (·.name)).Nodup) (ho : order (front ++ d :: back) = .ok out) :
    ∃ placed later, out = placed ++ later ∧ d ∈ placed ∧
      ∀ e ∈ placed, e ∈ leaves (front ++ d :: back) ∨ ∃ r ∈ front ++ [d],
        ReflTransGen (Needs (front ++ d :: back)) r.name e.name := by
  have hsplit : front ++ d :: back = front ++ [d] ++ back := List.append_cons front d back
  have hfront : front ++ [d] ⊆ front ++ d :: back := by
    rw [hsplit]
    exact List.subset_append_left _ _
  generalize hds : front ++ d :: back = ds at *
  simp only [order, current_eq_self hnames, bind_eq_ok, pure_eq_ok] at ho
  obtain ⟨last, hlast, rfl⟩ := ho
  rw [hsplit, List.foldlM_append, bind_eq_ok] at hlast
  rw [← hsplit] at hlast
  obtain ⟨cut, hcut, hlast⟩ := hlast
  have hvisits : Visits ds [] (visit ds (ds.length + 1) []) := visits_visit _ _
  obtain ⟨hvalid, -, hplaced⟩ := hvisits.foldlM hfront hcut (valid_leaves hnames) (by simp)
  have hback : back ⊆ ds := hsplit ▸ List.subset_append_right _ _
  obtain ⟨-, hreaches, -⟩ := hvisits.foldlM hback hlast hvalid (by simp)
  obtain ⟨later, hlater⟩ := hreaches.grows
  refine ⟨cut.declarations, later, hlater.symm, ?_, ?_⟩
  · have hname : d.name ∈ cut.declarations.map (·.name) := hvalid.names ▸ hplaced d (by simp)
    obtain ⟨e, he, heq⟩ := List.mem_map.1 hname
    have hd : d ∈ ds := hfront (by simp)
    exact eq_of_name_eq hnames (hvalid.subset he) hd heq ▸ he
  · have hadds : Gives (Placement.Adds (fun e => ∃ r ∈ front ++ [d],
        ReflTransGen (Needs ds) r.name e.name) ⟨(leaves ds).map (·.name), leaves ds⟩)
        ((front ++ [d]).foldlM (visit ds (ds.length + 1) []) ⟨(leaves ds).map (·.name), leaves ds⟩) := by
      refine adds_foldlM (fun q r hr s hs => ?_) _
      exact (adds_visit (ds.length + 1) q (hfront hr) s hs).imp fun e he => ⟨r, hr, he⟩
    obtain ⟨new, hnew, hneeded⟩ := hadds cut hcut
    intro e he
    rw [hnew, List.mem_append] at he
    exact he.imp_right (hneeded e)

/-- An accepted order starts with the declarations without dependencies, sorted by name. Where two of the
others change places, the later one is needed by the earlier one or by a declaration before that. -/
theorem order_departs (hnames : (ds.map (·.name)).Nodup) (ho : order ds = .ok out) :
    ∃ first rest, out = first ++ rest ∧ (∀ d, d ∈ first ↔ d ∈ ds ∧ d.dependsOn = []) ∧
      (first.Pairwise fun d e => d.name < e.name) ∧
      ∀ d ∈ rest, ∀ e ∈ rest, Precedes ds d e → Precedes out e d →
        ∃ r, (r = d ∨ Precedes ds r d) ∧ TransGen (Needs ds) r.name e.name := by
  obtain ⟨rest, rfl⟩ := leaves_prefix hnames ho
  have hperm : (leaves ds ++ rest).Perm ds := order_perm hnames ho
  have hnodup : (leaves ds ++ rest).Nodup := hperm.nodup_iff.2 hnames.of_map
  refine ⟨leaves ds, rest, rfl, fun d => mem_leaves, leaves_sorted hnames, ?_⟩
  rintro d hd e he ⟨front, back, rfl, hback⟩ hchanged
  obtain ⟨placed, later, hout, hplaced, hneeded⟩ := order_cut hnames ho
  rw [hout] at hchanged
  have hdisjoint := (List.nodup_append.1 hnodup).2.2
  obtain hleaf | ⟨r, hr, hreach⟩ := hneeded e (hchanged.mem_front (hout ▸ hnodup) hplaced)
  · exact absurd rfl (hdisjoint e hleaf e he)
  · refine ⟨r, ?_, ?_⟩
    · rcases List.mem_append.1 hr with hr | hr
      · exact .inr (precedes_of_mem hr)
      · exact .inl (List.mem_singleton.1 hr)
    · -- The declaration that needs `e` stands before it in the input, so it is another one.
      refine (reflTransGen_iff_eq_or_transGen.1 hreach).resolve_left fun heq => ?_
      rw [List.append_cons, List.map_append] at hnames
      exact (List.nodup_append.1 hnames).2.2 r.name (List.mem_map_of_mem hr) e.name
        (List.mem_map_of_mem hback) heq.symm

/-- A declaration that only refers to others. -/
def standingFor (name : String) (dependsOn : List String) : Declaration :=
  { name, validator := .intersection (dependsOn.map .ref), dependsOn, source := none }

def shelter : Declaration := standingFor "Shelter" ["Address"]

def pet : Declaration := standingFor "Pet" ["Name"]

/-- An adoption of a pet, and a shelter, in the order in which they are written. -/
def adoptions : List Declaration :=
  [standingFor "Adoption" ["Pet"], shelter, pet, standingFor "Name" [], standingFor "Address" []]

/-- The order of `adoptions`: the adoption brings the pet in front of the shelter. -/
def adopted : List Declaration :=
  [standingFor "Address" [], standingFor "Name" [], pet, standingFor "Adoption" ["Pet"], shelter]

theorem order_adoptions : order adoptions = .ok adopted := by
  have hfirst : leaves adoptions = [standingFor "Address" [], standingFor "Name" []] := by
    simp [leaves, adoptions, standingFor, shelter, pet, List.mergeSort]
  unfold order
  rw [hfirst]
  rfl

/-- The shelter and the pet change places since the adoption, which stands before them, needs the pet. -/
theorem adoptions_depart :
    (adoptions.map (·.name)).Nodup ∧ order adoptions = .ok adopted ∧ Precedes adoptions shelter pet ∧
      Precedes adopted pet shelter ∧
      ∃ r, (r = shelter ∨ Precedes adoptions r shelter) ∧
        TransGen (Needs adoptions) r.name pet.name := by
  have hnames : (adoptions.map (·.name)).Nodup := by decide
  have hbefore : Precedes adoptions shelter pet :=
    ⟨[standingFor "Adoption" ["Pet"]], _, rfl, List.mem_cons_self⟩
  have hchanged : Precedes adopted pet shelter := by
    refine ⟨[standingFor "Address" [], standingFor "Name" []], _, rfl, ?_⟩
    exact List.mem_cons_of_mem _ List.mem_cons_self
  obtain ⟨first, rest, hout, hfirst, -, hdeparts⟩ := order_departs hnames order_adoptions
  have hrest (d : Declaration) (hd : d ∈ adopted) (hdeps : d.dependsOn ≠ []) : d ∈ rest := by
    rw [hout, List.mem_append, hfirst] at hd
    exact hd.resolve_left fun h => hdeps h.2
  exact ⟨hnames, order_adoptions, hbefore, hchanged, hdeparts shelter (hrest _ (by simp [adopted]) nofun)
    pet (hrest _ (by simp [adopted]) nofun) hbefore hchanged⟩

/-! ## Lists that are ordered already -/

theorem visit_of_placed (levels : Nat) {p : Placement} (h : d.name ∈ p.names) :
    visit pool (levels + 1) path p d = .ok p := by
  have hplaced : p.names.contains d.name = true := by simpa using h
  rw [visit, hplaced]
  rfl

theorem foldlM_of_placed (levels : Nat) {p : Placement} (h : ∀ d ∈ ds, d.name ∈ p.names) :
    ds.foldlM (visit pool (levels + 1) path) p = .ok p := by
  induction ds with
  | nil => rfl
  | cons d rest ih =>
    simp only [List.mem_cons, forall_eq_or_imp] at h
    rw [List.foldlM_cons, visit_of_placed levels h.1]
    exact ih h.2

/-- A declaration whose dependencies are placed is placed next. -/
theorem visit_of_settled (levels : Nat) {p : Placement} (hnew : d.name ∉ p.names)
    (hdeps : ∀ e ∈ pool, e.name ∈ d.dependsOn → e.name ∈ p.names) :
    visit pool (levels + 1 + 1) [] p d = .ok (p.place d) := by
  have hplaced : p.names.contains d.name = false := by simpa using hnew
  have hwalk : (dependencies pool d).foldlM (visit pool (levels + 1) ([] ++ [d.name])) p = .ok p := by
    refine foldlM_of_placed levels fun e he => ?_
    obtain ⟨he, hneeds⟩ := List.mem_filter.1 he
    exact hdeps e he (by simpa using hneeds)
  rw [visit, hplaced, hwalk]
  rfl

/-- The declarations behind a part of a settled list are placed as they stand. -/
theorem foldlM_of_settled (levels : Nat) {front back : List Declaration}
    (hsettled : Settled ds (front ++ back)) (hnames : ((front ++ back).map (·.name)).Nodup) :
    back.foldlM (visit ds (levels + 1 + 1) []) ⟨front.map (·.name), front⟩ =
      .ok ⟨(front ++ back).map (·.name), front ++ back⟩ := by
  induction back generalizing front with
  | nil => simp [pure, Except.pure]
  | cons d back ih =>
    have hnew : d.name ∉ front.map (·.name) := by
      rw [List.map_append, List.map_cons] at hnames
      exact fun hmem => (List.nodup_append.1 hnames).2.2 _ hmem _ List.mem_cons_self rfl
    have hnext : Placement.place ⟨front.map (·.name), front⟩ d =
        ⟨(front ++ [d]).map (·.name), front ++ [d]⟩ := by simp [Placement.place]
    rw [List.foldlM_cons, visit_of_settled levels hnew (hsettled front d back rfl), hnext]
    rw [List.append_cons front d back] at hsettled hnames ⊢
    exact ih hsettled hnames

/-- A list that starts with its leaves, and in which everything stands behind what it depends on, is in
order. -/
theorem order_eq_self (hnames : (ds.map (·.name)).Nodup) (hleaves : leaves ds <+: ds)
    (hsettled : Settled ds ds) : order ds = .ok ds := by
  cases hds : ds with
  | nil => simp [order, leaves, pure, Except.pure, bind, Except.bind]
  | cons d rest =>
    rw [← hds]
    have hlevels : ds.length + 1 = rest.length + 1 + 1 := by rw [hds, List.length_cons]
    obtain ⟨behind, hbehind⟩ := hleaves
    have hplaced : ds.foldlM (visit ds (rest.length + 1 + 1) [])
        ⟨(leaves ds).map (·.name), leaves ds⟩ = .ok ⟨ds.map (·.name), ds⟩ := by
      have hfirst : (leaves ds).foldlM (visit ds (rest.length + 1 + 1) [])
          ⟨(leaves ds).map (·.name), leaves ds⟩ = .ok ⟨(leaves ds).map (·.name), leaves ds⟩ :=
        foldlM_of_placed _ fun e he => List.mem_map_of_mem he
      have hrest : behind.foldlM (visit ds (rest.length + 1 + 1) [])
          ⟨(leaves ds).map (·.name), leaves ds⟩ =
            .ok ⟨(leaves ds ++ behind).map (·.name), leaves ds ++ behind⟩ :=
        foldlM_of_settled rest.length (by rwa [hbehind]) (by rwa [hbehind])
      rw [hbehind] at hrest
      calc ds.foldlM (visit ds (rest.length + 1 + 1) []) ⟨(leaves ds).map (·.name), leaves ds⟩
          = (leaves ds ++ behind).foldlM (visit ds (rest.length + 1 + 1) [])
              ⟨(leaves ds).map (·.name), leaves ds⟩ := by rw [hbehind]
        _ = .ok ⟨ds.map (·.name), ds⟩ := by
          rw [List.foldlM_append, hfirst]
          exact hrest
    simp only [order, current_eq_self hnames, hlevels, hplaced]
    rfl

/-- What is in order stays as it is. -/
theorem order_idempotent (hnames : (ds.map (·.name)).Nodup) (ho : order ds = .ok out) :
    order out = .ok out := by
  have hperm : out.Perm ds := order_perm hnames ho
  have hout : (out.map (·.name)).Nodup := (hperm.map _).nodup_iff.2 hnames
  refine order_eq_self hout (leaves_eq_of_perm hnames hperm ▸ leaves_prefix hnames ho) ?_
  intro before d after hsplit e he
  exact order_settled hnames ho before d after hsplit e (hperm.mem_iff.1 he)

/-- Ordering the adoptions again changes nothing. -/
theorem adopted_stays :
    (adoptions.map (·.name)).Nodup ∧ order adoptions = .ok adopted ∧ order adopted = .ok adopted :=
  ⟨by decide, order_adoptions, order_idempotent (by decide) order_adoptions⟩

end ApiContract.Declaration
