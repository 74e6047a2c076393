import ApiContract.Declaration.Order
import ApiContract.Proofs.Outcome
import Mathlib.Data.List.Nodup
import Mathlib.Data.List.Perm.Basic

/-!
# What an order of declarations is

An accepted order loses nothing and repeats nothing (`order_perm`), and everything that a declaration
depends on stands before it (`order_settled`). Both come from what a visit keeps of a `Placement`
(`Placement.Valid`): a visit adds to the end, places its declaration, and places none of those that are
being visited (`visit_reaches`).
-/

namespace ApiContract

namespace Declaration

open Outcome

/-- Every declaration of `pool` that one of the list depends on stands before it. -/
def Settled (pool ds : List Declaration) : Prop :=
  ∀ before d after, ds = before ++ d :: after →
    ∀ e ∈ pool, e.name ∈ d.dependsOn → e.name ∈ before.map (·.name)

variable {pool ds : List Declaration}

theorem Settled.snoc {d : Declaration} (h : Settled pool ds)
    (hd : ∀ e ∈ pool, e.name ∈ d.dependsOn → e.name ∈ ds.map (·.name)) :
    Settled pool (ds ++ [d]) := by
  intro before e after hsplit
  rcases List.eq_nil_or_concat after with rfl | ⟨after, last, rfl⟩
  · obtain ⟨rfl, hlast⟩ := List.append_inj' hsplit rfl
    obtain rfl : d = e := by simpa using hlast
    exact hd
  · have hsplit : ds ++ [d] = (before ++ e :: after) ++ [last] := by simpa using hsplit
    exact h before e after (List.append_inj' hsplit rfl).1

theorem settled_of_independent (h : ∀ d ∈ ds, d.dependsOn = []) : Settled pool ds := by
  rintro before d after rfl e _ he
  simp [h d (by simp)] at he

theorem current_eq_self (h : (ds.map (·.name)).Nodup) : current ds = ds := by
  induction ds with
  | nil => rfl
  | cons d rest ih =>
    obtain ⟨hd, hrest⟩ := List.nodup_cons.1 h
    have hlast : rest.any (·.name == d.name) = false := by
      simp only [List.any_eq_false, beq_iff_eq]
      exact fun e he heq => hd (List.mem_map.2 ⟨e, he, heq⟩)
    simp [current, hlast, ih hrest]

/-- Of declarations with different names, a name is that of one only. -/
theorem eq_of_name_eq {d e : Declaration} (h : (ds.map (·.name)).Nodup) (hd : d ∈ ds) (he : e ∈ ds)
    (heq : d.name = e.name) : d = e :=
  List.inj_on_of_nodup_map h hd he heq

/-! ## Placements -/

/-- What holds of the declarations placed at every moment. -/
structure Placement.Valid (pool : List Declaration) (p : Placement) : Prop where
  names : p.names = p.declarations.map (·.name)
  nodup : p.names.Nodup
  subset : p.declarations ⊆ pool
  settled : Settled pool p.declarations

/-- The second placement holds the first and more behind it, but none of the names of `path`. -/
structure Placement.Reaches (path : List String) (p q : Placement) : Prop where
  grows : p.declarations <+: q.declarations
  avoids : ∀ name ∈ path, name ∉ q.names

theorem Placement.Valid.place {p : Placement} {d : Declaration} (h : p.Valid pool) (hd : d ∈ pool)
    (hnew : d.name ∉ p.names) (hdeps : ∀ e ∈ pool, e.name ∈ d.dependsOn → e.name ∈ p.names) :
    (p.place d).Valid pool where
  names := by simp [Placement.place, h.names]
  nodup := by
    rw [Placement.place, List.nodup_append]
    refine ⟨h.nodup, List.nodup_singleton _, ?_⟩
    rintro name hname _ hlast rfl
    exact hnew (List.mem_singleton.1 hlast ▸ hname)
  subset := by
    intro e he
    rcases List.mem_append.1 he with he | he
    · exact h.subset he
    · exact List.mem_singleton.1 he ▸ hd
  settled := h.settled.snoc fun e he hneeded => h.names ▸ hdeps e he hneeded

theorem Placement.Valid.names_subset {p q : Placement} (hp : p.Valid pool) (hq : q.Valid pool)
    (h : p.declarations <+: q.declarations) : p.names ⊆ q.names := by
  rw [hp.names, hq.names]
  exact List.map_subset _ h.subset

/-! ## Visits -/

/-- What is asked of a visit of `d`, for every placement and path from which it succeeds. -/
def Visits (pool : List Declaration) (path : List String)
    (visit : Placement → Declaration → Except Fault Placement) : Prop :=
  ∀ d ∈ pool, ∀ p q, visit p d = .ok q → p.Valid pool → (∀ name ∈ path, name ∉ p.names) →
    q.Valid pool ∧ p.Reaches path q ∧ d.name ∈ q.names

/-- A walk of visits reaches everything on its way. -/
theorem Visits.foldlM {path : List String} {visit : Placement → Declaration → Except Fault Placement}
    (h : Visits pool path visit) (hds : ds ⊆ pool) {p q : Placement} (hq : ds.foldlM visit p = .ok q)
    (hp : p.Valid pool) (hpath : ∀ name ∈ path, name ∉ p.names) :
    q.Valid pool ∧ p.Reaches path q ∧ ∀ d ∈ ds, d.name ∈ q.names := by
  induction ds generalizing p with
  | nil =>
    obtain rfl := pure_eq_ok.1 hq
    exact ⟨hp, ⟨List.prefix_rfl, hpath⟩, by simp⟩
  | cons d rest ih =>
    rw [List.foldlM_cons, bind_eq_ok] at hq
    obtain ⟨r, hr, hq⟩ := hq
    obtain ⟨hd, hrest⟩ := List.cons_subset.1 hds
    obtain ⟨hvalid, hreaches, hplaced⟩ := h d hd p r hr hp hpath
    obtain ⟨hvalid', hreaches', hplaced'⟩ := ih hrest hq hvalid hreaches.avoids
    refine ⟨hvalid', ⟨hreaches.grows.trans hreaches'.grows, hreaches'.avoids⟩, ?_⟩
    intro e he
    rcases List.mem_cons.1 he with rfl | he
    · exact hvalid.names_subset hvalid' hreaches'.grows hplaced
    · exact hplaced' e he

theorem visits_visit (levels : Nat) (path : List String) :
    Visits pool path (visit pool levels path) := by
  -- The levels count how much deeper a visit may go; the path grows as they shrink.
  induction levels generalizing path with
  | zero => intro d _ p q hq; cases hq
  | succ levels ih =>
    intro d hd p q hq hp hpath
    unfold visit at hq
    split at hq
    next hplaced =>
      obtain rfl : p = q := by simpa using hq
      exact ⟨hp, ⟨List.prefix_rfl, hpath⟩, by simpa using hplaced⟩
    next hnew =>
      split at hq
      next => cases hq
      next hfree =>
        simp only [bind_eq_ok, pure_eq_ok] at hq
        obtain ⟨r, hr, rfl⟩ := hq
        have hpath' : ∀ name ∈ path ++ [d.name], name ∉ p.names := by
          simp only [List.mem_append, List.mem_singleton]
          rintro name (hname | rfl)
          · exact hpath name hname
          · simpa using hnew
        have hdeps : dependencies pool d ⊆ pool := List.filter_subset_self _
        obtain ⟨hvalid, hreaches, hplaced⟩ := (ih (path ++ [d.name])).foldlM hdeps hr hp hpath'
        have hd' : d.name ∉ r.names := hreaches.avoids _ (by simp)
        refine ⟨hvalid.place hd hd' ?_, ⟨?_, ?_⟩, by simp [Placement.place]⟩
        · intro e he hneeded
          exact hplaced e (by simp [dependencies, he, hneeded])
        · exact hreaches.grows.trans (List.prefix_append _ _)
        · intro name hname
          have hne : name ≠ d.name := by
            rintro rfl
            exact hfree (by simpa using hname)
          simpa [Placement.place, hne] using hreaches.avoids name (by simp [hname])

/-- Whatever their names are, a visit places only what it is given or finds in its pool. -/
theorem gives_visit (hpool : pool ⊆ ds) (levels : Nat) (path : List String) {p : Placement}
    {d : Declaration} (hp : p.declarations ⊆ ds) (hd : d ∈ ds) :
    Gives (fun q : Placement => q.declarations ⊆ ds) (visit pool levels path p d) := by
  induction levels generalizing path p d with
  | zero => exact gives_error _
  | succ levels ih =>
    unfold visit
    split
    next => exact gives_ok hp
    next =>
      split
      next => exact gives_error _
      next =>
        have hdeps : dependencies pool d ⊆ ds := List.Subset.trans (List.filter_subset_self _) hpool
        have hwalk : Gives (fun q : Placement => q.declarations ⊆ ds)
            ((dependencies pool d).foldlM (visit pool levels (path ++ [d.name])) p) :=
          gives_foldlM hp fun q e he hq => ih _ hq (hdeps he)
        refine hwalk.bind fun q hq => gives_ok ?_
        exact List.append_subset.2 ⟨hq, List.cons_subset.2 ⟨hd, List.nil_subset _⟩⟩

/-! ## The whole order -/

theorem current_subset : current ds ⊆ ds := by
  induction ds with
  | nil => exact List.Subset.refl _
  | cons d rest ih =>
    unfold current
    split
    · exact List.Subset.trans ih (List.subset_cons_self _ _)
    · exact List.cons_subset_cons _ ih

theorem leaves_perm : (leaves ds).Perm (ds.filter fun d => d.dependsOn.isEmpty) :=
  List.mergeSort_perm _ _

theorem mem_leaves {d : Declaration} : d ∈ leaves ds ↔ d ∈ ds ∧ d.dependsOn = [] := by
  simp [leaves_perm.mem_iff]

theorem mem_of_order {out : List Declaration} (h : order ds = .ok out) {d : Declaration}
    (hd : d ∈ out) : d ∈ ds := by
  simp only [order, bind_eq_ok, pure_eq_ok] at h
  obtain ⟨placed, hplaced, rfl⟩ := h
  have hleaves : leaves ds ⊆ ds := fun e he => (mem_leaves.1 he).1
  exact gives_foldlM (Q := fun q : Placement => q.declarations ⊆ ds) hleaves
    (fun q e he hq => gives_visit current_subset _ _ hq he) placed hplaced hd

/-- The declarations without dependencies are placed before the first visit. -/
theorem valid_leaves (h : (ds.map (·.name)).Nodup) :
    (⟨(leaves ds).map (·.name), leaves ds⟩ : Placement).Valid ds where
  names := rfl
  nodup := (leaves_perm.map _).nodup_iff.2 (h.sublist (List.filter_sublist.map _))
  subset := fun _ hd => (mem_leaves.1 hd).1
  settled := settled_of_independent fun _ hd => (mem_leaves.1 hd).2

/-- What an accepted order is, for declarations with different names. -/
theorem order_valid {out : List Declaration} (h : (ds.map (·.name)).Nodup) (ho : order ds = .ok out) :
    ∃ names, (⟨names, out⟩ : Placement).Valid ds ∧ ∀ d ∈ ds, d.name ∈ names := by
  simp only [order, current_eq_self h, bind_eq_ok, pure_eq_ok] at ho
  obtain ⟨placed, hplaced, rfl⟩ := ho
  obtain ⟨hvalid, -, hall⟩ := (visits_visit (ds.length + 1) []).foldlM (List.Subset.refl ds) hplaced
    (valid_leaves h) (by simp)
  exact ⟨placed.names, hvalid, hall⟩

theorem order_perm {out : List Declaration} (h : (ds.map (·.name)).Nodup) (ho : order ds = .ok out) :
    out.Perm ds := by
  obtain ⟨names, hvalid, hall⟩ := order_valid h ho
  have hnames : (out.map (·.name)).Nodup := hvalid.names ▸ hvalid.nodup
  refine (List.perm_ext_iff_of_nodup hnames.of_map h.of_map).2 fun d =>
    ⟨fun hd => hvalid.subset hd, fun hd => ?_⟩
  have hname : d.name ∈ out.map (·.name) := hvalid.names ▸ hall d hd
  obtain ⟨e, he, heq⟩ := List.mem_map.1 hname
  exact eq_of_name_eq h (hvalid.subset he) hd heq ▸ he

theorem order_settled {out : List Declaration} (h : (ds.map (·.name)).Nodup)
    (ho : order ds = .ok out) : Settled ds out := by
  obtain ⟨names, hvalid, -⟩ := order_valid h ho
  exact hvalid.settled

end Declaration

end ApiContract
