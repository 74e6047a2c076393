import ApiContract.Proofs.Declaration.Order
import Mathlib.Data.List.Chain
import Mathlib.Data.List.TakeWhile
import Mathlib.Logic.Relation

/-!
# Cycles of declarations

Declarations are ordered unless one of them needs itself, directly or through others (`Cyclic`). What is
reported then is the way from one of them back to itself (`IsCycle`), and nothing else goes wrong:
`order_cyclic`. A visit keeps the names on its way to the declaration as a chain of needs that never
meets a name twice, so that the part of it from a name that is met again is such a cycle.
-/

namespace ApiContract

namespace Declaration

open Outcome

/-- The first name is declared, and depends on the second, which is declared too. -/
def Needs (ds : List Declaration) (a b : String) : Prop :=
  ∃ d ∈ ds, ∃ e ∈ ds, d.name = a ∧ e.name = b ∧ b ∈ d.dependsOn

/-- A declaration needs itself, directly or through others. -/
def Cyclic (ds : List Declaration) : Prop := ∃ a, Relation.TransGen (Needs ds) a a

/-- Different names of declarations, each of which needs the next one, and the last one the first. -/
structure IsCycle (ds : List Declaration) (cycle : List String) : Prop where
  nonempty : cycle ≠ []
  nodup : cycle.Nodup
  declared : cycle ⊆ ds.map (·.name)
  closes : (cycle ++ cycle.take 1).IsChain (Needs ds)

/-- Where a fault that starts with the declaration is reported: at its source, if it has one. -/
def faultPlace (d : Declaration) : String :=
  match d.source with
  | none | some "" => "#/components/schemas"
  | some source => source

variable {pool ds : List Declaration}

theorem transGen_of_isChain {R : String → String → Prop} {a b : String} {between : List String}
    (h : (a :: between ++ [b]).IsChain R) : Relation.TransGen R a b := by
  induction between generalizing a with
  | nil => exact .single (List.isChain_pair.1 h)
  | cons c rest ih =>
    obtain ⟨hac, hrest⟩ := List.isChain_cons_cons.1 h
    exact .head hac (ih hrest)

theorem IsCycle.cyclic {cycle : List String} (h : IsCycle ds cycle) : Cyclic ds := by
  obtain ⟨a, rest, rfl⟩ := List.exists_cons_of_ne_nil h.nonempty
  exact ⟨a, transGen_of_isChain h.closes⟩

/-- The fault of a cycle, where the declaration stands that the cycle starts with. -/
theorem cycleFault_eq (hnames : (pool.map (·.name)).Nodup) {cycle : List String} {d : Declaration}
    (hd : d ∈ pool) (hfirst : cycle.head? = some d.name) :
    cycleFault pool cycle = .uncompilable (.cycle cycle) d.faultPlace := by
  have hfind : pool.find? (·.name == d.name) = some d := by
    cases hfound : pool.find? (·.name == d.name) with
    | none => simpa using List.find?_eq_none.1 hfound d hd
    | some e =>
      have hname : e.name = d.name := by simpa using List.find?_some hfound
      rw [eq_of_name_eq hnames (List.mem_of_find?_eq_some hfound) hd hname]
  unfold cycleFault faultPlace
  rw [hfirst]
  show Fault.uncompilable _ (match (pool.find? (·.name == d.name)).bind (·.source) with
    | none | some "" => _
    | some source => source) = _
  rw [hfind]
  rfl

/-! ## What a visit reports -/

/-- The names on the way to a visit: each needs the next one, and the last one the name that is
visited. -/
structure Way (pool : List Declaration) (path : List String) (name : String) : Prop where
  nodup : path.Nodup
  declared : path ⊆ pool.map (·.name)
  chain : (path ++ [name]).IsChain (Needs pool)

theorem Way.start (pool : List Declaration) (name : String) : Way pool [] name where
  nodup := List.nodup_nil
  declared := List.nil_subset _
  chain := List.isChain_singleton name

theorem Way.snoc {path : List String} {d e : Declaration} (h : Way pool path d.name) (hd : d ∈ pool)
    (he : e ∈ pool) (hneeds : e.name ∈ d.dependsOn) (hnew : d.name ∉ path) :
    Way pool (path ++ [d.name]) e.name where
  nodup := by
    rw [List.nodup_append]
    refine ⟨h.nodup, List.nodup_singleton _, ?_⟩
    rintro name hname _ hlast rfl
    exact hnew (List.mem_singleton.1 hlast ▸ hname)
  declared := by
    apply List.append_subset.2
    exact ⟨h.declared, List.cons_subset.2 ⟨List.mem_map_of_mem hd, List.nil_subset _⟩⟩
  chain := by
    have hstep : [d.name, e.name].IsChain (Needs pool) :=
      List.isChain_pair.2 ⟨d, hd, e, he, rfl, rfl, hneeds⟩
    exact h.chain.append_overlap hstep (List.cons_ne_nil _ _)

/-- The part of the way from a name that is met again. -/
theorem Way.isCycle {path : List String} {name : String} (h : Way pool path name)
    (hmet : name ∈ path) :
    IsCycle pool (path.dropWhile (· != name)) ∧ (path.dropWhile (· != name)).head? = some name := by
  obtain ⟨rest, hdrop⟩ : ∃ rest, path.dropWhile (· != name) = name :: rest := by
    cases hdrop : path.dropWhile (· != name) with
    | nil =>
      rw [List.dropWhile_eq_nil_iff] at hdrop
      simpa using hdrop name hmet
    | cons first rest =>
      have hfirst := List.head?_dropWhile_not (· != name) path
      rw [hdrop] at hfirst
      have hname : first = name := by simpa using hfirst
      exact ⟨rest, by rw [hname]⟩
  have hsuffix : path.dropWhile (· != name) <:+ path := List.dropWhile_suffix _
  rw [hdrop] at hsuffix ⊢
  refine ⟨⟨List.cons_ne_nil _ _, h.nodup.sublist hsuffix.sublist, ?_, ?_⟩, rfl⟩
  · exact List.Subset.trans hsuffix.subset h.declared
  · obtain ⟨before, rfl⟩ := hsuffix
    have hchain : (before ++ (name :: rest ++ [name])).IsChain (Needs pool) := by
      simpa using h.chain
    exact hchain.right_of_append

/-- A way through declared names, none of them twice, is not longer than there are declarations. -/
theorem Way.length_le {path : List String} {name : String} (h : Way pool path name) :
    path.length ≤ pool.length := by
  have hsubperm := List.subperm_of_subset h.nodup h.declared
  simpa using hsubperm.length_le

/-- A fault that reports a cycle. -/
def ReportsCycle (pool : List Declaration) (fault : Fault) : Prop :=
  ∃ cycle, ∃ d ∈ pool, IsCycle pool cycle ∧ cycle.head? = some d.name ∧
    fault = .uncompilable (.cycle cycle) d.faultPlace

theorem reportsCycle_visit (hnames : (pool.map (·.name)).Nodup) (levels : Nat) {path : List String}
    (p : Placement) {d : Declaration} (hd : d ∈ pool) (hway : Way pool path d.name)
    (hlevels : pool.length < path.length + levels) :
    FailsAs (ReportsCycle pool) (visit pool levels path p d) := by
  -- Every level adds a name to the way, which is never longer than the pool.
  induction levels generalizing path p d with
  | zero =>
    have hlength := hway.length_le
    omega
  | succ levels ih =>
    unfold visit
    split
    next => exact failsAs_ok p
    next =>
      split
      next hmet =>
        obtain ⟨hcycle, hfirst⟩ := hway.isCycle (by simpa using hmet)
        rw [failsAs_error]
        exact ⟨_, d, hd, hcycle, hfirst, cycleFault_eq hnames hd hfirst⟩
      next hnew =>
        have hdeps : FailsAs (ReportsCycle pool)
            ((dependencies pool d).foldlM (visit pool levels (path ++ [d.name])) p) := by
          apply failsAs_foldlM
          intro q e he
          obtain ⟨he, hneeds⟩ := List.mem_filter.1 he
          have hway' := hway.snoc hd he (by simpa using hneeds) (by simpa using hnew)
          apply ih q he hway'
          rw [List.length_append, List.length_singleton]
          omega
        exact hdeps.bind fun q _ => failsAs_ok _

theorem reportsCycle_order (hnames : (ds.map (·.name)).Nodup) :
    FailsAs (ReportsCycle ds) (order ds) := by
  unfold order
  rw [current_eq_self hnames]
  refine FailsAs.bind (failsAs_foldlM fun p d hd => ?_) fun placed _ => failsAs_ok _
  exact reportsCycle_visit hnames _ p hd (.start ds d.name) (by simp)

/-! ## What an order excludes -/

/-- In an accepted order, what a name needs stands before it. -/
theorem Needs.idxOf_lt {out : List Declaration} (hnames : (ds.map (·.name)).Nodup)
    (ho : order ds = .ok out) {a b : String} (h : Needs ds a b) :
    (out.map (·.name)).idxOf b < (out.map (·.name)).idxOf a := by
  obtain ⟨d, hd, e, he, rfl, rfl, hneeds⟩ := h
  have hperm : out.Perm ds := order_perm hnames ho
  have hout : (out.map (·.name)).Nodup := (hperm.map _).nodup_iff.2 hnames
  obtain ⟨before, after, rfl⟩ := List.append_of_mem (hperm.mem_iff.2 hd)
  have hbefore : e.name ∈ before.map (·.name) := order_settled hnames ho before d after rfl e he hneeds
  have hnew : d.name ∉ before.map (·.name) := by
    rw [List.map_append, List.map_cons] at hout
    exact fun hmem => (List.nodup_append.1 hout).2.2 _ hmem _ List.mem_cons_self rfl
  rw [List.map_append, List.idxOf_append_of_mem hbefore, List.idxOf_append_of_notMem hnew]
  have hlt := List.idxOf_lt_length_of_mem hbefore
  omega

theorem not_cyclic_of_order {out : List Declaration} (hnames : (ds.map (·.name)).Nodup)
    (ho : order ds = .ok out) : ¬ Cyclic ds := by
  have hlt {a b : String} (h : Relation.TransGen (Needs ds) a b) :
      (out.map (·.name)).idxOf b < (out.map (·.name)).idxOf a := by
    induction h with
    | single h => exact h.idxOf_lt hnames ho
    | tail _ h ih => exact (h.idxOf_lt hnames ho).trans ih
  rintro ⟨a, ha⟩
  exact lt_irrefl _ (hlt ha)

/-! ## Cycles, exactly -/

/-- Declarations with different names are ordered, or a cycle is reported. It is reported exactly when
there is one, and what is reported is one, at the place of the declaration that it starts with. -/
theorem order_cyclic (hnames : (ds.map (·.name)).Nodup) :
    ((∃ cycle path, order ds = .error (.uncompilable (.cycle cycle) path)) ↔ Cyclic ds) ∧
      ((∃ out, order ds = .ok out) ↔ ¬ Cyclic ds) ∧
      ∀ cycle path, order ds = .error (.uncompilable (.cycle cycle) path) →
        IsCycle ds cycle ∧ ∃ d ∈ ds, cycle.head? = some d.name ∧ path = d.faultPlace := by
  have hreports := reportsCycle_order hnames
  cases ho : order ds with
  | ok out =>
    have hnone := not_cyclic_of_order hnames ho
    exact ⟨by simpa using hnone, by simpa using hnone, nofun⟩
  | error fault =>
    obtain ⟨cycle, d, hd, hcycle, hfirst, rfl⟩ := hreports fault ho
    have hcyclic : Cyclic ds := hcycle.cyclic
    refine ⟨⟨fun _ => hcyclic, fun _ => ⟨cycle, _, rfl⟩⟩, by simpa using hcyclic, ?_⟩
    intro names path h
    cases h
    exact ⟨hcycle, d, hd, hfirst, rfl⟩

/-- Two declarations that need each other, behind one that they both need. -/
def owning : List Declaration :=
  [{ name := "Name", validator := .type .string, dependsOn := [], source := none },
    { name := "Owner", validator := .ref "Pet", dependsOn := ["Name", "Pet"],
      source := some "#/components/schemas/Owner" },
    { name := "Pet", validator := .ref "Owner", dependsOn := ["Owner", "Name"], source := none }]

theorem order_owning :
    (owning.map (·.name)).Nodup ∧
      order owning = .error (.uncompilable (.cycle ["Owner", "Pet"]) "#/components/schemas/Owner") ∧
      Cyclic owning ∧ IsCycle owning ["Owner", "Pet"] := by
  have hnames : (owning.map (·.name)).Nodup := by decide
  have ho : order owning =
      .error (.uncompilable (.cycle ["Owner", "Pet"]) "#/components/schemas/Owner") := by
    have hfirst : leaves owning =
        [{ name := "Name", validator := .type .string, dependsOn := [], source := none }] := by
      simp [leaves, owning]
    unfold order
    rw [hfirst]
    rfl
  obtain ⟨hiff, -, hgenuine⟩ := order_cyclic hnames
  exact ⟨hnames, ho, hiff.1 ⟨_, _, ho⟩, (hgenuine _ _ ho).1⟩

end Declaration

end ApiContract
