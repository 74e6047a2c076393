import ApiContract.Proofs.Contract.Components

/-!
# What contracts are made of

A contract compiles when its parts do: `compile_ok`. Its operations are those of the sites of the
document, each under its own name: `compileOperations_ok`.
-/

namespace ApiContract

namespace Contract

open Outcome

variable {document : Value} {options : Options} {contract : Contract}

theorem compile_ok :
    (compile document options).result = .ok contract ↔
      ∃ stated, version document = .ok stated ∧
      ∃ service, (Service.compile document).result = .ok service ∧
      ∃ compiled, (compileComponents document options).result = .ok compiled ∧
      ∃ declarations, Declaration.order compiled = .ok declarations ∧
      ∃ operations, (compileOperations document options).result = .ok operations ∧
        { options, service, declarations, operations } = contract := by
  simp only [compile, Reported.result_bind, Reported.result_lift, Reported.result_pure, bind_eq_ok,
    Except.ok.injEq]

/-! ## Operations -/

/-- Where the operation of a site stands. -/
def sitePlace (route method : String) : String :=
  Pointer.raw (Pointer.child "#/paths" route) method

/-- The operation of a site, compiled by itself. -/
def CompilesTo (document : Value) (options : Options) (site : Site) (id : String)
    (operation : Operation) : Prop :=
  ∃ route pathParameters, site.route = .text route ∧
    Operation.idOf site.operation site.method route = .ok id ∧
    site.pathItem.getOrNull "parameters" = .ok pathParameters ∧
    (Operation.compile document site.operation site.method route options.mode options.namePrefix
      (sitePlace route site.method) pathParameters).result = .ok operation

theorem compileSite_ok {earlier operations : List (String × Operation)} {site : Site} :
    (compileSite document options earlier site).result = .ok operations ↔
      ∃ id operation, CompilesTo document options site id operation ∧
        (∀ e ∈ earlier, e.1 ≠ id) ∧ earlier ++ [(id, operation)] = operations := by
  simp only [compileSite, CompilesTo, Reported.result_bind, Reported.result_lift,
    Reported.result_pure, bind_eq_ok, asText_eq_ok, unless_fail_eq_ok, List.any_eq_true, beq_iff_eq,
    not_exists, not_and, Except.ok.injEq, sitePlace]
  constructor
  · rintro ⟨route, hroute, id, hid, hnew, pathParameters, hparameters, operation, hoperation, rfl⟩
    exact ⟨id, operation, ⟨route, pathParameters, hroute, hid, hparameters, hoperation⟩, hnew, rfl⟩
  · rintro ⟨id, operation, ⟨route, pathParameters, hroute, hid, hparameters, hoperation⟩, hnew, rfl⟩
    exact ⟨route, hroute, id, hid, hnew, pathParameters, hparameters, operation, hoperation, rfl⟩

/-- A walk that succeeds adds the operations of its sites, under names that differ from each other and
from those that it starts with. -/
theorem foldlM_compileSite_iff {sites : List Site} {earlier operations : List (String × Operation)}
    (hnodup : (earlier.map (·.1)).Nodup) :
    sites.foldlM (fun earlier site => (compileSite document options earlier site).result) earlier =
        .ok operations ↔
      ∃ added, operations = earlier ++ added ∧
        List.Forall₂ (fun site e => CompilesTo document options site e.1 e.2) sites added ∧
        (operations.map (·.1)).Nodup := by
  induction sites generalizing earlier with
  | nil =>
    rw [List.foldlM_nil, pure_eq_ok]
    constructor
    · rintro rfl
      exact ⟨[], by simp, .nil, hnodup⟩
    · rintro ⟨added, rfl, hadded, -⟩
      cases hadded
      simp
  | cons site rest ih =>
    have hsnoc (id : String) (operation : Operation) :
        ((earlier ++ [(id, operation)]).map (·.1)).Nodup ↔ ∀ e ∈ earlier, e.1 ≠ id := by
      simp [List.nodup_append, hnodup]
    rw [List.foldlM_cons, bind_eq_ok]
    constructor
    · rintro ⟨found, hfound, h⟩
      obtain ⟨id, operation, hsite, hnew, rfl⟩ := compileSite_ok.1 hfound
      obtain ⟨added, rfl, hadded, hnames⟩ := (ih ((hsnoc id operation).2 hnew)).1 h
      exact ⟨(id, operation) :: added, by simp, .cons hsite hadded, hnames⟩
    · rintro ⟨_ , rfl, hadded, hnames⟩
      obtain ⟨⟨id, operation⟩, added, hsite, hrest, rfl⟩ := List.forall₂_cons_left_iff.1 hadded
      rw [List.append_cons] at hnames
      have hprefix : ((earlier ++ [(id, operation)]).map (·.1)).Nodup := by
        rw [List.map_append] at hnames
        exact hnames.of_append_left
      refine ⟨_, compileSite_ok.2 ⟨id, operation, hsite, (hsnoc id operation).1 hprefix, rfl⟩, ?_⟩
      exact (ih hprefix).2 ⟨added, List.append_cons .., hrest, by rwa [List.append_cons]⟩

theorem foldlM_compileSite_nil_iff {sites : List Site} {operations : List (String × Operation)} :
    sites.foldlM (fun earlier site => (compileSite document options earlier site).result) [] =
        .ok operations ↔
      List.Forall₂ (fun site e => CompilesTo document options site e.1 e.2) sites operations ∧
        (operations.map (·.1)).Nodup := by
  rw [foldlM_compileSite_iff (by simp)]
  simp

/-- Each operation of a document is that of its site. -/
theorem compileOperations_ok {operations : List (String × Operation)}
    (h : (compileOperations document options).result = .ok operations) :
    ∃ paths entries, document.getOrNull "paths" = .ok paths ∧ paths.entriesOrNone = .ok entries ∧
      List.Forall₂ (fun site e => CompilesTo document options site e.1 e.2) (sites entries)
        operations := by
  simp only [compileOperations, Reported.result_bind, Reported.result_lift, bind_eq_ok,
    Reported.result_foldlM] at h
  obtain ⟨paths, hpaths, entries, hentries, h⟩ := h
  exact ⟨paths, entries, hpaths, hentries, (foldlM_compileSite_nil_iff.1 h).1⟩

end Contract

end ApiContract
