import ApiContract.Proofs.Contract.Survey

/-!
# Where cycles are reported

A cycle of declarations is reported when the declarations of a document are ordered, and nowhere else:
what is read and compiled before and after that ends with other faults (`Acyclic`). So every cycle is
one of the component schemas: `cycle_of_compile`.
-/

namespace ApiContract

open Outcome Reported

/-- A fault other than a cycle of declarations. -/
def Fault.Acyclic (fault : Fault) : Prop := ∀ names path, fault ≠ .uncompilable (.cycle names) path

/-- The computation does not end with a cycle of declarations. -/
abbrev Acyclic {α : Type} (x : Except Fault α) : Prop := FailsAs Fault.Acyclic x

variable {document : Value} {options : Options}

/-- Faults that are traced to their places are no cycles, wherever a fault may point. -/
theorem acyclic_of_traced {α : Type} {S : Survey document} {x : Except Fault α}
    (h : FailsAs S.Traced x) : Acyclic x :=
  h.imp fun _ hfault names path heq => (hfault _ path heq).1 names rfl

theorem acyclic_of_placed {α : Type} {S : Survey document} {x : Except Fault α}
    (h : FailsAs S.Placed x) : Acyclic x :=
  acyclic_of_traced (S.traced_of_placed h)

@[simp] theorem Service.acyclic_compile : Acyclic (Service.compile document).result :=
  acyclic_of_placed (Service.placed_compile (S := .trivial document))

namespace Contract

@[simp] theorem acyclic_version : Acyclic (version document) :=
  acyclic_of_placed (placed_version (S := .trivial document))

@[simp] theorem acyclic_compileComponents : Acyclic (compileComponents document options).result :=
  acyclic_of_placed (placed_compileComponents (S := .trivial document))

@[simp] theorem acyclic_compileOperations : Acyclic (compileOperations document options).result :=
  acyclic_of_traced (traced_compileOperations (S := .trivial document))

/-- A cycle that a compilation ends with is one of the component schemas, met when they are ordered. -/
theorem cycle_of_compile {names : List String} {path : String}
    (h : (compile document options).result = .error (.uncompilable (.cycle names) path)) :
    ∃ ds, (compileComponents document options).result = .ok ds ∧
      Declaration.order ds = .error (.uncompilable (.cycle names) path) := by
  have hcycle : ¬ Fault.Acyclic (.uncompilable (.cycle names) path) := fun h => h names path rfl
  unfold compile at h
  simp only [result_bind, result_lift, result_pure] at h
  obtain ⟨_, -, h⟩ := (acyclic_version.bind_eq_error hcycle).1 h
  obtain ⟨_, -, h⟩ := (Service.acyclic_compile.bind_eq_error hcycle).1 h
  obtain ⟨ds, hds, h⟩ := (acyclic_compileComponents.bind_eq_error hcycle).1 h
  refine ⟨ds, hds, ?_⟩
  cases horder : Declaration.order ds with
  | error fault =>
    rw [horder] at h
    cases h
    rfl
  | ok sorted =>
    rw [horder] at h
    obtain ⟨_, -, h⟩ := (acyclic_compileOperations.bind_eq_error hcycle).1 h
    cases h

end Contract

end ApiContract
