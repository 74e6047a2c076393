import ApiContract.Proofs.Contract.Compiled
import ApiContract.Proofs.Declaration.Order

/-!
# The order in which declarations are written down

The declarations of a contract are those of the component schemas, each once and under a name of its
own, and a declaration refers to no listed declaration but those before it: `compile_emission`. The
order only goes by `dependsOn`, so that this rests on `dependsOn` telling all that a declaration refers
to (`refers_iff_mem_dependsOn`).
-/

namespace ApiContract

namespace Contract

open Outcome

variable {document : Value} {options : Options} {contract : Contract}

theorem refers_iff_mem_dependsOn {ds : List Declaration}
    (h : (compileComponents document options).result = .ok ds) {d : Declaration} (hd : d ∈ ds)
    (name : String) : d.validator.Refers name ↔ name ∈ d.dependsOn := by
  obtain ⟨_, _, _, schema, side, -, -, -, -, hd⟩ := component_of_mem h hd
  obtain ⟨c, hc, -, rfl⟩ := compileDeclaration_ok.1 hd
  have htells := Schema.tells_compile schema hc name
  exact htells.refers.trans htells.depends.symm

/-- In a list that settles its declarations, a name stands before the declarations that depend on it. -/
theorem lt_of_settled {ds : List Declaration} (hsettled : Declaration.Settled ds ds)
    (hnames : (ds.map (·.name)).Nodup) {i j : Nat} (hi : i < ds.length) (hj : j < ds.length)
    (h : ds[j].name ∈ ds[i].dependsOn) : j < i := by
  have hsplit : ds = ds.take i ++ ds[i] :: ds.drop (i + 1) := by simp
  have hbefore := hsettled _ _ _ hsplit ds[j] (List.getElem_mem hj) h
  obtain ⟨d, hd, hname⟩ := List.mem_map.1 hbefore
  obtain ⟨k, hk, rfl⟩ := List.mem_take_iff_getElem.1 hd
  have hk' : k < (ds.map (·.name)).length := by
    rw [List.length_map]
    omega
  have hj' : j < (ds.map (·.name)).length := by rwa [List.length_map]
  have hsame : (ds.map (·.name))[k] = (ds.map (·.name))[j] := by simpa using hname
  have hkj : k = j := hnames.getElem_inj_iff.1 hsame
  omega

/-- The declarations of a compiled document: a rearrangement of those of its component schemas, under
names that are all different, in which every reference to a listed name leads backwards. -/
theorem compile_emission (hp : document.Proper)
    (h : (compile document options).result = .ok contract) :
    ∃ compiled, (compileComponents document options).result = .ok compiled ∧
      contract.declarations.Perm compiled ∧ (contract.declarations.map (·.name)).Nodup ∧
      ∀ (i j : Nat) (hi : i < contract.declarations.length) (hj : j < contract.declarations.length),
        contract.declarations[i].validator.Refers contract.declarations[j].name → j < i := by
  obtain ⟨_, -, _, -, compiled, hcompiled, ds, hds, _, -, rfl⟩ := compile_ok.1 h
  have hnames := nodup_names_compileComponents hp hcompiled
  have hperm := Declaration.order_perm hnames hds
  have hnames' : (ds.map (·.name)).Nodup := (hperm.map _).nodup_iff.2 hnames
  have hsettled : Declaration.Settled ds ds := fun before d after hsplit e he hneeded =>
    Declaration.order_settled hnames hds before d after hsplit e (hperm.mem_iff.1 he) hneeded
  refine ⟨compiled, hcompiled, hperm, hnames', fun i j hi hj hrefers => ?_⟩
  have hmem : ds[i] ∈ compiled := hperm.mem_iff.1 (List.getElem_mem hi)
  exact lt_of_settled hsettled hnames' hi hj
    ((refers_iff_mem_dependsOn hcompiled hmem _).1 hrefers)

/-- A document in which a schema stands before the one that it refers to. -/
def owners : Value :=
  .object [("openapi", .text "3.0.3"), ("components", .object [("schemas", .object [
    ("Owners", .object [("type", .text "array"),
      ("items", .object [("$ref", .text "#/components/schemas/Owner")])]),
    ("Owner", .object [("type", .text "string")])])])]

theorem proper_owners : owners.Proper := by simp [owners]

theorem emission_owners :
    ∃ contract compiled, (compile owners ⟨.handler, "Api"⟩).result = .ok contract ∧
      contract.declarations.map (·.name) = ["ApiOwner", "ApiOwners"] ∧
      (compileComponents owners ⟨.handler, "Api"⟩).result = .ok compiled ∧
      contract.declarations.Perm compiled ∧ (contract.declarations.map (·.name)).Nodup ∧
      ∀ (i j : Nat) (hi : i < contract.declarations.length) (hj : j < contract.declarations.length),
        contract.declarations[i].validator.Refers contract.declarations[j].name → j < i := by
  have hnames : (compile owners ⟨.handler, "Api"⟩).result.toOption.map (·.declarations.map (·.name)) =
      some ["ApiOwner", "ApiOwners"] := by decide +kernel
  cases h : (compile owners ⟨.handler, "Api"⟩).result with
  | error fault => simp [h, Except.toOption] at hnames
  | ok contract =>
    obtain ⟨compiled, hcompiled⟩ := compile_emission proper_owners h
    exact ⟨contract, compiled, rfl, by simpa [h, Except.toOption] using hnames, hcompiled⟩

end Contract

end ApiContract
