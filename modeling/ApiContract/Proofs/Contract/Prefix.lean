import ApiContract.Proofs.Contract.Cycles
import ApiContract.Proofs.Declaration.Alike
import ApiContract.Proofs.Operation.Renamed
import Mathlib.Data.String.Basic

/-!
# Contracts under a prefix

The prefix of a compilation stands in front of the names of all declarations and does nothing else. A
text in front of two others keeps their order (`strictMono_append`), so that declarations are sorted alike
under every prefix, and a contract compiled with a prefix is the one compiled without it, renamed:
`compile_prefixed`.
-/

namespace ApiContract

/-- The declaration under other names, its own and those that it refers to. -/
def Declaration.renamed (f : String → String) (d : Declaration) : Declaration :=
  { d with name := f d.name, validator := d.validator.renamed f, dependsOn := d.dependsOn.map f }

/-- The contract with a text in front of the names of all declarations, wherever they stand. -/
def Contract.prefixed (text : String) (c : Contract) : Contract :=
  { c with
    options := { c.options with namePrefix := text }
    declarations := c.declarations.map (·.renamed (text ++ ·))
    operations := c.operations.map fun e => (e.1, e.2.renamed (text ++ ·)) }

theorem Fault.Acyclic.renamed {fault : Fault} (h : fault.Acyclic) (f : String → String) :
    fault.renamed f = fault := by
  unfold Fault.renamed
  split
  · exact absurd rfl (h _ _)
  · rfl

/-- A text in front of others keeps their order. -/
theorem strictMono_append (text : String) : StrictMono (text ++ ·) := by
  intro a b h
  rw [String.lt_iff_toList_lt] at h ⊢
  simp only [String.toList_append]
  exact List.append_left_lt h

namespace Contract

open Outcome Reported

section Steps

variable (document : Value) (mode : Mode) {namePrefix namePrefix' : String} {f : String → String}
  (hf : StrictMono f) (hnames : ∀ name, namePrefix' ++ name = f (namePrefix ++ name))

include hf hnames

theorem alike_compileDeclaration_renamed {name path : String} {schema : Schema} {side : Side} :
    Reported.Alike (fun d d' => d' = d.renamed f)
      (compileDeclaration document namePrefix name schema path side)
      (compileDeclaration document namePrefix' name schema path side) := by
  rw [alike_iff_follows]
  let s : Setting := { document, crossing := side.crossing, namePrefix, suffix := side.suffix }
  have hs : s.Renames f { s with namePrefix := namePrefix' } := {
    crossing := rfl
    use := rfl
    name key := by
      simp only [s, Setting.declarationName, String.append_assoc]
      exact hnames (key ++ side.suffix)
    schemas _ _ _ := .of_eq rfl fun _ _ => trivial }
  unfold compileDeclaration
  refine (Schema.compileValue_renamed hs hf.injective schema).bind
    fun c c' hc => follows_pure ?_
  simp only [Declaration.renamed, hc.validator, hc.dependsOn]
  exact congrArg (Declaration.mk · _ _ _) (hs.name name)

theorem alike_compileComponents_renamed :
    Reported.Alike (List.Forall₂ fun d d' => d' = d.renamed f)
      (compileComponents document ⟨mode, namePrefix⟩)
      (compileComponents document ⟨mode, namePrefix'⟩) := by
  rw [alike_iff_follows]
  unfold compileComponents
  refine follows_bind_same fun components => ?_
  refine (Follows.mapM (List.forall₂_same.2 fun e _ => ?_)).bind fun blocks blocks' hblocks =>
    follows_pure (List.rel_flatten hblocks)
  unfold compileComponent
  refine follows_bind_same fun name => follows_bind_same fun schema => ?_
  exact .mapM (List.forall₂_same.2 fun side _ =>
    (alike_compileDeclaration_renamed document hf hnames).follows)

theorem alike_compileOperations_renamed :
    Reported.Alike (fun os os' => os' = os.map fun e => (e.1, e.2.renamed f))
      (compileOperations document ⟨mode, namePrefix⟩)
      (compileOperations document ⟨mode, namePrefix'⟩) := by
  rw [alike_iff_follows]
  unfold compileOperations
  refine follows_bind_same fun stated => follows_bind_same fun paths => .foldlM rfl ?_
  rintro earlier _ site rfl
  have hany : ∀ id, (earlier.map fun e => (e.1, e.2.renamed f)).any (·.1 == id) =
      earlier.any (·.1 == id) := fun id => by rw [List.any_map]; rfl
  unfold compileSite
  simp only [hany]
  refine follows_bind_same fun route => follows_bind_same fun id => ?_
  split
  · exact follows_fail _
  · refine follows_bind_same fun pathParameters => ?_
    refine (Operation.compile_counterparts
      (Operation.counterparts_refl document site.operation pathParameters)
      hf.injective hnames).bind ?_
    rintro o _ rfl
    exact follows_pure (by simp)

end Steps

/-- With a prefix a document is compiled as without one, up to the names. -/
theorem alikeUpTo_prefixed (document : Value) (mode : Mode) (text : String) :
    (compile document ⟨mode, ""⟩).AlikeUpTo (fun fault fault' => fault.renamed (text ++ ·) = fault')
      (fun c c' => c.prefixed text = c') (compile document ⟨mode, text⟩) := by
  have hf := strictMono_append text
  have hnames : ∀ name, text ++ name = text ++ ("" ++ name) := fun name => by rw [String.empty_append]
  have hfixed : ∀ {α : Type} {x : Except Fault α}, Acyclic x →
      FailsAs (fun fault => fault.renamed (text ++ ·) = fault) x := fun h => h.imp fun _ h => h.renamed _
  unfold compile
  refine ((alike_same _).upTo (hfixed (by simp))).bind fun _ _ _ => ?_
  refine ((alike_same _).upTo (hfixed (by simp))).bind fun service _ hservice => ?_
  have hcomponents := alike_compileComponents_renamed document mode hf hnames
  refine (hcomponents.upTo (hfixed (by simp))).bind fun ds ds' hds => ?_
  -- Only here a cycle can be met.
  have horder := Declaration.agreeUpTo_order hf (R := fun d d' => d' = d.renamed (text ++ ·)) ?_ hds
  · refine (alikeUpTo_lift horder).bind fun sorted sorted' hsorted => ?_
    have hoperations := alike_compileOperations_renamed document mode hf hnames
    refine (hoperations.upTo (hfixed (by simp))).bind fun os os' hos => alikeUpTo_pure ?_
    have hmap : sorted.map (·.renamed (text ++ ·)) = sorted'.map id :=
      hsorted.map_eq fun d d' hd => hd.symm
    rw [prefixed, hmap, List.map_id, ← hservice, hos]
  · rintro d _ rfl
    exact ⟨rfl, rfl, rfl⟩

/-- A prefix is put in front of all names of declarations and changes nothing else: the contract, or the
fault with which there is none, is the one without a prefix, and so are the warnings. -/
theorem compile_prefixed (document : Value) (mode : Mode) (text : String) :
    (compile document ⟨mode, text⟩).warnings = (compile document ⟨mode, ""⟩).warnings ∧
      (compile document ⟨mode, text⟩).result =
        (((compile document ⟨mode, ""⟩).result.map (prefixed text)).mapError
          (Fault.renamed (text ++ ·))) := by
  obtain ⟨hwarnings, hresult⟩ := alikeUpTo_prefixed document mode text
  exact ⟨hwarnings.symm, hresult.eq_map.symm⟩

end Contract

end ApiContract
