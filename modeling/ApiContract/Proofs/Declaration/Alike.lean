import ApiContract.Declaration.Order
import ApiContract.Proofs.Agreement
import Mathlib.Data.List.Basic
import Mathlib.Data.String.Basic
import Mathlib.Order.Monotone.Basic

/-!
# Declarations that are ordered alike

The order of declarations goes by what stands at their head: names, dependencies and sources. Two lists
whose declarations have the same heads one by one, up to names that compare in the same way
(`HeadImage`), are ordered in the same way or rejected with the same fault up to these names, whatever
the validators are: `agreeUpTo_order`, and `agree_order` where the names are the same.
-/

namespace List

variable {α β : Type} {R : α → β → Prop} {xs : List α} {ys : List β}

/-- Sorting keeps a pairing whose items compare alike. -/
theorem Forall₂.mergeSort {le : α → α → Bool} {le' : β → β → Bool} (h : Forall₂ R xs ys)
    (hle : ∀ x y x' y', R x y → R x' y' → le x x' = le' y y') :
    Forall₂ R (xs.mergeSort le) (ys.mergeSort le') := by
  -- Both are sorted as one list of pairs, which compare by either of their sides.
  obtain ⟨hlength, hzip⟩ := forall₂_iff_zip.1 h
  have hfst : (xs.zip ys).map Prod.fst = xs := map_fst_zip (by omega)
  have hsnd : (xs.zip ys).map Prod.snd = ys := map_snd_zip (by omega)
  let pairs := (xs.zip ys).mergeSort fun p q => le p.1 q.1
  have hpairs : ∀ p ∈ pairs, R p.1 p.2 := fun p hp => hzip (mem_mergeSort.1 hp)
  have hleft : pairs.map Prod.fst = xs.mergeSort le := by
    rw [map_mergeSort (s := le) fun p _ q _ => rfl, hfst]
  have hright : pairs.map Prod.snd = ys.mergeSort le' := by
    rw [map_mergeSort (s := le') fun p hp q hq => hle _ _ _ _ (hzip hp) (hzip hq), hsnd]
  rw [← hleft, ← hright, forall₂_map_left_iff, forall₂_map_right_iff]
  exact forall₂_same.2 hpairs

end List

namespace ApiContract

/-- The names of a reported cycle are mapped; all other faults stay as they are. -/
def Fault.renamed (f : String → String) : Fault → Fault
  | .uncompilable (.cycle names) path => .uncompilable (.cycle (names.map f)) path
  | fault => fault

theorem Fault.renamed_id (fault : Fault) : fault.renamed id = fault := by
  unfold Fault.renamed
  split
  · rw [List.map_id]
  · rfl

namespace Declaration

open Outcome

/-- All but the validator is the same. -/
structure SameHead (d d' : Declaration) : Prop where
  name : d'.name = d.name
  dependsOn : d'.dependsOn = d.dependsOn
  source : d'.source = d.source

/-- All but the validator is the same, up to the names. -/
structure HeadImage (f : String → String) (d d' : Declaration) : Prop where
  name : d'.name = f d.name
  dependsOn : d'.dependsOn = d.dependsOn.map f
  source : d'.source = d.source

variable {f : String → String} {R : Declaration → Declaration → Prop}
  {pool pool' ds ds' : List Declaration} {d d' : Declaration}

theorem SameHead.image (h : d.SameHead d') : d.HeadImage id d' :=
  ⟨h.name, h.dependsOn.trans (List.map_id _).symm, h.source⟩

/-- The names that are placed are mapped, and the declarations are related one by one. -/
structure Placement.Image (f : String → String) (R : Declaration → Declaration → Prop)
    (p p' : Placement) : Prop where
  names : p'.names = p.names.map f
  declarations : List.Forall₂ R p.declarations p'.declarations

theorem Placement.Image.place {p p' : Placement} (h : p.Image f R p') (hd : R d d')
    (hhead : d.HeadImage f d') : (p.place d).Image f R (p'.place d') := by
  refine ⟨?_, ?_⟩
  · show p'.names ++ [d'.name] = (p.names ++ [d.name]).map f
    rw [h.names, hhead.name, List.map_append, List.map_singleton]
  · exact List.rel_append h.declarations (.cons hd .nil)

section Related

variable (hf : StrictMono f) (hR : ∀ d d', R d d' → d.HeadImage f d')

include hf

theorem beq_map (a b : String) : (f a == f b) = (a == b) := by
  rw [Bool.eq_iff_iff, beq_iff_eq, beq_iff_eq]
  exact hf.injective.eq_iff

theorem contains_map (names : List String) (a : String) :
    (names.map f).contains (f a) = names.contains a := by
  rw [Bool.eq_iff_iff, List.contains_iff_mem, List.contains_iff_mem]
  exact List.mem_map_of_injective hf.injective

include hR

theorem forall₂_current (h : List.Forall₂ R ds ds') : List.Forall₂ R (current ds) (current ds') := by
  induction h with
  | nil => exact .nil
  | @cons d d' rest rest' hd hrest ih =>
    have hany : rest'.any (·.name == d'.name) = rest.any (·.name == d.name) := by
      refine (hrest.any_eq fun e e' he => ?_).symm
      rw [(hR e e' he).name, (hR d d' hd).name, beq_map hf]
    unfold current
    rw [hany]
    cases rest.any (·.name == d.name) with
    | true => exact ih
    | false => exact .cons hd ih

theorem forall₂_dependencies (h : List.Forall₂ R pool pool') (hhead : d.HeadImage f d') :
    List.Forall₂ R (dependencies pool d) (dependencies pool' d') := by
  unfold dependencies
  refine List.rel_filter (fun e e' he => ?_) h
  show _ = true ↔ _ = true
  rw [(hR e e' he).name, hhead.dependsOn, contains_map hf]

theorem forall₂_leaves (h : List.Forall₂ R ds ds') : List.Forall₂ R (leaves ds) (leaves ds') := by
  refine List.Forall₂.mergeSort (List.rel_filter (fun d d' hd => ?_) h) ?_
  · show _ = true ↔ _ = true
    rw [(hR d d' hd).dependsOn, List.isEmpty_map]
  · intro d d' e e' hd he
    rw [(hR d d' hd).name, (hR e e' he).name, Bool.eq_iff_iff, decide_eq_true_iff, decide_eq_true_iff]
    exact hf.le_iff_le.symm

theorem find_source (h : List.Forall₂ R pool pool') (name : String) :
    (pool'.find? (·.name == f name)).bind (·.source) =
      (pool.find? (·.name == name)).bind (·.source) := by
  induction h with
  | nil => rfl
  | @cons d d' rest rest' hd _ ih =>
    rw [List.find?_cons, List.find?_cons, (hR d d' hd).name, beq_map hf]
    cases d.name == name with
    | true => exact (hR d d' hd).source
    | false => exact ih

/-- A cycle is reported at the same place, under the other names. -/
theorem cycleFault_map (h : List.Forall₂ R pool pool') (cycle : List String) :
    cycleFault pool' (cycle.map f) = (cycleFault pool cycle).renamed f := by
  cases cycle with
  | nil => rfl
  | cons first rest =>
    show Fault.uncompilable _ (match (pool'.find? (·.name == f first)).bind (·.source) with
      | none | some "" => _
      | some source => source) = _
    rw [find_source hf hR h first]
    rfl

theorem agreeUpTo_visit (h : List.Forall₂ R pool pool') (levels : Nat) (path : List String)
    {p p' : Placement} (hp : p.Image f R p') (hd : R d d') :
    AgreeUpTo (fun e e' => e.renamed f = e') (Placement.Image f R) (visit pool levels path p d)
      (visit pool' levels (path.map f) p' d') := by
  -- The names placed and the path are images in the second run, so that both take the same branch.
  induction levels generalizing path p p' d d' with
  | zero => exact .error rfl
  | succ levels ih =>
    have hhead := hR d d' hd
    have hdrop : (path.map f).dropWhile (· != f d.name) = (path.dropWhile (· != d.name)).map f := by
      rw [List.dropWhile_map]
      congr 2
      funext name
      simp only [Function.comp_apply, bne, beq_map hf]
    unfold visit
    rw [hp.names, hhead.name, contains_map hf, contains_map hf, hdrop, cycleFault_map hf hR h]
    cases p.names.contains d.name with
    | true => exact .ok hp
    | false =>
      cases path.contains d.name with
      | true => exact .error rfl
      | false =>
        have hdeps := forall₂_dependencies hf hR h hhead
        refine AgreeUpTo.bind (.foldlM hdeps hp fun q q' e e' hq he => ?_) fun q q' _ hq => ?_
        · simpa using ih (path ++ [d.name]) hq he
        · exact .ok (hq.place hd hhead)

/-- Declarations whose heads are images of each other, under names that compare in the same way, are
ordered alike. -/
theorem agreeUpTo_order (h : List.Forall₂ R ds ds') :
    AgreeUpTo (fun e e' => e.renamed f = e') (List.Forall₂ R) (order ds) (order ds') := by
  have hleaves := forall₂_leaves hf hR h
  have hstart : Placement.Image f R ⟨(leaves ds).map (·.name), leaves ds⟩
      ⟨(leaves ds').map (·.name), leaves ds'⟩ := by
    refine ⟨?_, hleaves⟩
    show (leaves ds').map (·.name) = ((leaves ds).map (·.name)).map f
    rw [List.map_map]
    exact (hleaves.map_eq fun d d' hd => (hR d d' hd).name.symm).symm
  unfold order
  rw [h.length_eq]
  refine AgreeUpTo.bind (.foldlM h hstart fun q q' d d' hq hd => ?_) fun q q' _ hq => .ok hq.declarations
  exact agreeUpTo_visit hf hR (forall₂_current hf hR h) _ [] hq hd

end Related

/-- Declarations with the same heads are ordered alike. -/
theorem agree_order (hR : ∀ d d', R d d' → d.SameHead d') (h : List.Forall₂ R ds ds') :
    Agree (List.Forall₂ R) (order ds) (order ds') := by
  have hup := agreeUpTo_order (f := id) strictMono_id (fun d d' hd => (hR d d' hd).image) h
  simp only [Fault.renamed_id] at hup
  exact agree_iff_upTo.2 hup

end Declaration

end ApiContract
