import ApiContract.Proofs.Agreement
import ApiContract.Proofs.Schema.Compiled
import ApiContract.Proofs.Validator.Morphism

/-!
# Compilations that are images of each other

Two compilations of one schema can differ by a map of validators and a map of names (`Compiled.Image`).
Where their parts differ so, the step that puts the parts together keeps it that way, if the map goes
through validators and different names stay different: one statement for each step, from `agree_finish`
to `agree_finishObject`. Some faults of the first compilation may be excused.
-/

namespace List

theorem eraseDups_map {α β : Type} [BEq α] [LawfulBEq α] [BEq β] [LawfulBEq β] {f : α → β}
    (hf : Function.Injective f) (xs : List α) : (xs.map f).eraseDups = xs.eraseDups.map f := by
  match xs with
  | [] => rfl
  | x :: rest =>
    have hother : ((fun y => !y == f x) ∘ f) = fun y => !y == x := by
      funext y
      simp only [Function.comp_apply, Bool.not_inj_iff]
      rw [Bool.eq_iff_iff, beq_iff_eq, beq_iff_eq]
      exact hf.eq_iff
    rw [map_cons, eraseDups_cons, eraseDups_cons, map_cons, filter_map, hother, eraseDups_map hf]
termination_by xs.length
decreasing_by
  have := rest.length_filter_le fun y => !y == x
  rw [length_cons]
  omega

end List

namespace ApiContract

/-- The second compiled schema is the first one, with its validator and its names mapped. -/
structure Compiled.Image (g : Validator → Validator) (f : String → String) (c c' : Compiled) : Prop where
  validator : c'.validator = g c.validator
  dependsOn : c'.dependsOn = c.dependsOn.map f
  hasDefault : c'.hasDefault = c.hasDefault

namespace Schema

open Outcome Reported

variable {g : Validator → Validator} {f : String → String} (hg : Validator.Morphism g)
  (hf : Function.Injective f) {excused : Fault → Prop} {s s' : Setting}
  {convert convert' : Option Conversion} {style : ArrayStyle} {path : String} {notes : Annotations}

theorem unite_map (hf : Function.Injective f) (names : List (List String)) :
    unite (names.map (·.map f)) = (unite names).map f := by
  unfold unite
  rw [← List.map_flatten, List.eraseDups_map hf]

/-! ## Validators -/

/-- Whether a validator can be finished, and whether it gets a default, does not depend on it. -/
theorem agree_finish_any {rule : Option DefaultRule} {v w : Validator} :
    Agree (fun r r' => r.1 = notes.wrap v ∧ r'.1 = notes.wrap w ∧ r'.2 = r.2)
      (finish notes path rule v) (finish notes path rule w) := by
  unfold finish Annotations.wrap
  cases notes.default with
  | none => exact .ok ⟨rfl, rfl, rfl⟩
  | some default =>
    cases rule with
    | none => exact .ok ⟨rfl, rfl, rfl⟩
    | some rule =>
      by_cases h : rule.accepts default = true
      · simp only [h, ↓reduceIte]
        exact .ok ⟨rfl, rfl, rfl⟩
      · simp only [h, Bool.false_eq_true, ↓reduceIte]
        exact .error _

section Validators

include hg

theorem wrap_map {core : Validator} : g (notes.wrap core) = notes.wrap (g core) := by
  unfold Annotations.wrap
  cases notes.default <;> cases notes.nullable <;> simp [hg.nullable, hg.default]

/-- Two validators are finished alike. -/
theorem agree_finish {rule : Option DefaultRule} {v : Validator} :
    Agree (fun r r' => r'.1 = g r.1 ∧ r'.2 = r.2) (finish notes path rule v)
      (finish notes path rule (g v)) := by
  refine agree_finish_any.imp ?_
  rintro r r' ⟨hv, hgv, hdefault⟩
  exact ⟨by rw [hv, hgv, wrap_map hg], hdefault⟩

theorem Composes.combine_map {schema : Schema} {k : Combination} (h : schema.Composes k)
    (variants : List Validator) : k.combine (variants.map g) = (k.combine variants).map g := by
  cases h with
  | oneOf notes branches discriminator =>
    match variants with
    | [] => rfl
    | [v] => rfl
    | v :: w :: rest => simp [alternatives, hg.union]
  | anyOf => exact hg.unionOf? variants
  | allOf => exact hg.intersectionOf? variants

/-- What is checked of keys that are not listed, mapped. -/
def mapExtra (g : Validator → Validator) : ExtraKeys Validator → ExtraKeys Validator
  | .unstated => .unstated
  | .allowed allow => .allowed allow
  | .typed v => .typed (g v)

theorem objectValidator_map {fields : List (String × Validator)} {hasProperties : Bool}
    {extra : ExtraKeys Validator} :
    g (objectValidator fields hasProperties extra) =
      objectValidator (fields.map fun e => (e.1, g e.2)) hasProperties (mapExtra g extra) := by
  cases extra <;> simp [objectValidator, mapExtra, hg.object, hg.intersection, hg.record]

end Validators

/-! ## Compositions -/

section Lists

variable {branches branches' : List Compiled}
  (h : List.Forall₂ (Compiled.Image g f) branches branches')

include h

theorem validators_of_image : branches'.map (·.validator) = (branches.map (·.validator)).map g := by
  rw [List.map_map]
  exact (h.map_eq fun _ _ hc => hc.validator.symm).symm

theorem dependsOn_of_image :
    branches'.map (·.dependsOn) = (branches.map (·.dependsOn)).map (·.map f) := by
  rw [List.map_map]
  exact (h.map_eq fun _ _ hc => hc.dependsOn.symm).symm

theorem hasDefault_of_image : branches'.any (·.hasDefault) = branches.any (·.hasDefault) :=
  (h.any_eq fun _ _ hc => hc.hasDefault.symm).symm

include hg hf

theorem agree_composeBranches {schema : Schema} {k : Combination} (hk : schema.Composes k) :
    Agree (Compiled.Image g f) (composeBranches k.notes path branches k.combine k.keyword)
      (composeBranches k.notes path branches' k.combine k.keyword) := by
  unfold composeBranches
  rw [validators_of_image h, hk.combine_map hg]
  cases k.combine (branches.map (·.validator)) with
  | none => exact .error _
  | some core =>
    refine (agree_finish hg).bind ?_
    rintro ⟨v, hasDefault⟩ ⟨v', hasDefault'⟩ ⟨hv, hdefault⟩
    refine .ok ⟨hv, ?_, ?_⟩
    · dsimp only
      rw [dependsOn_of_image h, unite_map hf]
    · dsimp only at hdefault ⊢
      rw [hdefault, hasDefault_of_image h, h.length_eq]

end Lists

theorem follows_compileBranches {variants : List Schema} {index : Nat}
    (h : ∀ t ∈ variants, ∀ path, Follows excused (Compiled.Image g f)
      (compile s convert style path t) (compile s' convert' style path t)) :
    Follows excused (List.Forall₂ (Compiled.Image g f))
      (compileBranches s convert style path index variants)
      (compileBranches s' convert' style path index variants) := by
  rw [compileBranches_eq_mapM, compileBranches_eq_mapM]
  exact .mapM (List.forall₂_same.2 fun b hb => h b.1 (List.fst_mem_of_mem_zipIdx hb) _)

/-! ## Required values and arrays -/

section Steps

include hg

theorem agree_requireValue {required : Bool} {c c' : Compiled} (h : c.Image g f c') :
    Agree (Compiled.Image g f) (requireValue required path c) (requireValue required path c') := by
  obtain ⟨hv, hdepends, hdefault⟩ := h
  unfold requireValue
  rw [hdefault]
  cases required with
  | true =>
    cases c.hasDefault with
    | true => exact .error _
    | false => exact .ok ⟨hv, hdepends, hdefault⟩
  | false =>
    cases c.hasDefault with
    | true => exact .ok ⟨hv, hdepends, hdefault⟩
    | false => exact .ok ⟨by rw [hv, hg.optional], hdepends, rfl⟩

theorem agree_finishArray {item item' : Compiled} (h : item.Image g f item') :
    Agree (Compiled.Image g f) (finishArray notes path item) (finishArray notes path item') := by
  unfold finishArray
  rw [h.validator, ← hg.array]
  refine (agree_finish hg).bind ?_
  rintro ⟨v, hasDefault⟩ ⟨v', hasDefault'⟩ ⟨hv, hdefault⟩
  exact .ok ⟨hv, h.dependsOn, hdefault⟩

end Steps

/-! ## Objects -/

/-- Two fields of one name, of which the second is the image of the first. -/
def FieldImage (g : Validator → Validator) (f : String → String) (e e' : String × Compiled) : Prop :=
  e'.1 = e.1 ∧ e.2.Image g f e'.2

/-- What is checked of keys that are not listed, and the names it refers to, both mapped. -/
def ExtraImage (g : Validator → Validator) (f : String → String)
    (r r' : ExtraKeys Validator × List String) : Prop :=
  r'.1 = mapExtra g r.1 ∧ r'.2 = r.2.map f

include hg

theorem follows_compileProperties {required : List String} {properties : List (String × Schema)}
    (h : ∀ p ∈ properties, ∀ path, Follows excused (Compiled.Image g f)
      (compile s none .standard path p.2) (compile s' none .standard path p.2)) :
    Follows excused (List.Forall₂ (FieldImage g f))
      (properties.mapM (compileProperty s path required))
      (properties.mapM (compileProperty s' path required)) := by
  refine .mapM (List.forall₂_same.2 fun p hp => ?_)
  unfold compileProperty
  refine (h p hp _).bind fun c c' hc => ?_
  refine (follows_lift (agree_requireValue hg hc)).bind fun c c' hc => ?_
  exact follows_pure ⟨rfl, hc⟩

omit hg in
theorem follows_compileExtra {extra : ExtraKeys Schema}
    (h : ∀ schema, extra.schema? = some schema → Follows excused (Compiled.Image g f)
      (compile s none .standard path schema) (compile s' none .standard path schema)) :
    Follows excused (ExtraImage g f) (compileExtra s path extra) (compileExtra s' path extra) := by
  cases extra with
  | unstated => exact follows_pure ⟨rfl, rfl⟩
  | allowed allow => exact follows_pure ⟨rfl, rfl⟩
  | typed schema =>
    unfold compileExtra
    refine (h schema rfl).bind fun c c' hc => ?_
    refine follows_pure ⟨?_, hc.dependsOn⟩
    rw [hc.validator, mapExtra]

include hf

theorem agree_finishObject {hasProperties : Bool} {fields fields' : List (String × Compiled)}
    {extra extra' : ExtraKeys Validator × List String}
    (h : List.Forall₂ (FieldImage g f) fields fields') (hextra : ExtraImage g f extra extra') :
    Agree (Compiled.Image g f) (finishObject notes path hasProperties fields extra)
      (finishObject notes path hasProperties fields' extra') := by
  have hvalidators : fields'.map (fun e => (e.1, e.2.validator)) =
      (fields.map fun e => (e.1, e.2.validator)).map fun e => (e.1, g e.2) := by
    rw [List.map_map]
    refine (h.map_eq fun e e' he => ?_).symm
    exact Prod.ext he.1.symm he.2.validator.symm
  have hdepends : fields'.map (·.2.dependsOn) ++ [extra'.2] =
      (fields.map (·.2.dependsOn) ++ [extra.2]).map (·.map f) := by
    rw [List.map_append, List.map_map, List.map_singleton, ← hextra.2]
    exact congrArg (· ++ _) (h.map_eq fun _ _ he => he.2.dependsOn.symm).symm
  unfold finishObject
  dsimp only
  rw [hvalidators, hextra.1, ← objectValidator_map hg]
  refine (agree_finish hg).bind ?_
  rintro ⟨v, hasDefault⟩ ⟨v', hasDefault'⟩ ⟨hv, hdefault⟩
  refine .ok ⟨hv, ?_, hdefault⟩
  dsimp only
  rw [hdepends, unite_map hf]

/-- Two compilations of an object without a conversion are images if those of what it is made of are. -/
theorem follows_compileObject {properties : Option (List (String × Schema))} {required : List String}
    {extra : ExtraKeys Schema}
    (h : ∀ t ∈ (object notes properties required extra).children, ∀ path,
      Follows excused (Compiled.Image g f) (compile s none .standard path t)
        (compile s' none .standard path t)) :
    Follows excused (Compiled.Image g f)
      (compile s none style path (.object notes properties required extra))
      (compile s' none style path (.object notes properties required extra)) := by
  rw [compile_object, compile_object]
  cases danglingName? required (properties.getD []) with
  | some name => exact follows_fail _
  | none =>
    refine (follows_compileProperties hg fun p hp path => h p.2 (property_mem_children hp) path).bind ?_
    intro fields fields' hfields
    refine (follows_compileExtra fun schema hs => h schema (extra_mem_children hs) _).bind ?_
    exact fun compiled compiled' he => follows_lift (agree_finishObject hg hf hfields he)

end Schema

end ApiContract
