import ApiContract.Validator.Basic

/-!
# Maps that go through validators

A map of validators is a `Morphism` when it goes through everything that compositions, containers and
annotations put together, and makes no union and no intersection of anything else. Then it goes through
folds as well, which open what is of their own kind: `Morphism.unionOf?`, `Morphism.intersectionOf?`.
-/

namespace ApiContract.Validator

structure Morphism (g : Validator → Validator) : Prop where
  union : ∀ variants discriminator,
    g (.union variants discriminator) = .union (variants.map g) discriminator
  intersection : ∀ parts, g (.intersection parts) = .intersection (parts.map g)
  array : ∀ item, g (.array item) = .array (g item)
  object : ∀ fields extra, g (.object fields extra) = .object (fields.map fun f => (f.1, g f.2)) extra
  record : ∀ value, g (.record value) = .record (g value)
  optional : ∀ base, g (.optional base) = .optional (g base)
  nullable : ∀ base, g (.nullable base) = .nullable (g base)
  default : ∀ base value, g (.default base value) = .default (g base) value
  of_union : ∀ v variants, g v = .union variants none → ∃ vs, v = .union vs none
  of_intersection : ∀ v parts, g v = .intersection parts → ∃ vs, v = .intersection vs

theorem morphism_id : Morphism id where
  union _ _ := by simp
  intersection _ := by simp
  array _ := rfl
  object _ _ := by simp
  record _ := rfl
  optional _ := rfl
  nullable _ := rfl
  default _ _ := rfl
  of_union _ variants h := ⟨variants, h⟩
  of_intersection _ parts h := ⟨parts, h⟩

variable {v w first : Validator} {rest : List Validator}

theorem orElse_of_ne (h : ∀ variants, v ≠ union variants none) : v.orElse w = union [v, w] none := by
  unfold orElse
  split
  · exact absurd rfl (h _)
  · rfl

theorem andAlso_of_ne (h : ∀ parts, v ≠ intersection parts) : v.andAlso w = intersection [v, w] := by
  unfold andAlso
  split
  · exact absurd rfl (h _)
  · rfl

namespace Morphism

variable {g : Validator → Validator} (hg : Morphism g)

include hg

theorem orElse : g (v.orElse w) = (g v).orElse (g w) := by
  by_cases h : ∃ variants, v = .union variants none
  · obtain ⟨variants, rfl⟩ := h
    simp [Validator.orElse, hg.union]
  · rw [orElse_of_ne fun variants hv => h ⟨variants, hv⟩, hg.union,
      orElse_of_ne fun variants hv => h (hg.of_union v variants hv)]
    rfl

theorem andAlso : g (v.andAlso w) = (g v).andAlso (g w) := by
  by_cases h : ∃ parts, v = .intersection parts
  · obtain ⟨parts, rfl⟩ := h
    simp [Validator.andAlso, hg.intersection]
  · rw [andAlso_of_ne fun parts hv => h ⟨parts, hv⟩, hg.intersection,
      andAlso_of_ne fun parts hv => h (hg.of_intersection v parts hv)]
    rfl

theorem unionOf : g (Validator.unionOf first rest) = Validator.unionOf (g first) (rest.map g) := by
  unfold Validator.unionOf
  induction rest generalizing first with
  | nil => rfl
  | cons w rest ih => rw [List.foldl_cons, ih, hg.orElse, List.map_cons, List.foldl_cons]

theorem intersectionOf :
    g (Validator.intersectionOf first rest) = Validator.intersectionOf (g first) (rest.map g) := by
  unfold Validator.intersectionOf
  induction rest generalizing first with
  | nil => rfl
  | cons w rest ih => rw [List.foldl_cons, ih, hg.andAlso, List.map_cons, List.foldl_cons]

theorem unionOf? (variants : List Validator) :
    Validator.unionOf? (variants.map g) = (Validator.unionOf? variants).map g := by
  cases variants with
  | nil => rfl
  | cons v rest => rw [List.map_cons, Validator.unionOf?, Validator.unionOf?, Option.map_some, hg.unionOf]

theorem intersectionOf? (parts : List Validator) :
    Validator.intersectionOf? (parts.map g) = (Validator.intersectionOf? parts).map g := by
  cases parts with
  | nil => rfl
  | cons v rest =>
    rw [List.map_cons, Validator.intersectionOf?, Validator.intersectionOf?, Option.map_some,
      hg.intersectionOf]

end Morphism

end ApiContract.Validator
