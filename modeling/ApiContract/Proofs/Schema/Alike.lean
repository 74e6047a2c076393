import ApiContract.Proofs.Schema.Image
import ApiContract.Proofs.Schema.Leaves
import ApiContract.Proofs.Validator.Within

/-!
# Compilations that differ in their leaves

Two compilations of a schema go through it in the same way. So one is the image of the other as soon as
this holds of the leaves, of the joining of arrays, and of what is refused to objects: `LeavesFollow`
says this of one schema, and `follows_compile_of_leaves` concludes it of the whole. What the leaves have
in common stands before: a map that keeps leaves keeps enums and binary payloads, and the kinds of
scalars are told apart once (`alike_compileScalar_of`).
-/

namespace ApiContract

namespace Schema

open Outcome Reported

variable {g : Validator → Validator} {f : String → String} {excused : Fault → Prop} {s s' : Setting}
  {convert convert' : Option Conversion} {style : ArrayStyle} {path : String} {notes : Annotations}

/-! ## Leaves -/

section Finish

variable {rule : Option DefaultRule} {core : Validator}

/-- Two steps that follow the same finished validator are images of each other if they are so of the
annotated validator. -/
theorem agree_finish_same {k l : Validator → Validator}
    (h : l (notes.wrap core) = g (k (notes.wrap core))) :
    Agree (Compiled.Image g f)
      (do
        let (v, hasDefault) ← finish notes path rule core
        return { validator := k v, hasDefault })
      (do
        let (v, hasDefault) ← finish notes path rule core
        return { validator := l v, hasDefault }) := by
  refine .bind_same ?_
  rintro ⟨v, hasDefault⟩ hfinish
  obtain ⟨rfl, -, -⟩ := finish_eq_ok.1 hfinish
  exact .ok ⟨h, rfl, rfl⟩

/-- What is only finished is its own image if the map keeps it. -/
theorem agree_finish_unchanged (hg : Validator.Morphism g) (hcore : g core = core) :
    Agree (Compiled.Image g f)
      (do
        let (v, hasDefault) ← finish notes path rule core
        return { validator := v, hasDefault })
      (do
        let (v, hasDefault) ← finish notes path rule core
        return { validator := v, hasDefault }) :=
  agree_finish_same (k := id) (l := id) (by rw [id, wrap_map hg, hcore])

end Finish

section Kept

variable (hg : Validator.Morphism g) (hleaf : ∀ v : Validator, v.children = [] → g v = v)

include hg hleaf

theorem enumValidator_map (values : List Value) : g (enumValidator values) = enumValidator values := by
  unfold enumValidator
  split
  next => exact hleaf _ rfl
  next => exact hleaf _ rfl
  next => exact hleaf _ rfl
  next =>
    rw [hg.union, List.map_map]
    exact congrArg (Validator.union · none) (List.map_congr_left fun v _ => hleaf _ rfl)

/-- Enums that do not pass the boundary to strings are the same in every compilation. -/
theorem agree_compileEnum_none {values : List Value} :
    Agree (Compiled.Image g f) (compileEnum notes values path none)
      (compileEnum notes values path none) :=
  agree_finish_unchanged hg (enumValidator_map hg hleaf values)

omit hg in
/-- References that are compiled to the same are kept as well. -/
theorem agree_compileRef_of_eq {target : String}
    (h : compileRef s target path = compileRef s' target path) :
    Agree (Compiled.Image g id) (compileRef s target path) (compileRef s' target path) := by
  refine .of_eq h fun c hc => ?_
  have hc : (compile s none .standard path (.ref ⟨none, false, none⟩ target)).result = .ok c := hc
  obtain ⟨_, _, _, _, rfl⟩ := compile_ref_ok.1 hc
  exact ⟨(hleaf _ rfl).symm, (List.map_id _).symm, rfl⟩

theorem binaryBase_map (use : Use) : g (binaryBase use) = binaryBase use := by
  cases use with
  | response => simp [binaryBase, hg.union, hleaf (.binary _) rfl]
  | request | unknown => exact hleaf _ rfl

/-- A binary payload is the same in every compilation for one use, and refused in the same words for one
place of a parameter. -/
theorem agree_compileBinary {fields : ScalarSchema} {format : String} (huse : s'.use = s.use)
    (hlocation : convert'.map (·.location) = convert.map (·.location)) :
    Agree (Compiled.Image g f) (compileBinary s notes fields format path convert)
      (compileBinary s' notes fields format path convert') := by
  simp only [compileBinary, huse]
  generalize List.find? _ _ = constraint
  cases constraint with
  | some constraint => exact .error _
  | none =>
    cases convert with
    | some convert =>
      obtain ⟨convert', rfl, heq⟩ := Option.map_eq_some_iff.1 hlocation
      dsimp only at heq ⊢
      rw [heq]
      exact .error _
    | none =>
      obtain rfl : convert' = none := by simpa using hlocation
      refine .bind_same ?_
      rintro ⟨v, hasDefault⟩ hfinish
      obtain ⟨rfl, -, -⟩ := finish_eq_ok.1 hfinish
      exact .ok ⟨by rw [wrap_map hg, binaryBase_map hg hleaf], rfl, rfl⟩

/-- Scalars are compiled alike if those that are parsed from strings of their own and those that are
dates are. -/
theorem alike_compileScalar_of {fields : ScalarSchema} (huse : s'.use = s.use)
    (hlocation : convert'.map (·.location) = convert.map (·.location))
    (typed : ∀ base wire rule kind, Typed fields base wire rule kind →
      Agree (Compiled.Image g f) (compileTyped notes path convert base wire rule kind)
        (compileTyped notes path convert' base wire rule kind))
    (date : ∀ isDate : Bool, fields.type = .string →
      fields.format = some (if isDate then "date" else "date-time") →
      Agree (Compiled.Image g f) (compileDate s notes fields isDate path convert)
        (compileDate s' notes fields isDate path convert')) :
    Reported.Alike (Compiled.Image g f) (compileScalar s notes fields path convert)
      (compileScalar s' notes fields path convert') := by
  unfold compileScalar
  split
  next htype =>
    unfold compileString
    split
    next => exact ⟨rfl, agree_compileBinary hg hleaf huse hlocation⟩
    next => exact ⟨rfl, agree_compileBinary hg hleaf huse hlocation⟩
    next hformat => exact ⟨rfl, date true htype hformat⟩
    next hformat => exact ⟨rfl, date false htype hformat⟩
    next =>
      refine ⟨rfl, .of_eq rfl fun c hc => ?_⟩
      obtain ⟨-, rfl⟩ := compilePlainString_ok.1 hc
      exact ⟨by rw [wrap_map hg, stringBase, hleaf _ rfl], rfl, rfl⟩
  next =>
    refine ⟨rfl, ?_⟩
    have hsome : convert'.isSome = convert.isSome := by
      simpa using congrArg Option.isSome hlocation
    simp only [result_lift, hsome]
    cases convert.isSome with
    | true => exact .error _
    | false => exact agree_finish_unchanged hg (hleaf _ rfl)
  next htype => exact ⟨rfl, typed _ _ _ _ (.boolean htype)⟩
  next htype => exact ⟨rfl, typed _ _ _ _ (.integer htype)⟩
  next htype => exact ⟨rfl, typed _ _ _ _ (.number htype)⟩

end Kept

/-! ## Whole schemas -/

/-- The two compilations treat alike what has no parts within the schema, and they agree on the passages
of arrays and objects. -/
structure LeavesFollow (excused : Fault → Prop) (g : Validator → Validator) (f : String → String)
    (s : Setting) (convert : Option Conversion) (s' : Setting) (convert' : Option Conversion)
    (schema : Schema) : Prop where
  refs : ∀ notes target path, (Schema.ref notes target).Within schema →
    Agree (Compiled.Image g f) (compileRef s target path) (compileRef s' target path)
  enums : ∀ notes values path, (Schema.enum notes values).Within schema →
    (∃ fault, compileEnum notes values path convert = .error fault ∧ excused fault) ∨
      Agree (Compiled.Image g f) (compileEnum notes values path convert)
        (compileEnum notes values path convert')
  scalars : ∀ notes fields path, (Schema.scalar notes fields).Within schema →
    Reported.Alike (Compiled.Image g f) (compileScalar s notes fields path convert)
      (compileScalar s' notes fields path convert')
  arrays : ∀ notes items, (Schema.array notes items).Within schema →
    convert'.any (·.direction == .fromString) = convert.any (·.direction == .fromString) ∧
      ∀ path style c c', c.Image g f c' → Agree (Compiled.Image g f)
        (joinArray path convert style c) (joinArray path convert' style c')
  objects : convert'.isSome = convert.isSome

theorem LeavesFollow.of_child {schema t : Schema}
    (h : LeavesFollow excused g f s convert s' convert' schema) (ht : t ∈ schema.children) :
    LeavesFollow excused g f s convert s' convert' t where
  refs notes target path hw := h.refs notes target path (.child ht hw)
  enums notes values path hw := h.enums notes values path (.child ht hw)
  scalars notes fields path hw := h.scalars notes fields path (.child ht hw)
  arrays notes items hw := h.arrays notes items (.child ht hw)
  objects := h.objects

/-- Compilations that treat leaves alike are images of each other. -/
theorem follows_compile_of_leaves (hg : Validator.Morphism g) (hf : Function.Injective f)
    (schema : Schema) (h : LeavesFollow excused g f s convert s' convert' schema) :
    Follows excused (Compiled.Image g f) (compile s convert style path schema)
      (compile s' convert' style path schema) := by
  induction schema using Schema.induction generalizing style path with
  | step schema ih =>
    have ih : ∀ t ∈ schema.children, ∀ style path, Follows excused (Compiled.Image g f)
        (compile s convert style path t) (compile s' convert' style path t) :=
      fun t ht style path => ih t ht (h.of_child ht)
    cases schema using shapes with
    | ref notes target => exact follows_lift (h.refs notes target path .self)
    | composed schema k hk =>
      rw [compile_composes hk, compile_composes hk]
      rw [hk.children] at ih
      refine (follows_compileBranches fun t ht path => ih t ht style path).bind ?_
      exact fun branches branches' hb => follows_lift (agree_composeBranches hg hf hb hk)
    | enum notes values => exact follows_lift_of (h.enums notes values path .self)
    | scalar notes fields => exact (h.scalars notes fields path .self).follows
    | array notes items =>
      obtain ⟨harrives, hjoin⟩ := h.arrays notes items .self
      simp only [compile, harrives]
      split
      next => exact follows_fail _
      next =>
        refine (ih items items_mem_children _ _).bind fun item item' hitem => ?_
        refine (follows_lift (agree_requireValue hg hitem)).bind fun item item' hitem => ?_
        refine (follows_lift (agree_finishArray hg hitem)).bind fun c c' hc => ?_
        exact follows_lift (hjoin path style c c' hc)
    | object notes properties required extra =>
      -- Objects pass the boundary to strings in no direction; without a conversion, nothing within
      -- them has one.
      have hobjects := h.objects
      cases convert with
      | some convert =>
        obtain ⟨convert', rfl⟩ := Option.isSome_iff_exists.1 hobjects
        rw [compile_object, compile_object]
        exact follows_fail _
      | none =>
        obtain rfl : convert' = none := by simpa using hobjects
        exact follows_compileObject hg hf fun t ht path => ih t ht _ path

end Schema

end ApiContract
