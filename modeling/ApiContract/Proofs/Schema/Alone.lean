import ApiContract.Proofs.Schema.Elsewhere

/-!
# Compositions of one schema

A raw schema may stand `alone` in a composition. If there is room for one level more, the composition is
read whenever the schema is (`together_read`), and it compiles to what the schema compiles to
(`together_compile_alone`).
-/

namespace ApiContract

open Outcome

/-- Annotations that say nothing. -/
def Annotations.bare : Annotations := ⟨none, false, none⟩

/-- Two compiled schemas with one validator, which has a default for an absent value in both or in
none. -/
structure Compiled.Coincides (c c' : Compiled) : Prop where
  validator : c'.validator = c.validator
  hasDefault : c'.hasDefault = c.hasDefault

namespace Schema

/-- A composition of the schema alone. -/
def alone (c : Composition) (schema : Schema) : Schema :=
  match c with
  | .oneOf => .oneOf .bare [schema] none
  | .anyOf => .anyOf .bare [schema]
  | .allOf => .allOf .bare [schema]

/-- A composition of the raw schema alone. -/
def rawAlone (c : Composition) (raw : Value) : Value := .object [(c.keyword, .list [raw])]

/-- The raw schema, or a composition of it alone with room for one level more. -/
inductive Wraps (raw : Value) : Value → Prop where
  | same : Wraps raw raw
  | alone (c : Composition)
    (room : ∀ path schema, read raw path 0 = .ok schema → schema.height < maxDepth) :
    Wraps raw (rawAlone c raw)

/-- The schema, or a composition of it alone. -/
inductive Collapses (schema : Schema) : Schema → Prop where
  | same : Collapses schema schema
  | alone (c : Composition) : Collapses schema (alone c schema)

theorem exists_composes_alone (c : Composition) (schema : Schema) :
    ∃ combine, (alone c schema).Composes ⟨.bare, [schema], c.keyword, combine⟩ ∧
      ∀ v, combine [v] = some v := by
  cases c with
  | oneOf => exact ⟨_, .oneOf _ _ _, fun _ => rfl⟩
  | anyOf => exact ⟨_, .anyOf _ _, fun _ => rfl⟩
  | allOf => exact ⟨_, .allOf _ _, fun _ => rfl⟩

/-! ## Reading -/

variable {raw raw' : Value} {path path' : String} {depth : Nat} {schema : Schema}

/-- The place of the only branch of a composition. -/
def branchPlace (c : Composition) (path : String) : String :=
  Pointer.item (Pointer.raw path c.keyword) 0

theorem read_alone (c : Composition) (hdepth : depth ≤ maxDepth) :
    read (rawAlone c raw) path depth = alone c <$> read raw (branchPlace c path) (depth + 1) := by
  have hlevel : read (rawAlone c raw) path depth =
      readBranches (fun v place => read v place (depth + 1)) (rawAlone c raw) path (.ok .bare) c
        (.list [raw]) := by
    rw [rawAlone, Value.object, read_map hdepth]
    cases c <;> rfl
  rw [hlevel]
  unfold readBranches branchPlace
  simp only [List.zipIdx_cons, List.zipIdx_nil, List.mapM_cons, List.mapM_nil, bind_assoc, pure_bind]
  rw [map_eq_pure_bind]
  refine bind_congr fun schema => ?_
  cases c <;> rfl

/-- A raw schema that is read one level deeper as well leaves room for a composition. -/
theorem wraps_alone (c : Composition) (h : ∀ path, ∃ schema, read raw path 1 = .ok schema) :
    Wraps raw (rawAlone c raw) := by
  refine .alone c fun path schema hread => ?_
  obtain ⟨deeper, hdeeper⟩ := h path
  obtain rfl : deeper = schema :=
    Except.ok.inj ((read_eq_ok.1 hdeeper).1.symm.trans (read_eq_ok.1 hread).1)
  have hroom := height_of_read hdeeper
  omega

/-- A raw schema is read to the same alone in a composition, if it is read at all. -/
theorem together_read (h : Wraps raw raw') :
    Together Collapses (read raw path 0) (read raw' path 0) := by
  cases h with
  | same => exact (Agree.of_eq rfl fun _ _ => .same).together
  | alone c room =>
    rw [read_alone c (Nat.zero_le _)]
    have hplace : Together Eq (read raw path 0) (read raw (branchPlace c path) 1) := by
      refine together_iff.2 fun schema => ⟨fun hread => ?_, fun hread => ?_⟩
      · have hroom := room path schema hread
        exact read_elsewhere hread (by omega)
      · have hroom := height_of_read hread
        exact read_elsewhere hread (by omega)
    rw [map_eq_pure_bind, ← bind_pure (read raw path 0)]
    exact hplace.bind_eq fun schema _ => .ok (.alone c)

/-! ## Compiling -/

variable {s s' : Setting} {convert : Option Conversion} {style : ArrayStyle} {c c' : Compiled}

theorem compile_alone_ok (k : Composition) :
    (compile s convert style path (alone k schema)).result = .ok c' ↔
      ∃ c, (compile s convert style (branchPlace k path) schema).result = .ok c ∧
        { c with dependsOn := unite [c.dependsOn] } = c' := by
  obtain ⟨combine, hcomposes, hcombine⟩ := exists_composes_alone k schema
  rw [compile_composes_ok hcomposes]
  simp only [List.zipIdx_cons, List.zipIdx_nil, List.forall₂_cons_left_iff, List.forall₂_nil_left_iff]
  constructor
  · rintro ⟨_, v, ⟨c, _, hc, rfl, rfl⟩, hv, rfl⟩
    refine ⟨c, hc, ?_⟩
    obtain rfl : c.validator = v := Option.some.inj ((hcombine c.validator).symm.trans hv)
    simp [Annotations.wrap, Annotations.bare]
  · rintro ⟨c, hc, rfl⟩
    refine ⟨[c], c.validator, ⟨c, [], hc, rfl, rfl⟩, hcombine _, ?_⟩
    simp [Annotations.wrap, Annotations.bare]

/-- A compiled schema and its image under the same names coincide. -/
theorem coincides_of_image (h : c.Image (Validator.renamed id) id c') : c.Coincides c' where
  validator := h.validator.trans (Validator.renamed_eq_self fun _ _ => rfl)
  hasDefault := h.hasDefault

theorem together_requireValue {required : Bool} (h : c.Coincides c') :
    Together Compiled.Coincides (requireValue required path c) (requireValue required path c') := by
  unfold requireValue
  rw [h.hasDefault]
  cases required <;> cases c.hasDefault
  · exact .ok ⟨congrArg Validator.optional h.validator, rfl⟩
  · exact .ok h
  · exact .ok h
  · exact together_uncompilable _ _ _ _

section Documents

variable (h : s.Renames id s')

include h

theorem together_compile (schema : Schema) :
    Reported.Together Compiled.Coincides (compile s convert style path schema)
      (compile s' convert style path schema) :=
  ((compile_renamed h Function.injective_id schema).imp fun _ _ => coincides_of_image).together

theorem together_compile_alone (k : Composition) (schema : Schema) :
    Reported.Together Compiled.Coincides (compile s convert style path schema)
      (compile s' convert style path (alone k schema)) := by
  have halike : Reported.Alike (Compiled.Image (Validator.renamed id) id)
      (compile s convert style path schema) (compile s' convert style path schema) :=
    compile_renamed h Function.injective_id schema
  refine together_of_ok (fun c hc => ?_) fun c' hc' => ?_
  · obtain ⟨c', hc', himage⟩ := halike.2.eq_ok hc
    have hcoincides : c.Coincides c' := coincides_of_image himage
    exact ⟨_, (compile_alone_ok k).2 ⟨c', compile_elsewhere schema hc', rfl⟩,
      hcoincides.validator, hcoincides.hasDefault⟩
  · obtain ⟨inner, hinner, -⟩ := (compile_alone_ok k).1 hc'
    obtain ⟨c, hc, -⟩ := halike.2.symm.eq_ok (compile_elsewhere schema hinner)
    exact ⟨c, hc⟩

/-- A schema compiles to the same alone in a composition, if it compiles at all. -/
theorem together_compile_collapses {schema schema' : Schema} (hschema : Collapses schema schema') :
    Reported.Together Compiled.Coincides (compile s convert style path schema)
      (compile s' convert style path schema') := by
  cases hschema with
  | same => exact together_compile h schema
  | alone k => exact together_compile_alone h k schema

theorem together_compileValue {schema schema' : Schema} {required : Bool}
    (hschema : Collapses schema schema') :
    Reported.Together Compiled.Coincides (compileValue s required path schema convert style)
      (compileValue s' required path schema' convert style) :=
  (together_compile_collapses h hschema).bind fun _ _ _ hc => together_requireValue hc

end Documents

end Schema

end ApiContract
