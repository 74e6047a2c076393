import ApiContract.Proofs.Contract.Components
import ApiContract.Proofs.Declaration.Alike
import ApiContract.Proofs.Schema.Mirror

/-!
# Clients and servers mirror each other

What a client writes a server parses, and the other way round: the declarations that are compiled for
the two differ only in that (`Declaration.Mirrors`), and they are ordered alike.
-/

namespace ApiContract

/-- One of the validators is the other in its written form; all else is the same. -/
structure Declaration.Mirrors (d d' : Declaration) : Prop where
  head : d.SameHead d'
  validator : d'.validator = d.validator.written ∨ d.validator = d'.validator.written

namespace Contract

open Outcome Reported

variable {document : Value} {namePrefix : String}

/-- One schema is declared for values that arrive and for values that leave. -/
theorem alike_compileDeclaration {name path suffix : String} {schema : Schema}
    {direction direction' : Option Direction} :
    Reported.Alike (fun d d' : Declaration => d.SameHead d' ∧ d'.validator = d.validator.written)
      (compileDeclaration document namePrefix name schema path ⟨.parse, suffix, direction⟩)
      (compileDeclaration document namePrefix name schema path ⟨.stringify, suffix, direction'⟩) := by
  rw [alike_iff_follows]
  let s : Setting := { document, crossing := .parse, namePrefix, suffix }
  have hschema : Reported.Alike Compiled.Mirrors (schema.compileValue s true path)
      (schema.compileValue { s with crossing := .stringify } true path) :=
    Schema.alike_compileValue rfl schema
  unfold compileDeclaration
  exact hschema.bind fun c c' hc => follows_pure ⟨⟨rfl, hc.dependsOn, rfl⟩, hc.validator⟩

theorem alike_compileComponent {key : Scalar} {raw : Value} :
    Reported.Alike (List.Forall₂ Declaration.Mirrors)
      (compileComponent document ⟨.client, namePrefix⟩ key raw)
      (compileComponent document ⟨.server, namePrefix⟩ key raw) := by
  rw [alike_iff_follows]
  unfold compileComponent
  refine (alike_same _).bind fun name _ hname => ?_
  subst hname
  refine (alike_same _).bind fun schema _ hschema => ?_
  subst hschema
  refine Follows.mapM (.cons ?_ (.cons ?_ .nil))
  · exact (alike_compileDeclaration.symm.imp fun d d' h =>
      ⟨⟨h.1.name.symm, h.1.dependsOn.symm, h.1.source.symm⟩, .inr h.2⟩).follows
  · exact (alike_compileDeclaration.imp fun d d' h => ⟨h.1, .inl h.2⟩).follows

theorem alike_compileComponents :
    Reported.Alike (List.Forall₂ Declaration.Mirrors)
      (compileComponents document ⟨.client, namePrefix⟩)
      (compileComponents document ⟨.server, namePrefix⟩) := by
  rw [alike_iff_follows]
  unfold compileComponents
  refine (alike_same _).bind fun components _ hcomponents => ?_
  subst hcomponents
  have hblocks : Follows (fun _ => False) (List.Forall₂ (List.Forall₂ Declaration.Mirrors))
      (components.mapM fun e => compileComponent document ⟨.client, namePrefix⟩ e.1 e.2)
      (components.mapM fun e => compileComponent document ⟨.server, namePrefix⟩ e.1 e.2) :=
    .mapM (List.forall₂_same.2 fun e _ => alike_compileComponent.follows)
  exact hblocks.bind fun blocks blocks' h => follows_pure (List.rel_flatten h)

/-- A client and a server of one document have declarations that mirror each other and are ordered
alike. The parameters that one of them writes are those that the other parses, in every schema without
arrays, except that a literal without a JSON form is written and not parsed. -/
theorem clients_mirror_servers (document : Value) (namePrefix : String) :
    Reported.Alike
        (fun ds ds' => List.Forall₂ Declaration.Mirrors ds ds' ∧
          Agree (List.Forall₂ Declaration.Mirrors) (Declaration.order ds) (Declaration.order ds'))
        (compileComponents document ⟨.client, namePrefix⟩)
        (compileComponents document ⟨.server, namePrefix⟩) ∧
      ∀ (s : Setting) (location : Location) (style : ArrayStyle) (path : String) (schema : Schema),
        schema.ArrayFree →
          (schema.PassagesMirror s location style path ↔
            (schema.compile s (some ⟨.fromString, location⟩) style path).result ≠
              .error .unexpected) ∧
          (schema.Writable → schema.PassagesMirror s location style path) ∧
          ∀ c, (schema.compile s (some ⟨.toString, location⟩) style path).result = .ok c →
            schema.PassagesMirror s location style path → schema.Writable := by
  constructor
  · refine alike_compileComponents.imp fun ds ds' h => ⟨h, ?_⟩
    exact Declaration.agree_order (fun d d' hd => hd.head) h
  · intro s location style path schema hfree
    refine ⟨Schema.passagesMirror_iff hfree, Schema.passagesMirror_of_writable hfree, ?_⟩
    exact fun c hc h => h.writable hc

/-- An enum of one value. -/
def enumOf (v : Value) : Schema := .enum ⟨none, false, none⟩ [v]

theorem arrayFree_enumOf (v : Value) : (enumOf v).ArrayFree := by
  intro notes items h
  rcases Schema.within_iff.1 h with h | ⟨t, ht, -⟩
  · cases h
  · cases ht

/-- A day that is written to a query cannot be parsed from one; a number can. -/
theorem passages_of_literals :
    (enumOf (.scalar (.int 1))).PassagesMirror ⟨.null, .handler, "", "", .unknown⟩ .query .standard "#" ∧
      ¬ (enumOf (.scalar (.date ⟨2024, 1, 1⟩))).PassagesMirror ⟨.null, .handler, "", "", .unknown⟩ .query
        .standard "#" := by
  constructor
  · refine ((clients_mirror_servers .null "").2 _ _ _ _ _ (arrayFree_enumOf _)).2.1 ?_
    simp [enumOf, Schema.writable_enum, Value.isJson, Value.isJsonScalar]
  · intro h
    have hday := ((clients_mirror_servers .null "").2 _ _ _ _ _ (arrayFree_enumOf _)).2.2 _ rfl h
    simp [enumOf, Schema.writable_enum, Value.isJson, Value.isJsonScalar] at hday

end Contract

end ApiContract
