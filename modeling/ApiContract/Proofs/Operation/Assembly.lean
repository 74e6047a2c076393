import ApiContract.Proofs.Operation.Variants

/-!
# What operations are put together of

Requests and responses are compiled schemas in fields, with literals beside them. A property that schemas
and values have when they compile, and that passes to whatever is put together of them (`Assembles`), is
had by every request and by every response: `Assembles.of_request`, `Assembles.of_response`.
-/

namespace ApiContract

namespace Operation

open Outcome Validator

/-- `Q` holds of compiled schemas and `F` of what may stand in fields, compiled values among it, and both
pass to what an operation puts together. -/
structure Assembles (s : Setting) (side : Side) (Q F : Validator → Prop) : Prop where
  schema : ∀ (schema : Schema) path c, (schema.compile s none .standard path).result = .ok c →
    Q c.validator
  value : ∀ (schema : Schema) required path location style c,
    (schema.compileValue s required path (conversionAt side location) style).result = .ok c →
      F c.validator
  repeated : ∀ (schema : Schema) required path location c,
    (schema.compileRepeated s required path (conversionAt side location)).result = .ok c →
      F c.validator
  field : ∀ v, Q v → F v
  object : ∀ fields, (∀ e ∈ fields, F e.2) → Q (.object fields .closed)
  literal : ∀ value, Q (.literal value)
  noContent : Q .noContent
  union : ∀ vs, (∀ v ∈ vs, Q v) → Q (.union vs none)
  both : ∀ v w, Q v → Q w → Q (v.andAlso w)

namespace Assembles

variable {s : Setting} {side : Side} {Q F : Validator → Prop}

section Parts

variable (hQ : Assembles s side Q F)

include hQ

/-! ## Parameters -/

theorem of_field {required : Bool} {path : String} {schema : Schema} {location : Location}
    {style : ArrayStyle} {c : Compiled}
    (h : (compileField s required path schema (conversionAt side location) style).result = .ok c) :
    F c.validator := by
  unfold compileField at h
  split at h
  · split at h
    · exact hQ.repeated _ _ _ _ _ h
    · exact hQ.value _ _ _ _ _ _ h
  · exact hQ.value _ _ _ _ _ _ h

theorem of_parameter {p : Parameter} {location : Location} {key : Scalar} {v : Validator}
    (h : (compileParameter s side p).result = .ok (location, key, v)) : F v := by
  obtain ⟨schema, required, style, c, -, hc, rfl⟩ := compileParameter_ok h
  exact hQ.of_field hc

theorem of_groupsObject {group : Location → List (String × Validator)}
    (h : ∀ location, ∀ e ∈ group location, F e.2) : ∀ v ∈ groupsObject group, Q v := by
  intro v hv
  unfold groupsObject at hv
  dsimp only at hv
  split at hv
  next => cases hv
  next =>
    cases hv
    refine hQ.object _ fun e he => hQ.field _ ?_
    obtain ⟨⟨location, name⟩, -, hfield⟩ := List.mem_filterMap.1 he
    dsimp only at hfield
    split at hfield
    next => cases hfield
    next =>
      cases hfield
      exact hQ.object _ (h location)

theorem of_parameterObject {compiled : List (Location × Scalar × Validator)}
    {parameters : Option Validator} (hcompiled : ∀ r ∈ compiled, F r.2.2)
    (h : parameterObject compiled = .ok parameters) : ∀ v ∈ parameters, Q v := by
  obtain ⟨group, hgroup, rfl⟩ := parameterObject_groups h
  refine hQ.of_groupsObject fun location e he => ?_
  have hmem : (Scalar.text e.1, e.2) ∈ groupAt location compiled := by
    rw [hgroup location]
    exact List.mem_map_of_mem he
  exact forall_groupAt hcompiled _ hmem

theorem of_joinRequest {parameters body : Option Validator} (hparameters : ∀ v ∈ parameters, Q v)
    (hbody : ∀ v ∈ body, Q v) : Q (joinRequest parameters body) := by
  cases body with
  | none =>
    cases parameters with
    | none => exact hQ.object [] nofun
    | some v => exact hparameters v rfl
  | some w =>
    cases parameters with
    | none => exact hbody w rfl
    | some v => exact hQ.both v w (hparameters v rfl) (hbody w rfl)

/-! ## Variants -/

theorem of_isVariant {fields : List (String × Validator)} {header : String → Option Validator}
    {v : Validator} (h : IsVariant fields header v) (hfields : ∀ e ∈ fields, Q e.2)
    (hheader : ∀ name, ∀ w ∈ header name, F w) : Q v := by
  obtain ⟨-, hmem⟩ := h
  refine hQ.object _ fun e he => hQ.field _ ?_
  rcases List.mem_append.1 he with he | he
  · exact hfields e he
  · split at he
    · cases he
    · obtain rfl := List.mem_singleton.1 he
      exact hQ.object _ fun e he => hheader e.1 e.2 ((hmem e.1 e.2).1 he)

theorem of_headerOf {declared : List (String × Validator)} {contentType : Option String}
    (h : ∀ e ∈ declared, F e.2) (name : String) : ∀ w ∈ headerOf declared contentType name, F w := by
  intro w hw
  unfold headerOf at hw
  split at hw
  · split at hw
    · cases hw
      exact hQ.field _ (hQ.literal _)
    · exact h _ (mem_of_latest? hw)
  · exact h _ (mem_of_latest? hw)

theorem of_contentVariants {path : String} {before declared : List (String × Validator)}
    {entries : List (Scalar × Value)} {variants : List Validator} (hbefore : ∀ e ∈ before, Q e.2)
    (hdeclared : ∀ e ∈ declared, F e.2)
    (h : List.Forall₂ (ContentVariant s path before declared) entries variants) :
    ∀ v ∈ variants, Q v := by
  intro v hv
  obtain ⟨_, -, _, body, -, ⟨schema, c, -, hc, rfl⟩, hvariant⟩ := h.exists_left hv
  refine hQ.of_isVariant hvariant (fun e he => ?_) (hQ.of_headerOf hdeclared)
  rcases List.mem_append.1 he with he | he
  · exact hbefore e he
  · obtain rfl := List.mem_singleton.1 he
    exact hQ.schema _ _ _ hc

theorem of_bodyVariants {operation : Value} {path : String} {body : Option Validator}
    (h : BodyVariants s operation path body) : ∀ v ∈ body, Q v := by
  cases h with
  | absent => exact nofun
  | present _ _ _ _ _ compiled _ expands =>
    rintro _ ⟨⟩
    refine of_expand hQ.union fun w hw => ?_
    rw [expands, List.mem_append] at hw
    rcases hw with hw | hw
    · exact hQ.of_contentVariants (by simp) (by simp) compiled w hw
    · split at hw
      · cases hw
      · obtain rfl := List.mem_singleton.1 hw
        exact hQ.object [] nofun

theorem of_statusIs {status : String} {code : Validator} (h : StatusIs status code) : Q code := by
  cases h <;> exact hQ.literal _

theorem of_declaredHeaders {response : Value} {path : String} {declared : List (String × Validator)}
    (h : DeclaredHeaders s side response path declared) : ∀ e ∈ declared, F e.2 := by
  obtain ⟨_, _, -, -, hdeclared⟩ := h
  intro e he
  obtain ⟨_, -, -, hheader⟩ := hdeclared.exists_left he
  obtain ⟨schema, required, place, c, -, hc, hv⟩ := compileHeader_ok hheader
  exact hv ▸ hQ.value _ _ _ _ _ _ hc

theorem of_statusVariants {path : String} {entry : Scalar × Value} {variants : List Validator}
    (h : StatusVariants s side path entry variants) : ∀ v ∈ variants, Q v := by
  cases h with
  | empty parts _ variant =>
    have hcode := hQ.of_statusIs parts.code
    simp only [List.mem_singleton, forall_eq]
    refine hQ.of_isVariant variant ?_ (hQ.of_headerOf (hQ.of_declaredHeaders parts.headers))
    simpa using ⟨hcode, hQ.noContent⟩
  | filled parts _ _ compiled =>
    refine hQ.of_contentVariants ?_ (hQ.of_declaredHeaders parts.headers) compiled
    simpa using hQ.of_statusIs parts.code

end Parts

/-! ## Requests and responses -/

variable {document operation pathParameters : Value} {mode : Mode} {namePrefix path : String}
  {v : Validator}

theorem of_request
    (hQ : Assembles (sideSetting document namePrefix (Side.of mode .request) .request)
      (Side.of mode .request) Q F)
    (h : (compileRequest mode namePrefix document operation path pathParameters).result = .ok v) :
    Q v := by
  obtain ⟨_, compiled, _, body, -, hcompiled, hgroups, hbody, rfl⟩ := compileRequest_ok h
  have hall : ∀ r ∈ compiled, F r.2.2 := by
    rintro ⟨location, key, v⟩ hr
    obtain ⟨p, -, hp⟩ := hcompiled.exists_left hr
    exact hQ.of_parameter hp
  exact hQ.of_joinRequest (hQ.of_parameterObject hall hgroups)
    (hQ.of_bodyVariants (bodyVariants_of_compileBody hbody))

theorem of_response
    (hQ : Assembles (sideSetting document namePrefix (Side.of mode .response) .response)
      (Side.of mode .response) Q F)
    (h : (compileResponse mode namePrefix document operation path).result = .ok v) : Q v := by
  obtain ⟨_, _, blocks, -, -, hblocks, hexpand⟩ := responseVariants_of_compileResponse h
  refine of_expand hQ.union fun w hw => ?_
  rw [hexpand] at hw
  obtain ⟨block, hblock, hw⟩ := List.mem_flatten.1 hw
  obtain ⟨_, -, hvariants⟩ := hblocks.exists_left hblock
  exact hQ.of_statusVariants hvariants w hw

end Assembles

end Operation

end ApiContract
