import ApiContract.Proofs.Schema.References
import ApiContract.Proofs.Validator.Acceptance

/-!
# The side of the wire

What a parameter is parsed from, and what it is written to, is a string. A validator faces strings if,
behind its variants, parts, annotations and passages, nothing but strings stands on the side of the
wire (`Validator.FacesStrings`). A schema without references that compiles for the passage to or from
strings compiles to such a validator: every shape that has no passage is refused.
-/

namespace ApiContract

namespace Validator

/-- Nothing but strings stands on the side of the wire: that of what is parsed for values from strings,
and that of what is written for values to strings, where the items of an array may be written apart. -/
inductive FacesStrings : Direction → Validator → Prop where
  | text {direction : Direction} {p : Primitive} (h : p.type = .string) :
    FacesStrings direction (.primitive p)
  | enum {direction : Direction} {values : List String} : FacesStrings direction (.enum values)
  | never {direction : Direction} : FacesStrings direction .never
  | union {direction : Direction} {variants : List Validator} {discriminator : Option String}
    (h : ∀ v ∈ variants, FacesStrings direction v) :
    FacesStrings direction (.union variants discriminator)
  | intersection {direction : Direction} {parts : List Validator} (nonempty : parts ≠ [])
    (h : ∀ v ∈ parts, FacesStrings direction v) : FacesStrings direction (.intersection parts)
  | nullable {direction : Direction} {base : Validator} (h : FacesStrings direction base) :
    FacesStrings direction (.nullable base)
  | default {direction : Direction} {base : Validator} {value : Value}
    (h : FacesStrings direction base) : FacesStrings direction (.default base value)
  | parse {base : Validator} {kind : TransformKind} {delimiter : Option String}
    {target : Option Validator} (h : FacesStrings .fromString base) :
    FacesStrings .fromString (.transform base .parse kind delimiter target)
  | stringify {base : Validator} {kind : TransformKind} {delimiter : Option String}
    {target : Option Validator} :
    FacesStrings .toString (.transform base .stringify kind delimiter target)
  | array {item : Validator} (h : FacesStrings .toString item) : FacesStrings .toString (.array item)

variable {direction : Direction} {v w : Validator}

/-- What is parsed from strings accepts nothing else, except for null where it is nullable. -/
theorem FacesStrings.null_or_text {I : Interpretation} {value : Value}
    (h : v.FacesStrings .fromString) (accepted : v.Accepts I value) :
    value = .null ∨ ∃ text, value = .text text := by
  generalize hdirection : Direction.fromString = direction at h
  induction h with
  | text hp =>
    have holds := (accepts_primitive.1 accepted).1
    rw [hp] at holds
    exact .inr holds
  | enum =>
    obtain ⟨text, -, rfl⟩ := accepts_enum.1 accepted
    exact .inr ⟨text, rfl⟩
  | never => exact absurd accepted not_accepts_never
  | union _ ih =>
    obtain ⟨w, hw, accepted⟩ := accepts_union.1 accepted
    exact ih w hw accepted hdirection
  | intersection nonempty _ ih =>
    obtain ⟨w, hw⟩ := List.exists_mem_of_ne_nil _ nonempty
    exact ih w hw (accepts_intersection.1 accepted w hw) hdirection
  | nullable _ ih => exact (accepts_nullable.1 accepted).elim .inl fun accepted => ih accepted hdirection
  | default _ ih => exact ih (accepts_default.1 accepted) hdirection
  | parse _ ih =>
    cases accepted with
    | passes accepted | becomes accepted => exact ih accepted rfl
  | stringify | array => cases hdirection

theorem FacesStrings.andAlso (hv : v.FacesStrings direction) (hw : w.FacesStrings direction) :
    (v.andAlso w).FacesStrings direction := by
  unfold Validator.andAlso
  split
  next parts _ =>
    cases hv with
    | intersection _ hparts =>
      refine .intersection (by simp) fun u hu => ?_
      rcases List.mem_append.1 hu with hu | hu
      · exact hparts u hu
      · exact List.mem_singleton.1 hu ▸ hw
  next =>
    refine .intersection (by simp) ?_
    simpa using ⟨hv, hw⟩

theorem facesStrings_union {variants : List Validator} {discriminator : Option String} :
    (union variants discriminator).FacesStrings direction ↔
      ∀ v ∈ variants, v.FacesStrings direction :=
  ⟨fun | .union h => h, .union⟩

end Validator

namespace Schema

open Outcome

variable {s : Setting} {notes : Annotations} {fields : ScalarSchema} {path : String}
  {conversion : Conversion} {style : ArrayStyle} {c : Compiled} {v wire : Validator}
  {direction : Direction}

theorem facesStrings_wrap (h : v.FacesStrings direction) : (notes.wrap v).FacesStrings direction := by
  unfold Annotations.wrap
  cases notes.default <;> cases notes.nullable
  · exact h
  · exact h.nullable
  · exact h.default
  · exact h.nullable.default

/-- On the side of the wire a passage has the validator of the string that is parsed, or the string that
is written. -/
theorem facesStrings_convertScalar {typed : Validator} {kind : TransformKind}
    (h : wire.FacesStrings .fromString) :
    (convertScalar typed wire kind direction).FacesStrings direction := by
  cases direction with
  | fromString => exact .parse h
  | toString => exact .stringify

theorem Composes.facesStrings {schema : Schema} {k : Combination} (h : schema.Composes k)
    {variants : List Validator} (hv : k.combine variants = some v)
    (hvariants : ∀ w ∈ variants, w.FacesStrings direction) : v.FacesStrings direction := by
  cases h with
  | oneOf =>
    exact (forall_of_alternatives (P := fun v => v.FacesStrings direction) hv
      fun _ => Validator.facesStrings_union).2 hvariants
  | anyOf =>
    exact (Validator.forall_of_unionOf? (P := fun v => v.FacesStrings direction) hv
      fun _ => Validator.facesStrings_union).2 hvariants
  | allOf => exact Validator.of_intersectionOf? hv hvariants fun _ _ hv hw => hv.andAlso hw

/-- A list of texts is checked as it is; any other values stand behind their texts. -/
theorem facesStrings_enum {values : List Value}
    (h : compileEnum notes values path (some conversion) = .ok c) :
    c.validator.FacesStrings conversion.direction := by
  obtain ⟨-, v, rfl, hv⟩ := compileEnum_ok.1 h
  obtain ⟨direction, location⟩ := conversion
  cases htexts : texts? values with
  | some texts =>
    have hbase : (enumValidator values).FacesStrings direction := by
      cases values with
      | nil => exact .never
      | cons value rest =>
        simp only [enumValidator, htexts]
        exact .enum
    rw [htexts] at hv
    cases direction <;> exact hv ▸ facesStrings_wrap hbase
  | none =>
    rw [htexts] at hv
    cases direction with
    | fromString =>
      obtain ⟨texts, -, rfl⟩ := hv
      exact .parse .enum
    | toString => exact hv ▸ .stringify

/-- The scalars that have no passage are refused, and the others have that of their own form. -/
theorem facesStrings_scalar
    (h : (compileScalar s notes fields path (some conversion)).result = .ok c) :
    c.validator.FacesStrings conversion.direction := by
  cases compileScalar_result h with
  | null _ stays => cases stays
  | binary _ _ _ stays => cases stays
  | typed htyped =>
    refine facesStrings_convertScalar ?_
    cases htyped with
    | boolean => exact .enum
    | integer | number => exact .text rfl
  | date => exact facesStrings_convertScalar (.text rfl)
  | plain => exact facesStrings_wrap (.text rfl)

/-- An array is written joined into one string, or with its items apart. -/
theorem facesStrings_array {item array : Compiled} {convert : Option Conversion}
    (hitem : item.validator.FacesStrings .toString) (harray : finishArray notes path item = .ok array)
    (hc : joinArray path convert style array = .ok c) : c.validator.FacesStrings .toString := by
  obtain ⟨-, rfl⟩ := finishArray_ok.1 harray
  rw [joinArray_ok] at hc
  split at hc
  · obtain ⟨delimiter, -, rfl⟩ := hc
    exact .stringify
  · exact hc ▸ facesStrings_wrap (.array hitem)

/-- A schema without references that compiles for a passage compiles to what faces strings on the side
of the wire. -/
theorem facesStrings_compile (schema : Schema) (closed : ∀ target, ¬ schema.PointsTo target) :
    Gives (fun c => c.validator.FacesStrings conversion.direction)
      (compile s (some conversion) style path schema).result := by
  intro c hc
  refine compile_induction (P := fun schema convert c => (∀ target, ¬ schema.PointsTo target) →
    ∀ conversion, convert = some conversion → c.validator.FacesStrings conversion.direction)
    ?_ ?_ ?_ ?_ ?_ ?_ schema hc closed conversion rfl
  · intro notes target key v convert _ _ hclosed
    exact absurd (pointsTo_ref.2 rfl) (hclosed target)
  · intro schema k convert branches v hk hbranches hv hclosed conversion hconvert
    refine facesStrings_wrap (hk.facesStrings hv fun w hw => ?_)
    obtain ⟨b, hb, rfl⟩ := List.mem_map.1 hw
    obtain ⟨t, ht, hfaces⟩ := hbranches.exists_left hb
    have hchild : t ∈ schema.children := hk.children ▸ ht
    exact hfaces (fun target hpoints => hclosed target (hpoints.of_child hchild)) conversion hconvert
  · rintro notes values path _ c hc - conversion rfl
    exact facesStrings_enum hc
  · rintro notes fields path _ c hc - conversion rfl
    exact facesStrings_scalar hc
  · rintro notes items path _ style item array c hdirection hitem - harray hc hclosed conversion rfl
    have hchild : items ∈ (Schema.array notes items).children := items_mem_children
    obtain ⟨_ | _, location⟩ := conversion
    · cases hdirection
    · have hitems := hitem fun target hpoints => hclosed target (hpoints.of_child hchild)
      exact facesStrings_array (hitems _ rfl) harray hc
  · intro notes properties required extra path fields compiled c _ _ _ _ _ conversion hconvert
    cases hconvert

/-- A room: its number, one of two others by name, or the day on which it was free. -/
def roomSchema : Schema :=
  .anyOf ⟨none, true, none⟩
    [.scalar ⟨none, false, none⟩ ⟨.integer, none, none, none, none, some (.int 1), none⟩,
      .enum ⟨some (.int 0), false, none⟩ [.int 0, .text "any"],
      .scalar ⟨none, false, none⟩ ⟨.string, some "date", none, none, none, none, none⟩]

theorem facesStrings_rooms :
    (∃ c, (compile { document := .null } (some ⟨.fromString, .path⟩) .standard "#"
        roomSchema).result = .ok c ∧ c.validator.FacesStrings .fromString) ∧
      ∃ c, (compile { document := .null } (some ⟨.toString, .query⟩) .standard "#"
        (.array ⟨none, false, none⟩ roomSchema)).result = .ok c ∧
          c.validator.FacesStrings .toString := by
  have hroom : ∀ target, ¬ roomSchema.PointsTo target := by
    intro target
    simp [roomSchema, pointsTo_iff, children]
  have hrooms : ∀ target, ¬ (Schema.array ⟨none, false, none⟩ roomSchema).PointsTo target := by
    intro target
    simpa [pointsTo_iff, children] using hroom target
  have hparsed : (compile { document := .null } (some ⟨.fromString, .path⟩) .standard "#"
      roomSchema).result.toOption.map (·.hasDefault) = some false := by decide +kernel
  have hwritten : (compile { document := .null } (some ⟨.toString, .query⟩) .standard "#"
      (.array ⟨none, false, none⟩ roomSchema)).result.toOption.map (·.hasDefault) = some false := by
    decide +kernel
  constructor
  · obtain ⟨c, hc, -⟩ := eq_ok_of_toOption hparsed
    exact ⟨c, hc, facesStrings_compile roomSchema hroom c hc⟩
  · obtain ⟨c, hc, -⟩ := eq_ok_of_toOption hwritten
    exact ⟨c, hc, facesStrings_compile _ hrooms c hc⟩

end Schema

end ApiContract
