import ApiContract.Proofs.Schema.Leaves
import ApiContract.Proofs.Validator.Acceptance
import ApiContract.Proofs.Validator.Fold

/-!
# What schemas mean

`schema.Accepts I s v` says that a value meets a schema, read as a JSON schema, where references stand
for declarations. In the shape of the wire a schema compiles to a validator that accepts the same values
(`accepts_compile`), as long as it is `Plain`: binary payloads have no JSON value, an intersection asks
of listed keys what is meant for others, and a default within a composition is not told to what is
around it.
-/

namespace ApiContract

/-! ## Meaning -/

/-- A text meets the format of a schema. The form of a date takes the place of a pattern, and a format
without a check asks nothing. -/
def ScalarSchema.MeetsFormat (I : Interpretation) (fields : ScalarSchema) (text : String) : Prop :=
  match fields.format with
  | some "date" => I.Matches Schema.datePattern text
  | some "date-time" => I.Matches Schema.dateTimePattern text
  | format => (∀ pattern ∈ fields.pattern, I.Matches pattern text) ∧
      ∀ check ∈ format.bind Schema.checkOfFormat?, I.Passes check text

/-- A value is of the type of a scalar schema and meets the constraints on this type. -/
def ScalarSchema.Accepts (I : Interpretation) (fields : ScalarSchema) (v : Value) : Prop :=
  match fields.type with
  | .null => v = .null
  | .boolean => ∃ b, v = .bool b
  | .integer => v.IsInteger ∧ v.InBounds fields.minimum fields.maximum
  | .number => v.number?.isSome = true ∧ v.InBounds fields.minimum fields.maximum
  | .string => ∃ text, v = .text text ∧ InLength fields.minLength fields.maxLength text ∧
      fields.MeetsFormat I text

/-- An object may have keys that are not listed. -/
def ExtraKeys.Open (properties : Option (List (String × Schema))) : ExtraKeys Schema → Prop
  | .unstated => properties = none
  | .allowed allow => allow = true
  | .typed _ => True

namespace Schema

/-- The value meets the schema. -/
inductive Accepts (I : Interpretation) (s : Setting) : Schema → Value → Prop where
  | null {schema : Schema} (shape : ∀ notes target, schema ≠ .ref notes target)
    (nullable : schema.notes.nullable = true) : Accepts I s schema .null
  | ref {notes : Annotations} {target key : String} {v : Value}
    (leads : componentKey? target = some key) (h : I.Declared (s.declarationName key) v) :
    Accepts I s (.ref notes target) v
  | oneOf {notes : Annotations} {variants : List Schema} {discriminator : Option String} {t : Schema}
    {v : Value} (member : t ∈ variants) (h : Accepts I s t v) :
    Accepts I s (.oneOf notes variants discriminator) v
  | anyOf {notes : Annotations} {variants : List Schema} {t : Schema} {v : Value}
    (member : t ∈ variants) (h : Accepts I s t v) : Accepts I s (.anyOf notes variants) v
  | allOf {notes : Annotations} {variants : List Schema} {v : Value}
    (h : ∀ t ∈ variants, Accepts I s t v) : Accepts I s (.allOf notes variants) v
  | enum {notes : Annotations} {values : List Value} {v w : Value} (member : w ∈ values)
    (h : v.same w = true) : Accepts I s (.enum notes values) v
  | scalar {notes : Annotations} {fields : ScalarSchema} {v : Value} (h : fields.Accepts I v) :
    Accepts I s (.scalar notes fields) v
  | array {notes : Annotations} {item : Schema} {items : List Value}
    (h : ∀ v ∈ items, Accepts I s item v) : Accepts I s (.array notes item) (.list items)
  | object {notes : Annotations} {properties : Option (List (String × Schema))}
    {required : List String} {extra : ExtraKeys Schema} {entries : List (Scalar × Value)}
    (needed : ∀ name ∈ required, Value.find? name entries ≠ none)
    (listed : ∀ p ∈ properties.getD [], ∀ v, Value.find? p.1 entries = some v → Accepts I s p.2 v)
    (unlisted : ¬ extra.Open properties →
      ∀ e ∈ entries, ∃ p ∈ properties.getD [], e.1 = .text p.1)
    (typed : ∀ t, extra = .typed t → ∀ e ∈ entries,
      (∀ p ∈ properties.getD [], e.1 ≠ .text p.1) → Accepts I s t e.2) :
    Accepts I s (.object notes properties required extra) (.map entries)

variable {I : Interpretation} {s : Setting} {notes : Annotations} {v : Value}

/-- A value is null where that is allowed. -/
def NullAllowed (notes : Annotations) (v : Value) : Prop := notes.nullable = true ∧ v = .null

theorem accepts_ref {target : String} : (ref notes target).Accepts I s v ↔
    ∃ key, componentKey? target = some key ∧ I.Declared (s.declarationName key) v := by
  constructor
  · rintro (⟨shape, -⟩ | ⟨leads, h⟩)
    · exact absurd rfl (shape _ _)
    · exact ⟨_, leads, h⟩
  · rintro ⟨key, leads, h⟩
    exact .ref leads h

theorem accepts_oneOf {variants : List Schema} {discriminator : Option String} :
    (oneOf notes variants discriminator).Accepts I s v ↔
      NullAllowed notes v ∨ ∃ t ∈ variants, t.Accepts I s v := by
  constructor
  · rintro (⟨-, nullable⟩ | _ | ⟨member, h⟩)
    · exact .inl ⟨nullable, rfl⟩
    · exact .inr ⟨_, member, h⟩
  · rintro (⟨nullable, rfl⟩ | ⟨t, member, h⟩)
    · exact .null nofun nullable
    · exact .oneOf member h

theorem accepts_anyOf {variants : List Schema} : (anyOf notes variants).Accepts I s v ↔
    NullAllowed notes v ∨ ∃ t ∈ variants, t.Accepts I s v := by
  constructor
  · rintro (⟨-, nullable⟩ | _ | _ | ⟨member, h⟩)
    · exact .inl ⟨nullable, rfl⟩
    · exact .inr ⟨_, member, h⟩
  · rintro (⟨nullable, rfl⟩ | ⟨t, member, h⟩)
    · exact .null nofun nullable
    · exact .anyOf member h

theorem accepts_allOf {variants : List Schema} : (allOf notes variants).Accepts I s v ↔
    NullAllowed notes v ∨ ∀ t ∈ variants, t.Accepts I s v := by
  constructor
  · rintro (⟨-, nullable⟩ | _ | _ | _ | h)
    · exact .inl ⟨nullable, rfl⟩
    · exact .inr h
  · rintro (⟨nullable, rfl⟩ | h)
    · exact .null nofun nullable
    · exact .allOf h

theorem accepts_enum {values : List Value} : (enum notes values).Accepts I s v ↔
    NullAllowed notes v ∨ ∃ w ∈ values, v.same w = true := by
  constructor
  · intro h
    cases h with
    | null _ nullable => exact .inl ⟨nullable, rfl⟩
    | enum member h => exact .inr ⟨_, member, h⟩
  · rintro (⟨nullable, rfl⟩ | ⟨w, member, h⟩)
    · exact .null nofun nullable
    · exact .enum member h

theorem accepts_scalar {fields : ScalarSchema} : (scalar notes fields).Accepts I s v ↔
    NullAllowed notes v ∨ fields.Accepts I v := by
  constructor
  · intro h
    cases h with
    | null _ nullable => exact .inl ⟨nullable, rfl⟩
    | scalar h => exact .inr h
  · rintro (⟨nullable, rfl⟩ | h)
    · exact .null nofun nullable
    · exact .scalar h

theorem accepts_array {item : Schema} : (array notes item).Accepts I s v ↔
    NullAllowed notes v ∨ ∃ items, v = .list items ∧ ∀ w ∈ items, item.Accepts I s w := by
  constructor
  · intro h
    cases h with
    | null _ nullable => exact .inl ⟨nullable, rfl⟩
    | array h => exact .inr ⟨_, rfl, h⟩
  · rintro (⟨nullable, rfl⟩ | ⟨items, rfl, h⟩)
    · exact .null nofun nullable
    · exact .array h

theorem accepts_object {properties : Option (List (String × Schema))} {required : List String}
    {extra : ExtraKeys Schema} : (object notes properties required extra).Accepts I s v ↔
    NullAllowed notes v ∨ ∃ entries, v = .map entries ∧
      (∀ name ∈ required, Value.find? name entries ≠ none) ∧
      (∀ p ∈ properties.getD [], ∀ w, Value.find? p.1 entries = some w → p.2.Accepts I s w) ∧
      (¬ extra.Open properties → ∀ e ∈ entries, ∃ p ∈ properties.getD [], e.1 = .text p.1) ∧
      ∀ t, extra = .typed t → ∀ e ∈ entries,
        (∀ p ∈ properties.getD [], e.1 ≠ .text p.1) → t.Accepts I s e.2 := by
  constructor
  · intro h
    cases h with
    | null _ nullable => exact .inl ⟨nullable, rfl⟩
    | object needed listed unlisted typed => exact .inr ⟨_, rfl, needed, listed, unlisted, typed⟩
  · rintro (⟨nullable, rfl⟩ | ⟨entries, rfl, needed, listed, unlisted, typed⟩)
    · exact .null nofun nullable
    · exact .object needed listed unlisted typed

end Schema

end ApiContract
