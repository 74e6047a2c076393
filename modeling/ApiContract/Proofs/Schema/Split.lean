import ApiContract.Proofs.Schema.Meaning

/-!
# Objects that list some keys and constrain the others

What such an object asks of the values of other keys is asked, by the intersection that it compiles to,
of the values of all keys. `Schema.split` takes the object apart in this way, into one that lists and
one that constrains, at every depth of a schema; nothing else changes (`split_of_plain`). In the shape
of the wire a schema compiles to a validator of the values that meet its split
(`faithful_split_compile`), and these are some of those that meet the schema itself
(`accepts_of_split`): the listed keys of an object are left with the values that are allowed for the
others as well (`accepts_compile_typedObject`).
-/

namespace ApiContract

namespace Schema

open Outcome Validator

/-- An object, or if it lists some keys and constrains the others, one that lists keys and one that
constrains all of them. -/
def takenApart (notes : Annotations) (properties : Option (List (String × Schema)))
    (required : List String) (extra : ExtraKeys Schema) : Schema :=
  match properties, extra with
  | some (p :: rest), .typed schema =>
    .allOf notes [.object ⟨none, false, none⟩ (some (p :: rest)) required (.allowed true),
      .object ⟨none, false, none⟩ none [] (.typed schema)]
  | _, _ => .object notes properties required extra

/-- An object that is plain itself stays whole. -/
theorem takenApart_of_plainHere {notes : Annotations} {properties : Option (List (String × Schema))}
    {required : List String} {extra : ExtraKeys Schema}
    (h : (object notes properties required extra).PlainHere) :
    takenApart notes properties required extra = .object notes properties required extra := by
  unfold takenApart
  split
  next => simp [PlainHere, ExtraKeys.schema?] at h
  next => rfl

theorem notes_takenApart {notes : Annotations} {properties : Option (List (String × Schema))}
    {required : List String} {extra : ExtraKeys Schema} :
    (takenApart notes properties required extra).notes = notes := by
  unfold takenApart
  split <;> rfl

mutual

/-- The schema with its objects taken apart at every depth. -/
def split : Schema → Schema
  | .oneOf notes variants discriminator => .oneOf notes (splitAll variants) discriminator
  | .anyOf notes variants => .anyOf notes (splitAll variants)
  | .allOf notes variants => .allOf notes (splitAll variants)
  | .array notes items => .array notes items.split
  | .object notes none required extra => takenApart notes none required (splitExtra extra)
  | .object notes (some properties) required extra =>
    takenApart notes (some (splitProperties properties)) required (splitExtra extra)
  | .ref notes target => .ref notes target
  | .enum notes values => .enum notes values
  | .scalar notes fields => .scalar notes fields

def splitAll : List Schema → List Schema
  | [] => []
  | schema :: rest => schema.split :: splitAll rest

def splitProperties : List (String × Schema) → List (String × Schema)
  | [] => []
  | (name, schema) :: rest => (name, schema.split) :: splitProperties rest

def splitExtra : ExtraKeys Schema → ExtraKeys Schema
  | .unstated => .unstated
  | .allowed allow => .allowed allow
  | .typed schema => .typed schema.split

end

theorem splitAll_eq_map (variants : List Schema) : splitAll variants = variants.map split := by
  induction variants with
  | nil => rfl
  | cons schema rest ih => rw [splitAll, ih, List.map_cons]

theorem splitProperties_eq_map (properties : List (String × Schema)) :
    splitProperties properties = properties.map fun p => (p.1, p.2.split) := by
  induction properties with
  | nil => rfl
  | cons p rest ih => rw [splitProperties, ih, List.map_cons]

theorem split_object {notes : Annotations} {properties : Option (List (String × Schema))}
    {required : List String} {extra : ExtraKeys Schema} :
    (object notes properties required extra).split =
      takenApart notes (properties.map splitProperties) required (splitExtra extra) := by
  cases properties <;> rfl

@[simp] theorem notes_split (schema : Schema) : schema.split.notes = schema.notes := by
  cases schema with
  | object notes properties required extra => rw [split_object, notes_takenApart, Schema.notes]
  | _ => rfl

theorem Composes.split {schema : Schema} {k : Combination} (h : schema.Composes k) :
    schema.split.Composes { k with variants := k.variants.map Schema.split } := by
  cases h <;> rw [Schema.split, splitAll_eq_map] <;> constructor

/-- A plain schema has nothing to take apart. -/
theorem split_of_plain (schema : Schema) (h : schema.Plain) : schema.split = schema := by
  induction schema using Schema.induction with
  | step schema ih =>
    have ih : ∀ t ∈ schema.children, t.split = t := fun t ht => ih t ht (h.of_child ht)
    cases schema with
    | ref | enum | scalar => rfl
    | oneOf notes variants | anyOf notes variants | allOf notes variants =>
      have hvariants : variants.map split = variants := (List.map_congr_left ih).trans (List.map_id _)
      rw [split, splitAll_eq_map, hvariants]
    | array notes items => rw [split, ih items items_mem_children]
    | object notes properties required extra =>
      have hproperties : properties.map splitProperties = properties := by
        cases properties with
        | none => rfl
        | some properties =>
          have hproperty : ∀ p ∈ properties, (p.1, p.2.split) = p := fun p hp =>
            Prod.ext rfl (ih p.2 (property_mem_children hp))
          rw [Option.map_some, splitProperties_eq_map, List.map_congr_left hproperty, List.map_id']
      have hextra : splitExtra extra = extra := by
        cases extra with
        | unstated | allowed => rfl
        | typed schema => rw [splitExtra, ih schema (extra_mem_children rfl)]
      rw [split_object, hproperties, hextra, takenApart_of_plainHere h.here]

/-! ## Meaning -/

variable {I : Interpretation} {s : Setting} {notes : Annotations} {path : String} {c : Compiled}
  {properties : Option (List (String × Schema))} {required : List String}

theorem accepts_takenApart {schema : Schema} {v : Value} :
    (takenApart notes properties required (.typed schema)).Accepts I s v ↔
      NullAllowed notes v ∨ ∃ entries, v = .map entries ∧
        (∀ name ∈ required, Value.find? name entries ≠ none) ∧
        (∀ p ∈ properties.getD [], ∀ w, Value.find? p.1 entries = some w → p.2.Accepts I s w) ∧
        ∀ e ∈ entries, schema.Accepts I s e.2 := by
  match properties with
  | none | some [] => simp [takenApart, accepts_object, ExtraKeys.Open]
  | some (p :: rest) =>
    have hlists : (object ⟨none, false, none⟩ (some (p :: rest)) required (.allowed true)).Accepts I s
        v ↔ ∃ entries, v = .map entries ∧ (∀ name ∈ required, Value.find? name entries ≠ none) ∧
          ∀ q ∈ p :: rest, ∀ w, Value.find? q.1 entries = some w → q.2.Accepts I s w := by
      simp [accepts_object, NullAllowed, ExtraKeys.Open]
    have hconstrains : (object ⟨none, false, none⟩ none [] (.typed schema)).Accepts I s v ↔
        ∃ entries, v = .map entries ∧ ∀ e ∈ entries, schema.Accepts I s e.2 := by
      simp [accepts_object, NullAllowed, ExtraKeys.Open]
    rw [takenApart, accepts_allOf, List.forall_mem_cons, List.forall_mem_singleton, hlists,
      hconstrains, exists_map_and]
    simp only [and_assoc, Option.getD_some]

theorem getD_splitProperties :
    (properties.map splitProperties).getD [] =
      (properties.getD []).map fun p => (p.1, p.2.split) := by
  cases properties with
  | none => rfl
  | some properties => exact splitProperties_eq_map properties

theorem Composes.accepts_of_split {schema : Schema} {k : Combination} (h : schema.Composes k)
    {v : Value} (hvariants : ∀ t ∈ k.variants, t.split.Accepts I s v → t.Accepts I s v)
    (hsplit : schema.split.Accepts I s v) : schema.Accepts I s v := by
  have hsome : (∃ u ∈ k.variants.map Schema.split, u.Accepts I s v) →
      ∃ t ∈ k.variants, t.Accepts I s v := by
    rintro ⟨_, hu, haccepts⟩
    obtain ⟨t, ht, rfl⟩ := List.mem_map.1 hu
    exact ⟨t, ht, hvariants t ht haccepts⟩
  cases h with
  | oneOf =>
    rw [Schema.split, splitAll_eq_map, accepts_oneOf] at hsplit
    exact accepts_oneOf.2 (hsplit.imp_right hsome)
  | anyOf =>
    rw [Schema.split, splitAll_eq_map, accepts_anyOf] at hsplit
    exact accepts_anyOf.2 (hsplit.imp_right hsome)
  | allOf =>
    rw [Schema.split, splitAll_eq_map, accepts_allOf, List.forall_mem_map] at hsplit
    exact accepts_allOf.2 (hsplit.imp_right fun hall t ht => hvariants t ht (hall t ht))

/-- What is asked of a property taken apart is asked of the property. -/
theorem accepts_object_of_split {extra : ExtraKeys Schema} {v : Value}
    (hproperties : ∀ p ∈ properties.getD [], ∀ w, p.2.split.Accepts I s w → p.2.Accepts I s w)
    (hextra : ∀ t ∈ extra.schema?, ∀ w, t.split.Accepts I s w → t.Accepts I s w)
    (hsplit : (object notes properties required extra).split.Accepts I s v) :
    (object notes properties required extra).Accepts I s v := by
  rw [split_object] at hsplit
  rw [accepts_object]
  cases extra with
  | typed schema =>
    rw [splitExtra, accepts_takenApart, getD_splitProperties] at hsplit
    refine hsplit.imp_right ?_
    rintro ⟨entries, rfl, hneeded, hlisted, hall⟩
    rw [List.forall_mem_map] at hlisted
    refine ⟨entries, rfl, hneeded, ?_, fun hopen => absurd trivial hopen, ?_⟩
    · exact fun p hp w hw => hproperties p hp w (hlisted p hp w hw)
    · rintro t ⟨⟩ e he -
      exact hextra schema rfl e.2 (hall e he)
  | unstated | allowed =>
    rw [splitExtra, takenApart_of_plainHere (.inr rfl), accepts_object, getD_splitProperties] at hsplit
    refine hsplit.imp_right ?_
    rintro ⟨entries, rfl, hneeded, hlisted, hkeys, -⟩
    rw [List.forall_mem_map] at hlisted
    refine ⟨entries, rfl, hneeded, ?_, fun hclosed => ?_, fun t ht => ?_⟩
    · exact fun p hp w hw => hproperties p hp w (hlisted p hp w hw)
    · intro e he
      obtain ⟨_, hq, hkey⟩ := hkeys (by simpa [ExtraKeys.Open] using hclosed) e he
      obtain ⟨p, hp, rfl⟩ := List.mem_map.1 hq
      exact ⟨p, hp, hkey⟩
    · cases ht

/-- To be accepted taken apart is to be accepted: what is asked of the values of other keys is asked of
more values. -/
theorem accepts_of_split (schema : Schema) {v : Value} (h : schema.split.Accepts I s v) :
    schema.Accepts I s v := by
  induction schema using Schema.induction generalizing v with
  | step schema ih =>
    induction schema using shapes with
    | ref | enum | scalar => exact h
    | composed schema k hk =>
      rw [hk.children] at ih
      exact hk.accepts_of_split (fun t ht => ih t ht) h
    | array notes items =>
      rw [split, accepts_array] at h
      refine accepts_array.2 (h.imp_right ?_)
      rintro ⟨values, rfl, hvalues⟩
      exact ⟨values, rfl, fun w hw => ih items items_mem_children (hvalues w hw)⟩
    | object notes properties required extra =>
      refine accepts_object_of_split ?_ ?_ h
      · exact fun p hp w => ih p.2 (property_mem_children hp)
      · exact fun t ht w => ih t (extra_mem_children ht)

/-! ## Compilation -/

/-- The schema has at no depth a binary payload, nor a composition with a default in a branch. -/
def PlainButObjects (schema : Schema) : Prop :=
  ∀ t : Schema, t.Within schema →
    (∀ notes properties required extra, t ≠ .object notes properties required extra) → t.PlainHere

theorem PlainButObjects.of_child {schema t : Schema} (h : schema.PlainButObjects)
    (ht : t ∈ schema.children) : t.PlainButObjects := fun _ hu => h _ (.child ht hu)

theorem plainButObjects_iff {schema : Schema} :
    schema.PlainButObjects ↔
      ((∀ notes properties required extra, schema ≠ .object notes properties required extra) →
        schema.PlainHere) ∧ ∀ t ∈ schema.children, t.PlainButObjects :=
  forall_within_iff

theorem Composes.plainHere_split {schema : Schema} {k : Combination} (h : schema.Composes k)
    (hplain : schema.PlainButObjects) : schema.split.PlainHere := by
  have hhere : schema.PlainHere := hplain schema .self (by rintro _ _ _ _ rfl; cases h)
  rw [h.split.plainHere, List.forall_mem_map]
  intro t ht
  rw [notes_split]
  exact h.plainHere.1 hhere t ht

theorem danglingName?_map {properties : List (String × Schema)} {f : Schema → Schema} :
    danglingName? required (properties.map fun p => (p.1, f p.2)) =
      danglingName? required properties := by
  simp only [danglingName?, List.any_map]
  rfl

/-- A validator in the shape of the wire means what the schema means taken apart. -/
theorem Faithful.object_split {extra : ExtraKeys Schema} {fields : List (String × Compiled)}
    {compiled : ExtraKeys Validator × List String}
    (hdangling : danglingName? required (properties.getD []) = none)
    (hfields : List.Forall₂ (FieldOf (fun schema _ c => Faithful I s schema.split c) required)
      (properties.getD []) fields)
    (hextra : ExtraOf (fun schema _ c => Faithful I s schema.split c) extra compiled)
    (h : finishObject notes path properties.isSome fields compiled = .ok c) :
    Faithful I s (Schema.object notes properties required extra).split c := by
  have hdangling : danglingName? required ((properties.map splitProperties).getD []) = none := by
    rw [getD_splitProperties, danglingName?_map, hdangling]
  have hfields : List.Forall₂ (FieldOf (fun schema _ c => Faithful I s schema c) required)
      ((properties.map splitProperties).getD []) fields := by
    rw [getD_splitProperties, List.forall₂_map_left_iff]
    refine hfields.imp ?_
    rintro _ _ ⟨hcompiled, hneeded⟩
    exact .intro hcompiled hneeded
  rw [← Option.isSome_map (f := splitProperties)] at h
  rw [split_object]
  cases hextra with
  | unstated =>
    rw [splitExtra, takenApart_of_plainHere (.inr rfl)]
    exact .object (.inr rfl) hdangling hfields .unstated h
  | allowed allow =>
    rw [splitExtra, takenApart_of_plainHere (.inr rfl)]
    exact .object (.inr rfl) hdangling hfields (.allowed allow) h
  | typed hschema =>
    refine .of_objectValidator notes_takenApart h fun v => ?_
    rw [splitExtra, accepts_takenApart, accepts_typedObject hdangling (FieldOf.forall_faithful hfields)
      hschema.accepts]

theorem faithful_split_compile (I : Interpretation) (hs : s.crossing = .request) {style : ArrayStyle}
    (schema : Schema) (hplain : schema.PlainButObjects)
    (h : (compile s none style path schema).result = .ok c) : Faithful I s schema.split c := by
  refine compile_induction_of (P := fun schema c => Faithful I s schema.split c)
    (fun _ _ h ht => h.of_child ht) ?_ ?_ ?_ ?_ ?_ ?_ schema hplain h
  · intro notes target key v hkey _
    exact .ref hkey
  · intro schema k branches core hplain hk hbranches hcore
    exact .composes hk.split (hk.plainHere_split hplain) hcore (List.forall₂_map_left_iff.2 hbranches)
  · intro notes values path c hc
    exact .enum hc
  · intro notes fields path c hplain hc
    exact .scalar hs (hplain _ .self nofun) hc
  · intro notes items path item c hitem hc
    exact .array hitem hc
  · intro notes properties required extra path fields compiled c _ hdangling hfields hextra hc
    exact .object_split hdangling hfields hextra hc

/-- An object that constrains the keys that it does not list compiles, in the shape of the wire, to a
validator that asks of the values of all keys what is meant for those of the others. It accepts no object
that does not meet the schema, but of those that do only the ones whose listed keys have values that are
allowed for the others as well. -/
theorem accepts_compile_typedObject (I : Interpretation) (hs : s.crossing = .request)
    {style : ArrayStyle} {schema : Schema}
    (hplain : (object notes properties required (.typed schema)).PlainButObjects)
    (h : (compile s none style path (.object notes properties required (.typed schema))).result = .ok c)
    (entries : List (Scalar × Value)) :
    (c.validator.Accepts I (.map entries) ↔
      (∀ name ∈ required, Value.find? name entries ≠ none) ∧
      (∀ p ∈ properties.getD [], ∀ v, Value.find? p.1 entries = some v → p.2.split.Accepts I s v) ∧
      ∀ e ∈ entries, schema.split.Accepts I s e.2) ∧
    (c.validator.Accepts I (.map entries) →
      (object notes properties required (.typed schema)).Accepts I s (.map entries)) := by
  have hfaithful := faithful_split_compile I hs _ hplain h
  refine ⟨?_, fun haccepts => accepts_of_split _ ((hfaithful.accepts _).1 haccepts)⟩
  rw [hfaithful.accepts, split_object, splitExtra, accepts_takenApart, getD_splitProperties]
  simp only [List.forall_mem_map]
  simp [NullAllowed]

/-- A whole number with nothing else asked of it. -/
def anyInteger : Schema :=
  .scalar ⟨none, false, none⟩ ⟨.integer, none, none, none, none, none, none⟩

/-- A dog by its name, with whole numbers under whatever other keys. -/
def dogSchema : Schema :=
  .object ⟨none, false, none⟩ (some [("name", anyText)]) ["name"]
    (.typed anyInteger)

/-- Rex meets the schema of dogs, and its validator does not accept it: a name is no number. -/
theorem not_accepts_rex :
    ∃ c, (compile { document := .null, crossing := .request } none .standard "#" dogSchema).result =
        .ok c ∧
      dogSchema.Accepts literalPatterns { document := .null, crossing := .request }
        (.map [(.text "name", .text "Rex"), (.text "age", .int 3)]) ∧
      ¬ c.validator.Accepts literalPatterns
        (.map [(.text "name", .text "Rex"), (.text "age", .int 3)]) := by
  obtain ⟨c, h⟩ : ∃ c, (compile { document := .null, crossing := .request } none .standard "#"
      dogSchema).result = .ok c := ⟨_, rfl⟩
  have hplain : dogSchema.PlainButObjects := by
    have htext : anyText.PlainButObjects := by
      rw [anyText, plainButObjects_iff]
      simp [PlainHere, children]
    have hinteger : anyInteger.PlainButObjects := by
      rw [anyInteger, plainButObjects_iff]
      simp [PlainHere, children]
    rw [dogSchema, plainButObjects_iff]
    refine ⟨fun hobject => absurd rfl (hobject _ _ _ _), ?_⟩
    simp [children, ExtraKeys.schema?, htext, hinteger]
  refine ⟨c, h, ?_, fun haccepts => ?_⟩
  · rw [dogSchema, accepts_object]
    refine .inr ⟨_, rfl, ?_⟩
    simp [Value.find?, anyText, anyInteger, accepts_scalar, NullAllowed, ScalarSchema.Accepts,
      ScalarSchema.MeetsFormat, InLength, ExtraKeys.Open, Value.IsInteger, Value.InBounds]
  · have hasked := (accepts_compile_typedObject literalPatterns rfl hplain h _).1.1 haccepts
    have hname := hasked.2.2 (.text "name", .text "Rex") (by simp)
    simp [anyInteger, split, accepts_scalar, NullAllowed, ScalarSchema.Accepts, Value.IsInteger] at hname

end Schema

end ApiContract
