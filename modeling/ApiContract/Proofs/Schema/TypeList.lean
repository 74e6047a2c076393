import ApiContract.Proofs.Schema.Defaults
import ApiContract.Proofs.Schema.Precedence

/-!
# Lists of types

Where a list of types decides, a schema goes by the one type in it beside null and is nullable if null is
in it (`splitType_texts`). A list of null alone stands for the null type, and so does the empty list: with
this one exception a schema admits null exactly when its list of types says so (`read_typeList`).
-/

namespace ApiContract

open Outcome

/-! ## Records with annotations -/

namespace Checked

variable {α β γ : Type} {record : String}

theorem map_eq_ok {f : α → β} {x : Checked α} {b : β} :
    f <$> x = .ok b ↔ ∃ a, x = .ok a ∧ f a = b := by
  cases x <;> simp [Functor.map]

theorem seq_eq_ok {f : Checked (α → β)} {x : Checked α} {b : β} :
    f <*> x = .ok b ↔ ∃ g a, f = .ok g ∧ x = .ok a ∧ g a = b := by
  cases f <;> cases x <;> simp [Seq.seq]

theorem map_seq_eq_ok {f : α → β → γ} {x : Checked α} {y : Checked β} {c : γ} :
    f <$> x <*> y = .ok c ↔ ∃ a b, x = .ok a ∧ y = .ok b ∧ f a b = c := by
  cases x <;> cases y <;> simp [Functor.map, Seq.seq]

theorem accept_eq_ok {x : Checked α} {a : α} : x.accept record = .ok a ↔ x = .ok a := by
  cases x <;> simp [accept]

end Checked

namespace Schema

/-- The name of the type that a schema goes by, if it does. -/
def typeName? : Schema → Option String
  | .scalar _ fields => some fields.type.name
  | .array _ _ => some "array"
  | .object _ _ _ _ => some "object"
  | _ => none

/-- The schema is nullable, or it is of the null type. -/
def AdmitsNull (schema : Schema) : Prop := schema.notes.nullable = true ∨ schema.IsOfNull

/-- The types of a list beside null. -/
def besideNull (types : List String) : List String := types.filter (· != "null")

variable {raw : Value} {path : String} {types : List String} {schema : Schema}

theorem isOfNull_iff : schema.IsOfNull ↔ schema.typeName? = some "null" := by
  cases schema with
  | scalar notes fields =>
    have hname : fields.type.name = "null" ↔ fields.type = .null := by
      cases fields.type <;> decide
    simp [IsOfNull, typeName?, hname]
  | _ => simp [IsOfNull, typeName?]

/-! ## Splitting -/

theorem typesBesideNull_texts :
    typesBesideNull (.list (types.map .text)) = (besideNull types).map .text := by
  rw [typesBesideNull, besideNull, List.filter_map]
  rfl

/-- How a list of types is split: nothing beside null, one type or several. -/
theorem splitType_texts (types : List String) (path : String) :
    splitType (.list (types.map .text)) path =
      match besideNull types with
      | [] => .ok (.text "null", false)
      | [t] => .ok (.text t, decide ("null" ∈ types))
      | several =>
        uncompilable (.schema (.severalTypes (several.map .text))) (Pointer.raw path "type") := by
  rw [splitType_list, typesBesideNull_texts]
  match hothers : besideNull types with
  | [] => rfl
  | [t] =>
    have hnull : 1 ≠ types.length ↔ "null" ∈ types := by
      have hlength : (besideNull types).length = 1 := by rw [hothers]; rfl
      rw [← hlength, besideNull, Ne, List.length_filter_eq_length_iff]
      simp
    have hflag : ((1 : Nat) != types.length) = decide ("null" ∈ types) := by
      rw [Bool.eq_iff_iff, bne_iff_ne, decide_eq_true_iff, hnull]
    rw [← hflag, ← @List.length_map _ _ types Value.text]
    rfl
  | t :: u :: rest => rfl

/-! ## Reading -/

section Level

variable {read : (raw : Value) → (path : String) → Except Fault Schema} {notes : Checked Annotations}

theorem type_of_readScalar {type : ScalarType} {fields : ScalarSchema}
    (h : readScalar raw type = .ok fields) : fields.type = type := by
  simp only [readScalar, Checked.seq_eq_ok, Checked.map_eq_ok] at h
  obtain ⟨_, _, ⟨_, _, ⟨_, _, ⟨_, _, ⟨_, _, ⟨_, -, rfl⟩, -, rfl⟩, -, rfl⟩, -, rfl⟩, -, rfl⟩, -, rfl⟩ := h
  rfl

theorem name_of_ofName? {name : String} {type : ScalarType} (h : ScalarType.ofName? name = some type) :
    type.name = name := by
  simpa using List.find?_some h

/-- Under a type name a raw schema is read as one of this type, with its annotations. -/
theorem readTyped_text {name : String}
    (h : readTyped read raw path (.text name) notes = .ok schema) :
    notes = .ok schema.notes ∧ schema.typeName? = some name := by
  have himplied : impliedType raw (.text name) = .text name := rfl
  unfold readTyped at h
  rw [himplied] at h
  split at h
  next hname =>
    obtain rfl : name = "array" := by simpa using hname
    unfold readArray at h
    split at h
    next => cases h
    next items _ =>
      obtain ⟨items, -, h⟩ := bind_eq_ok.1 h
      obtain ⟨notes, hnotes, rfl⟩ := Checked.map_eq_ok.1 (Checked.accept_eq_ok.1 h)
      exact ⟨hnotes, rfl⟩
  next hname =>
    obtain rfl : name = "object" := by simpa using hname
    obtain ⟨properties, -, h⟩ := bind_eq_ok.1 h
    obtain ⟨extra, -, h⟩ := bind_eq_ok.1 h
    obtain ⟨required, -, h⟩ := bind_eq_ok.1 h
    obtain ⟨notes, required, hnotes, -, rfl⟩ := Checked.map_seq_eq_ok.1 (Checked.accept_eq_ok.1 h)
    exact ⟨hnotes, rfl⟩
  next other _ _ hname =>
    obtain rfl : name = other := by simpa using hname
    cases htype : ScalarType.ofName? name with
    | none => simp [htype, uncompilable] at h
    | some type =>
      simp only [htype] at h
      obtain ⟨notes, fields, hnotes, hfields, rfl⟩ :=
        Checked.map_seq_eq_ok.1 (Checked.accept_eq_ok.1 h)
      refine ⟨hnotes, ?_⟩
      rw [typeName?, type_of_readScalar hfields, name_of_ofName? htype]
  next => cases h
  next => cases h
  next => cases h

theorem readNotes_nullable {nullable : Bool} {notes : Annotations}
    (hplain : (keywordOf raw "nullable").isTrue = false)
    (h : readNotes raw nullable = .ok notes) : notes.nullable = nullable := by
  obtain ⟨description, -, rfl⟩ := Checked.map_eq_ok.1 h
  simp [hplain]

end Level

/-- Without a deciding keyword a raw schema goes by its type. -/
theorem Shape.of_eq_typed (h : ∀ k ∈ deciding, raw.get? k = none) : Shape.of raw = .typed := by
  have hnone : (deciding.findSome? fun k => (raw.get? k).map (Shape.ofKeyword k)) = none := by
    rw [List.findSome?_eq_none_iff]
    exact fun k hk => by rw [h k hk, Option.map_none]
  rw [Shape.of_eq_findSome?, hnone, Option.getD_none]

/-- Under a list of types a raw schema is read as one of the type beside null, or of null where there is no
other, and it is nullable if null is in the list beside another type. -/
theorem read_of_types {depth : Nat} (hkeys : ∀ k ∈ deciding, raw.get? k = none)
    (hnullable : (keywordOf raw "nullable").isTrue = false)
    (htypes : raw.get? "type" = some (.list (types.map .text)))
    (h : read raw path depth = .ok schema) :
    ∃ t : Option String, besideNull types = t.toList ∧ schema.typeName? = some (t.getD "null") ∧
      (schema.notes.nullable = true ↔ t.isSome ∧ "null" ∈ types) := by
  obtain ⟨entries, rfl⟩ := exists_entries_of_get? htypes
  have hdepth : depth ≤ maxDepth := by
    by_contra hdepth
    rw [read_of_maxDepth_lt (Nat.not_le.1 hdepth)] at h
    cases h
  rw [read_map hdepth] at h
  obtain ⟨⟨type, nullable⟩, hsplit, h⟩ := bind_eq_ok.1 h
  rw [keywordOf, htypes, Option.getD_some, splitType_texts] at hsplit
  dsimp only [readShape] at h
  rw [Shape.of_eq_typed hkeys] at h
  cases hothers : besideNull types with
  | nil =>
    rw [hothers] at hsplit
    cases hsplit
    obtain ⟨hnotes, hname⟩ := readTyped_text h
    refine ⟨none, rfl, hname, ?_⟩
    simp [readNotes_nullable hnullable hnotes]
  | cons t more =>
    rw [hothers] at hsplit
    cases more with
    | nil =>
      cases hsplit
      obtain ⟨hnotes, hname⟩ := readTyped_text h
      refine ⟨some t, rfl, hname, ?_⟩
      simp [readNotes_nullable hnullable hnotes]
    | cons => cases hsplit

/-- Several types beside null are refused. -/
theorem read_of_several {depth : Nat} (htypes : raw.get? "type" = some (.list (types.map .text)))
    (hdepth : depth ≤ maxDepth) (h : 1 < (besideNull types).length) :
    read raw path depth = .error (.uncompilable
      (.schema (.severalTypes ((besideNull types).map .text))) (Pointer.raw path "type")) := by
  obtain ⟨entries, rfl⟩ := exists_entries_of_get? htypes
  have hseveral : 1 < (typesBesideNull (.list (types.map .text))).length := by
    rwa [typesBesideNull_texts, List.length_map]
  rw [read_map hdepth, readLevel, keywordOf, htypes, Option.getD_some, splitType_several hseveral,
    typesBesideNull_texts]
  rfl

/-- A raw schema that goes by a list of types, and is not said to be nullable otherwise, admits null
exactly when null is in the list or the list is empty, and is of the one type beside null if there is
one. With several types beside null it is refused. -/
theorem read_typeList {depth : Nat} (hkeys : ∀ k ∈ deciding, raw.get? k = none)
    (hnullable : (keywordOf raw "nullable").isTrue = false)
    (htypes : raw.get? "type" = some (.list (types.map .text))) :
    (∀ schema, read raw path depth = .ok schema →
        (schema.AdmitsNull ↔ "null" ∈ types ∨ types = []) ∧
          ∀ t, besideNull types = [t] → schema.typeName? = some t) ∧
      (1 < (besideNull types).length → depth ≤ maxDepth →
        read raw path depth = .error (.uncompilable
          (.schema (.severalTypes ((besideNull types).map .text))) (Pointer.raw path "type"))) := by
  refine ⟨fun schema h => ?_, fun hseveral hdepth => read_of_several htypes hdepth hseveral⟩
  obtain ⟨t, hothers, hname, hflag⟩ := read_of_types hkeys hnullable htypes h
  rw [AdmitsNull, isOfNull_iff, hname, hflag, hothers]
  cases t with
  | none =>
    have hall : ∀ t ∈ types, t = "null" := by simpa [besideNull] using hothers
    refine ⟨?_, nofun⟩
    cases types with
    | nil => simp
    | cons first rest =>
      obtain rfl := hall first List.mem_cons_self
      simp
  | some t =>
    have ht : t ∈ besideNull types := hothers ▸ List.mem_singleton_self t
    obtain ⟨hmem, hne⟩ := List.mem_filter.1 ht
    have hne : t ≠ "null" := by simpa using hne
    refine ⟨?_, fun u hu => by simpa using hu⟩
    simp [hne, List.ne_nil_of_mem hmem]

/-- A raw schema of nothing but a list of types. -/
def ofTypes (types : List String) : Value := .object [("type", .list (types.map .text))]

/-- An empty list admits null without saying so; one type does only beside null; two are refused. -/
theorem read_typeList_ofTypes :
    (∃ schema, read (ofTypes []) "#" 0 = .ok schema ∧ schema.AdmitsNull) ∧
      (∃ schema, read (ofTypes ["null", "integer", "null"]) "#" 0 = .ok schema ∧ schema.AdmitsNull ∧
        schema.typeName? = some "integer") ∧
      (∃ schema, read (ofTypes ["integer"]) "#" 0 = .ok schema ∧ ¬ schema.AdmitsNull) ∧
      read (ofTypes ["string", "null", "integer"]) "#" 0 =
        .error (.uncompilable (.schema (.severalTypes [.text "string", .text "integer"])) "#/type") := by
  have hkeys (types : List String) : ∀ k ∈ deciding, (ofTypes types).get? k = none := by
    simp [deciding, ofTypes, Value.object, Value.get?, Value.find?]
  have hnullable (types : List String) : (keywordOf (ofTypes types) "nullable").isTrue = false := rfl
  have htypes (types : List String) :
      (ofTypes types).get? "type" = some (.list (types.map .text)) := rfl
  have hread (types : List String) :=
    @read_typeList (ofTypes types) "#" types 0 (hkeys types) (hnullable types) (htypes types)
  obtain ⟨empty, hempty⟩ : ∃ schema, read (ofTypes []) "#" 0 = .ok schema := ⟨_, rfl⟩
  obtain ⟨both, hboth⟩ : ∃ schema, read (ofTypes ["null", "integer", "null"]) "#" 0 = .ok schema :=
    ⟨_, rfl⟩
  obtain ⟨one, hone⟩ : ∃ schema, read (ofTypes ["integer"]) "#" 0 = .ok schema := ⟨_, rfl⟩
  have hsome := (hread ["null", "integer", "null"]).1 both hboth
  refine ⟨⟨empty, hempty, ((hread []).1 empty hempty).1.2 (.inr rfl)⟩,
    ⟨both, hboth, hsome.1.2 (.inl (by decide)), hsome.2 "integer" (by decide)⟩,
    ⟨one, hone, fun h => ?_⟩, (hread ["string", "null", "integer"]).2 (by decide) (by decide)⟩
  exact absurd (((hread ["integer"]).1 one hone).1.1 h) (by decide)

end Schema

end ApiContract
