import ApiContract.Proofs.Schema.Survey

/-!
# Precedence of keywords

The first of the keywords `$ref`, `oneOf`, `anyOf`, `allOf`, `enum` and `const` that a raw schema has
decides what it is read as (`Shape.of_eq_findSome?`), and the keywords behind it are not looked at, with
one exception: `type` is split before the others are looked at, so that a list of several types is
refused under whatever keyword it stands. `read_outranked` says what becomes of a raw schema when keywords
behind the deciding one are added, removed or changed.
-/

namespace ApiContract

open Outcome

def Annotations.withNullable (nullable : Bool) (notes : Annotations) : Annotations :=
  { notes with nullable }

namespace Schema

/-- The keywords that decide what a raw schema is read as, the first one before all others. -/
def deciding : List String := ["$ref", "oneOf", "anyOf", "allOf", "enum", "const"]

/-- The keywords of schemas that go by their type. -/
def typing : List String :=
  ["type", "format", "properties", "items", "required", "additionalProperties", "minLength",
    "maxLength", "pattern", "minimum", "maximum"]

/-- `keyword` is the first deciding keyword of the raw schema, and `later` are those behind it. -/
structure Decides (raw : Value) (keyword : String) (later : List String) : Prop where
  first : ∃ earlier, deciding = earlier ++ keyword :: later ∧ ∀ k ∈ earlier, raw.get? k = none
  present : ∃ v, raw.get? keyword = some v

/-- The raw schemas differ in keywords behind the deciding one at most. -/
def AgreeBefore (later : List String) (raw raw' : Value) : Prop :=
  ∀ key, key ∉ later ++ typing → raw'.get? key = raw.get? key

/-- The schema with its nullable flag replaced. -/
def withNullable (nullable : Bool) : Schema → Schema
  | .ref notes target => .ref (notes.withNullable nullable) target
  | .oneOf notes variants discriminator =>
    .oneOf (notes.withNullable nullable) variants discriminator
  | .anyOf notes variants => .anyOf (notes.withNullable nullable) variants
  | .allOf notes variants => .allOf (notes.withNullable nullable) variants
  | .enum notes values => .enum (notes.withNullable nullable) values
  | .scalar notes fields => .scalar (notes.withNullable nullable) fields
  | .array notes items => .array (notes.withNullable nullable) items
  | .object notes properties required extra =>
    .object (notes.withNullable nullable) properties required extra

/-- The types other than null in a list of types. -/
def typesBesideNull : Value → List Value
  | .list types => types.filter fun t => !(match t with | .text s => s == "null" | _ => false)
  | _ => []

/-! ## The deciding keyword -/

/-- The shape that a deciding keyword gives. -/
def Shape.ofKeyword (keyword : String) (value : Value) : Shape :=
  match keyword with
  | "$ref" => .ref value
  | "oneOf" => .composition .oneOf value
  | "anyOf" => .composition .anyOf value
  | "allOf" => .composition .allOf value
  | "enum" => .enum value
  | _ => .const value

theorem Shape.of_eq_findSome? (raw : Value) :
    Shape.of raw =
      (deciding.findSome? fun k => (raw.get? k).map (Shape.ofKeyword k)).getD .typed := by
  unfold Shape.of Composition.find?
  simp only [deciding, Composition.all, List.findSome?_cons, List.findSome?_nil, Composition.keyword]
  cases raw.get? "$ref" with
  | some v => rfl
  | none =>
    cases raw.get? "oneOf" with
    | some v => rfl
    | none =>
      cases raw.get? "anyOf" with
      | some v => rfl
      | none =>
        cases raw.get? "allOf" with
        | some v => rfl
        | none =>
          cases raw.get? "enum" with
          | some v => rfl
          | none => cases raw.get? "const" <;> rfl

section Agreeing

variable {raw raw' : Value} {keyword : String} {later : List String}

theorem Decides.notMem_later (h : Decides raw keyword later) {key : String}
    (hkey : key ∉ deciding ++ typing) : key ∉ later ++ typing := by
  obtain ⟨earlier, hdeciding, -⟩ := h.first
  rw [hdeciding] at hkey
  simp only [List.mem_append, List.mem_cons, not_or] at hkey ⊢
  exact ⟨hkey.1.2.2, hkey.2⟩

/-- A keyword does not come behind itself, nor behind a later one. -/
theorem notMem_later_of_first {earlier : List String} (h : deciding = earlier ++ keyword :: later)
    {k : String} (hk : k ∈ earlier ∨ k = keyword) : k ∉ later ++ typing := by
  have hnodup : (deciding ++ typing).Nodup := by decide
  rw [h, List.append_assoc, List.nodup_append] at hnodup
  obtain ⟨-, hrest, hdisjoint⟩ := hnodup
  rw [List.cons_append, List.nodup_cons] at hrest
  rcases hk with hk | rfl
  · intro hmem
    exact hdisjoint k hk k (List.mem_cons_of_mem _ hmem) rfl
  · exact hrest.1

/-- A raw schema has the shape that its deciding keyword gives, whatever stands behind that. -/
theorem Decides.shape_eq (h : Decides raw keyword later) (hagree : AgreeBefore later raw raw')
    {v : Value} (hv : raw.get? keyword = some v) : Shape.of raw' = Shape.ofKeyword keyword v := by
  obtain ⟨earlier, hdeciding, hearlier⟩ := h.first
  have hsame (k : String) (hk : k ∈ earlier ∨ k = keyword) : raw'.get? k = raw.get? k :=
    hagree k (notMem_later_of_first hdeciding hk)
  have hnone : (earlier.findSome? fun k => (raw'.get? k).map (Shape.ofKeyword k)) = none := by
    rw [List.findSome?_eq_none_iff]
    intro k hk
    rw [hsame k (.inl hk), hearlier k hk, Option.map_none]
  rw [Shape.of_eq_findSome?, hdeciding, List.findSome?_append, hnone, List.findSome?_cons,
    hsame keyword (.inr rfl), hv]
  rfl

theorem Shape.ofKeyword_ne_typed (v : Value) : Shape.ofKeyword keyword v ≠ .typed := by
  unfold Shape.ofKeyword
  split <;> exact nofun

theorem Decides.keywordOf_eq (h : Decides raw keyword later) (hagree : AgreeBefore later raw raw')
    {key : String} (hkey : key ∉ deciding ++ typing) : keywordOf raw' key = keywordOf raw key := by
  rw [keywordOf, keywordOf, hagree key (h.notMem_later hkey)]

end Agreeing

/-! ## The nullable flag -/

section Nullable

variable {raw raw' : Value} {path : String} {nullable : Bool} {notes : Checked Annotations}

/-- Records that are accepted whatever the flag is. -/
theorem accept_withNullable {f : Annotations → Schema} {record : String}
    (hf : ∀ notes, f (notes.withNullable nullable) = (f notes).withNullable nullable) :
    (f <$> Annotations.withNullable nullable <$> notes).accept record =
      withNullable nullable <$> (f <$> notes).accept record := by
  cases notes with
  | ok notes => exact congrArg Except.ok (hf notes)
  | issues found => rfl

theorem accept_withNullable_seq {α : Type} {f : Annotations → α → Schema} {x : Checked α}
    {record : String}
    (hf : ∀ notes a, f (notes.withNullable nullable) a = (f notes a).withNullable nullable) :
    (f <$> Annotations.withNullable nullable <$> notes <*> x).accept record =
      withNullable nullable <$> (f <$> notes <*> x).accept record := by
  cases notes with
  | ok notes =>
    cases x with
    | ok a => exact congrArg Except.ok (hf notes a)
    | issues found => rfl
  | issues found => cases x <;> rfl

theorem readEnum_withNullable {values : Value} :
    readEnum values (Annotations.withNullable nullable <$> notes) path =
      withNullable nullable <$> readEnum values notes path := by
  unfold readEnum
  split
  next => exact accept_withNullable fun _ => rfl
  next => rfl

theorem readComposition_withNullable {keyword : Composition} {variants : List Schema}
    (hraw : keywordOf raw' "discriminator" = keywordOf raw "discriminator") :
    readComposition keyword raw' (Annotations.withNullable nullable <$> notes) variants =
      withNullable nullable <$> readComposition keyword raw notes variants := by
  cases keyword with
  | oneOf =>
    have hdiscriminator : discriminatorOf raw' = discriminatorOf raw := by
      rw [discriminatorOf, discriminatorOf, hraw]
    simp only [readComposition, hdiscriminator]
    cases discriminatorOf raw with
    | error fault => rfl
    | ok found => exact accept_withNullable_seq fun _ _ => rfl
  | anyOf => exact accept_withNullable fun _ => rfl
  | allOf => exact accept_withNullable fun _ => rfl

section Level

variable {read : (raw : Value) → (path : String) → Except Fault Schema}

theorem readBranches_withNullable {keyword : Composition} {branches : Value}
    (hraw : keywordOf raw' "discriminator" = keywordOf raw "discriminator") :
    readBranches read raw' path (Annotations.withNullable nullable <$> notes) keyword branches =
      withNullable nullable <$> readBranches read raw path notes keyword branches := by
  unfold readBranches
  dsimp only
  split
  next branches =>
    rw [map_bind]
    exact bind_congr fun variants => readComposition_withNullable hraw
  next => rfl

/-- Under a deciding keyword neither the type nor any keyword but a discriminator is looked at. -/
theorem readShape_withNullable {type type' : Value} (hshape : Shape.of raw' = Shape.of raw)
    (htyped : Shape.of raw ≠ .typed)
    (hraw : keywordOf raw' "discriminator" = keywordOf raw "discriminator") :
    readShape read raw' path type' (Annotations.withNullable nullable <$> notes) =
      withNullable nullable <$> readShape read raw path type notes := by
  unfold readShape
  rw [hshape]
  cases hof : Shape.of raw with
  | ref target => exact accept_withNullable_seq fun _ _ => rfl
  | composition keyword branches => exact readBranches_withNullable hraw
  | enum values => exact readEnum_withNullable
  | const value => exact readEnum_withNullable
  | typed => exact absurd hof htyped

end Level

theorem readNotes_withNullable (flag flag' : Bool)
    (hdefault : keywordOf raw' "default" = keywordOf raw "default")
    (hdescription : keywordOf raw' "description" = keywordOf raw "description") :
    readNotes raw' flag' =
      Annotations.withNullable (flag' || (keywordOf raw' "nullable").isTrue) <$> readNotes raw flag := by
  unfold readNotes
  rw [hdefault, hdescription]
  cases Field.optional Field.text (keywordOf raw "description") <;> rfl

end Nullable

/-! ## Reading -/

theorem exists_entries_of_get? {raw v : Value} {key : String} (h : raw.get? key = some v) :
    ∃ entries, raw = .map entries := by
  cases raw with
  | map entries => exact ⟨entries, rfl⟩
  | scalar | list | set | endless => cases h

theorem splitType_list (types : List Value) (path : String) :
    splitType (.list types) path =
      match typesBesideNull (.list types) with
      | [] => .ok (.text "null", false)
      | [t] => .ok (t, (typesBesideNull (.list types)).length != types.length)
      | _ =>
        uncompilable (.schema (.severalTypes (typesBesideNull (.list types))))
          (Pointer.raw path "type") := rfl

/-- A type is split unless it is a list of several types. -/
theorem splitType_ok {type : Value} (h : (typesBesideNull type).length ≤ 1) (path : String) :
    ∃ split, splitType type path = .ok split := by
  cases type with
  | list types =>
    rw [splitType_list]
    match htypes : typesBesideNull (.list types) with
    | [] => exact ⟨_, rfl⟩
    | [t] => exact ⟨_, rfl⟩
    | t :: u :: rest => simp [htypes] at h
  | scalar | map | set | endless => exact ⟨_, rfl⟩

theorem splitType_several {type : Value} (h : 1 < (typesBesideNull type).length) (path : String) :
    splitType type path = .error (.uncompilable (.schema (.severalTypes (typesBesideNull type)))
      (Pointer.raw path "type")) := by
  cases type with
  | list types =>
    rw [splitType_list]
    match htypes : typesBesideNull (.list types) with
    | [] => simp [htypes] at h
    | [t] => simp [htypes] at h
    | t :: u :: rest => rfl
  | scalar | map | set | endless => cases h

variable {raw raw' : Value} {keyword : String} {later : List String} {path : String} {depth : Nat}
  {schema : Schema}

/-- Keywords behind the deciding one do not matter for a raw schema that is read, except that a list of
several types is refused and that the nullable flag may change. -/
theorem read_outranked (hdecides : Decides raw keyword later) (hagree : AgreeBefore later raw raw')
    (h : read raw path depth = .ok schema) :
    (1 < (typesBesideNull (keywordOf raw' "type")).length → read raw' path depth =
        .error (.uncompilable (.schema (.severalTypes (typesBesideNull (keywordOf raw' "type"))))
          (Pointer.raw path "type"))) ∧
      ((typesBesideNull (keywordOf raw' "type")).length ≤ 1 →
        ∃ nullable, read raw' path depth = .ok (schema.withNullable nullable)) := by
  obtain ⟨v, hv⟩ := hdecides.present
  have hshape : Shape.of raw = Shape.ofKeyword keyword v := hdecides.shape_eq (fun _ _ => rfl) hv
  have hshape' : Shape.of raw' = Shape.ofKeyword keyword v := hdecides.shape_eq hagree hv
  have hkeyword (key : String) (hkey : key ∉ deciding ++ typing) :
      keywordOf raw' key = keywordOf raw key := hdecides.keywordOf_eq hagree hkey
  obtain ⟨entries, rfl⟩ := exists_entries_of_get? hv
  have hmem : keyword ∉ later ++ typing := by
    obtain ⟨earlier, hdeciding, -⟩ := hdecides.first
    exact notMem_later_of_first hdeciding (.inr rfl)
  obtain ⟨entries', rfl⟩ := exists_entries_of_get? ((hagree keyword hmem).trans hv)
  by_cases hdepth : maxDepth < depth
  · rw [read_of_maxDepth_lt hdepth] at h
    cases h
  rw [read_map (Nat.not_lt.1 hdepth)] at h
  rw [read_map (Nat.not_lt.1 hdepth)]
  obtain ⟨⟨type, nullable⟩, hsplit, h⟩ := bind_eq_ok.1 h
  constructor
  · intro hseveral
    rw [readLevel, splitType_several hseveral]
    rfl
  · intro hone
    obtain ⟨⟨type', nullable'⟩, hsplit'⟩ := splitType_ok hone path
    have hnotes := readNotes_withNullable nullable nullable'
      (hkeyword "default" (by decide)) (hkeyword "description" (by decide))
    refine ⟨nullable' || (keywordOf (.map entries') "nullable").isTrue, ?_⟩
    rw [readLevel, hsplit']
    show readShape _ _ _ _ _ = _
    rw [hnotes, readShape_withNullable (hshape'.trans hshape.symm)
      (hshape ▸ Shape.ofKeyword_ne_typed v) (hkeyword "discriminator" (by decide))]
    exact congrArg _ h

/-- An enum of a text and a number, with types beside it. -/
def statuses (types : List String) : Value :=
  .object [("enum", .list [.text "open", .int 1]), ("type", .list (types.map .text))]

/-- Types do not matter for an enum, null among them as little as one alone, but two of them are
refused. -/
theorem outranked_statuses :
    Decides (statuses []) "enum" ["const"] ∧
      (∀ types, AgreeBefore ["const"] (statuses []) (statuses types)) ∧
      ∃ schema, read (statuses []) "#" 0 = .ok schema ∧
        read (statuses ["string", "integer"]) "#" 0 =
          .error (.uncompilable (.schema (.severalTypes [.text "string", .text "integer"])) "#/type") ∧
        ∃ nullable, read (statuses ["string", "null"]) "#" 0 = .ok (schema.withNullable nullable) := by
  have hdecides : Decides (statuses []) "enum" ["const"] := {
    first := ⟨["$ref", "oneOf", "anyOf", "allOf"], rfl, by
      simp [statuses, Value.object, Value.get?, Value.find?]⟩
    present := ⟨_, rfl⟩ }
  have hagree (types : List String) : AgreeBefore ["const"] (statuses []) (statuses types) := by
    intro key hkey
    have htype : "type" ≠ key := by
      rintro rfl
      exact hkey (by decide)
    simp [statuses, Value.object, Value.get?, Value.find?, htype]
  obtain ⟨schema, hschema⟩ : ∃ schema, read (statuses []) "#" 0 = .ok schema := ⟨_, rfl⟩
  have hseveral := (read_outranked hdecides (hagree ["string", "integer"]) hschema).1 (by decide)
  have hone := (read_outranked hdecides (hagree ["string", "null"]) hschema).2 (by decide)
  exact ⟨hdecides, hagree, schema, hschema, hseveral, hone⟩

end Schema

end ApiContract
