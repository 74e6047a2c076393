import ApiContract.Proofs.Schema.Survey

/-!
# What diagnostics of schemas point to

A raw schema that stands by itself is read and compiled from the pointer `#` on. Whatever goes wrong at a
place of it is reported at a pointer that can be followed in the raw schema, or at a keyword that a
mapping in it lacks: `diagnostics_locate`. Mappings have to hold each key once for this, and the positions
in lists have to be short enough to be read back (`Value.Numbered`), as they are in any list that fits
into memory.
-/

namespace ApiContract

open Outcome Number Pointer

/-- Every list in the value is short enough for its positions to be read from their numerals. -/
inductive Value.Numbered : Value → Prop where
  | scalar (s : Scalar) : Numbered (.scalar s)
  | list {items : List Value} (short : (natText items.length).length ≤ numeralLimit)
    (items_numbered : ∀ v ∈ items, v.Numbered) : Numbered (.list items)
  | map {entries : List (Scalar × Value)} (values : ∀ e ∈ entries, e.2.Numbered) :
    Numbered (.map entries)
  | set (members : List Scalar) : Numbered (.set members)
  | endless : Numbered .endless

namespace Value

variable {document v : Value}

@[simp] theorem numbered_scalar {s : Scalar} : (Value.scalar s).Numbered := .scalar s

@[simp] theorem numbered_list {items : List Value} : (Value.list items).Numbered ↔
    (natText items.length).length ≤ numeralLimit ∧ ∀ v ∈ items, v.Numbered :=
  ⟨fun | .list short numbered => ⟨short, numbered⟩, fun h => .list h.1 h.2⟩

@[simp] theorem numbered_object {fields : List (String × Value)} :
    (Value.object fields).Numbered ↔ ∀ e ∈ fields, e.2.Numbered := by
  unfold Value.object
  constructor
  · intro h
    cases h with
    | map values => exact fun e he => values _ (List.mem_map_of_mem he)
  · exact fun h => .map (List.forall_mem_map.2 h)

theorem Part.numbered (h : document.Part v) (hdocument : document.Numbered) : v.Numbered := by
  induction h with
  | self => exact hdocument
  | item _ member ih =>
    cases ih with
    | list _ items => exact items _ member
  | entry _ member ih =>
    cases ih with
    | map values => exact values _ member

end Value

/-- The numeral of a smaller number is not longer. -/
theorem Number.length_natText_le {m n : Nat} (hlt : m < n) (hn : (natText n).length ≤ numeralLimit) :
    (natText m).length ≤ numeralLimit := by
  have hten : 1 < 10 := by decide
  have hlimit : 0 < numeralLimit := by decide
  unfold natText at hn ⊢
  rw [Nat.length_toDigits_le_iff hten hlimit] at hn ⊢
  exact Nat.lt_trans hlt hn

namespace Schema

/-- The pointer can be followed in the raw schema, or all but its last segment leads to a mapping there
that lacks the keyword which this segment is. -/
def Locates (raw : Value) (path : String) : Prop :=
  (∃ v, find raw path = .ok v) ∨
    ∃ place entries keyword, find raw place = .ok (.map entries) ∧ keyword ∈ reportedKeywords ∧
      Value.find? keyword entries = none ∧ path = Pointer.raw place keyword

variable {raw : Value} {path : String}

/-- A raw schema, charted by the pointers that can be followed in it. -/
def chart (hproper : raw.Proper) (hnumbered : raw.Numbered) : Chart where
  leads path v := isLocal path = true ∧ find raw path = .ok v
  opens path v := isLocal path = true ∧ find raw path = .ok v
  points path := Locates raw path
  opens_of_leads h := h
  entry := by
    rintro path key entries v ⟨hlocal, hfind⟩ hmem
    cases (Value.Part.find hfind).proper hproper with
    | map keys _ =>
      refine ⟨isLocal_raw hlocal, ?_⟩
      rw [find_child hlocal hfind, step, Value.find?_of_mem keys hmem]
  item := by
    rintro path items i v ⟨hlocal, hfind⟩ hitem
    cases (Value.Part.find hfind).numbered hnumbered with
    | list short _ =>
      have hlt : i < items.length := List.getElem?_eq_some_iff.1 hitem |>.1
      exact ⟨isLocal_raw hlocal, find_item hlocal hfind hitem (length_natText_le hlt short)⟩
  points_of_leads := by
    rintro path v ⟨-, hfind⟩
    exact .inl ⟨v, hfind⟩
  reported := by
    rintro path keyword entries ⟨hlocal, hfind⟩ hkeyword
    cases hfound : Value.find? keyword entries with
    | none => exact .inr ⟨path, entries, keyword, hfind, hkeyword, hfound, rfl⟩
    | some v =>
      left
      refine ⟨v, ?_⟩
      rw [raw_eq_child (escape_of_reported hkeyword), find_child hlocal hfind, step, hfound]

/-- A fault of a schema, in reading it or in compiling what was read, is reported at a place in the raw
schema or at a keyword that is missing there. -/
theorem diagnostics_locate (hproper : raw.Proper) (hnumbered : raw.Numbered) (depth : Nat)
    (cause : Cause) :
    (read raw "#" depth = .error (.uncompilable cause path) → Locates raw path) ∧
      ∀ schema, read raw "#" depth = .ok schema → ∀ s required convert style,
        ((schema.compileValue s required "#" convert style).result =
            .error (.uncompilable cause path) → Locates raw path) ∧
          ((schema.compileRepeated s required "#" convert).result =
            .error (.uncompilable cause path) → Locates raw path) := by
  let S := chart hproper hnumbered
  have hroot : S.leads "#" raw := ⟨rfl, rfl⟩
  have hread := reads_read depth hroot
  have hplaced {α : Type} {x : Except Fault α} (hx : FailsAs S.Placed x)
      (h : x = .error (.uncompilable cause path)) : Locates raw path :=
    (hx _ h cause path rfl).2
  refine ⟨hplaced hread.fails, fun schema hschema s required convert style => ⟨?_, ?_⟩⟩
  · exact hplaced (placed_compileValue schema (hread.gives schema hschema))
  · exact hplaced (placed_compileRepeated schema (hread.gives schema hschema))

/-- Texts by a key that has to be escaped in pointers. The second branch is an array without items. -/
def translations : Value :=
  .object [("properties", .object [("en/~", .object [("oneOf",
    .list [.object [("type", .text "string")], .object [("type", .text "array")]])])])]

/-- Shelves of numbers, each of which is a text unless it is stated. -/
def shelves : Value :=
  .object [("type", .text "array"), ("items", .object [("additionalProperties",
    .object [("type", .text "integer"), ("default", .text "none")])])]

/-- The missing keyword is reported where it is missing, and the wrong default where it stands. -/
theorem locates_translations :
    (translations.Proper ∧ translations.Numbered ∧
      read translations "#" 0 =
        .error (.uncompilable (.missingSchema .items) "#/properties/en~1~0/oneOf/1/items") ∧
      Locates translations "#/properties/en~1~0/oneOf/1/items") ∧
    (shelves.Proper ∧ shelves.Numbered ∧ ∃ schema, read shelves "#" 0 = .ok schema ∧
      (schema.compileValue { document := .object [] } true "#").result =
        .error (.uncompilable (.wrongDefault (.text "none") "an integer")
          "#/items/additionalProperties/default") ∧
      Locates shelves "#/items/additionalProperties/default") := by
  have htranslations : translations.Proper ∧ translations.Numbered := by
    simp [translations, natText, numeralLimit, Nat.toDigits, Nat.toDigitsCore]
  have hshelves : shelves.Proper ∧ shelves.Numbered := by simp [shelves]
  have hread : read translations "#" 0 =
      .error (.uncompilable (.missingSchema .items) "#/properties/en~1~0/oneOf/1/items") := rfl
  have hlocates := (diagnostics_locate htranslations.1 htranslations.2 0 _).1 hread
  obtain ⟨schema, hschema, hcompile⟩ : ∃ schema, read shelves "#" 0 = .ok schema ∧
      (schema.compileValue { document := .object [] } true "#").result =
        .error (.uncompilable (.wrongDefault (.text "none") "an integer")
          "#/items/additionalProperties/default") := ⟨_, rfl, rfl⟩
  have hdefault := ((diagnostics_locate hshelves.1 hshelves.2 0 _).2 schema hschema _ _ _ _).1 hcompile
  exact ⟨⟨htranslations.1, htranslations.2, hread, hlocates⟩,
    hshelves.1, hshelves.2, schema, hschema, hcompile, hdefault⟩

end Schema

end ApiContract
