import ApiContract.Proofs.Schema.Reading
import ApiContract.Proofs.Schema.Within
import ApiContract.Proofs.Unplaced
import ApiContract.Proofs.Value.Proper

/-!
# The positions that a level reads

One level of a raw schema holds raw schemas at certain positions: the branches of a composition, the
items of an array, the properties and the schema of further keys of an object. `positions` lists them in
the order in which they are read, and `gathers_readLevel` says that this is all that reading a level comes
to: whatever reads the schemas within it, they are read one after another, and what they hold becomes what
the schema is made of.
-/

namespace ApiContract

open Outcome

namespace Value

theorem depth_item_lt {items : List Value} {v : Value} (h : v ∈ items) :
    v.depth < (Value.list items).depth := by
  rw [depth, Nat.lt_succ_iff]
  induction items with
  | nil => cases h
  | cons w rest ih =>
    rw [depthOfItems]
    rcases List.mem_cons.1 h with rfl | h
    · exact Nat.le_max_left ..
    · exact Nat.le_trans (ih h) (Nat.le_max_right ..)

theorem depth_entry_lt {entries : List (Scalar × Value)} {e : Scalar × Value} (h : e ∈ entries) :
    e.2.depth < (Value.map entries).depth := by
  rw [depth, Nat.lt_succ_iff]
  induction entries with
  | nil => cases h
  | cons f rest ih =>
    rw [depthOfEntries]
    rcases List.mem_cons.1 h with rfl | h
    · exact Nat.le_max_left ..
    · exact Nat.le_trans (ih h) (Nat.le_max_right ..)

end Value

namespace Schema

/-! ## Positions -/

def branchPositions (path : String) (branches : Value) : List (Value × String) :=
  match branches with
  | .list branches => branches.zipIdx.map fun (branch, i) => (branch, Pointer.item path i)
  | _ => []

/-- What is said of keys that are not listed is a raw schema if it is neither a flag nor empty. -/
def extraPositions (path : String) (extra : Value) : List (Value × String) :=
  match extra with
  | .null | .bool _ | .map [] => []
  | extra => [(extra, path)]

/-- The properties, and the positions `after` them unless a property is named by something else than a
text: nothing is read from there on. -/
def propertyPositions (path : String) (after : List (Value × String)) :
    (properties : List (Scalar × Value)) → List (Value × String)
  | [] => after
  | (.text name, property) :: rest =>
    (property, Pointer.child path name) :: propertyPositions path after rest
  | _ :: _ => []

def objectPositions (raw : Value) (path : String) : List (Value × String) :=
  let extra := extraPositions (Pointer.raw path "additionalProperties")
    (keywordOf raw "additionalProperties")
  match keywordOf raw "properties" with
  | .null => extra
  | .map properties => propertyPositions (Pointer.raw path "properties") extra properties
  | _ => []

def typedPositions (raw : Value) (path : String) (type : Value) : List (Value × String) :=
  match impliedType raw type with
  | .text "array" => (raw.get? "items").toList.map fun items => (items, Pointer.raw path "items")
  | .text "object" => objectPositions raw path
  | _ => []

def shapePositions (raw : Value) (path : String) (type : Value) : List (Value × String) :=
  match Shape.of raw with
  | .composition keyword branches => branchPositions (Pointer.raw path keyword.keyword) branches
  | .typed => typedPositions raw path type
  | _ => []

/-- The raw schemas that stand directly within a raw schema and the paths at which they are read, in
order. -/
def positions (raw : Value) (path : String) : List (Value × String) :=
  match splitType (keywordOf raw "type") path with
  | .ok (type, _) => shapePositions raw path type
  | .error _ => []

/-! ## Reading the positions -/

/-- A fault for schemas that are nested too deep. -/
def IsTooDeep (fault : Fault) : Prop :=
  ∃ limit place, fault = .uncompilable (.tooDeep limit) place

/-- A fault that has to do with something else than the depth of schemas. -/
abbrev IsShallow (fault : Fault) : Prop := ¬ IsTooDeep fault

instance : HoldsUnplaced IsShallow where
  unexpected := nofun
  rejected := nofun

/-- Whatever the reader, the positions are read in order, and then the level ends: with a schema that
`Q` relates to the schemas that were read, or with a fault of its own. -/
def Gathers (positions : List (Value × String)) (Q : List Schema → Schema → Prop)
    (level : (read : (raw : Value) → (path : String) → Except Fault Schema) → Except Fault Schema) :
    Prop :=
  ∃ finish : List Schema → Except Fault Schema,
    (∀ schemas, Ends IsShallow (Q schemas) (finish schemas)) ∧
      ∀ read, level read = positions.mapM (fun p => read p.1 p.2) >>= finish

theorem ends_uncompilable {α : Type} {Q : α → Prop} {cause : Cause} {path : String}
    (h : ∀ limit, cause ≠ .tooDeep limit) :
    Ends IsShallow Q (uncompilable cause path) := by
  refine ⟨failsAs_error.2 ?_, gives_error _⟩
  rintro ⟨limit, place, heq⟩
  cases heq
  exact h limit rfl

variable {Q : List Schema → Schema → Prop} {path : String} {raw : Value}
  {notes : Checked Annotations}

theorem Gathers.done {x : Except Fault Schema}
    (h : Ends IsShallow (Q []) x) : Gathers [] Q fun _ => x := by
  refine ⟨fun schemas => if schemas.isEmpty then x else .error .unexpected, ?_, fun _ => rfl⟩
  intro schemas
  cases schemas with
  | nil => exact h
  | cons => exact ⟨failsAs_unexpected, gives_error _⟩

/-- One position is read, and the level goes on with its schema. -/
theorem Gathers.read {rest : List (Value × String)} {level : Schema → _}
    (h : ∀ schema, Gathers rest (fun schemas => Q (schema :: schemas)) (level schema)) :
    Gathers ((raw, path) :: rest) Q fun read => read raw path >>= fun schema => level schema read := by
  choose finish hends heq using h
  refine ⟨fun schemas => schemas.head?.elim (.error .unexpected) (finish · schemas.tail), ?_, ?_⟩
  · intro schemas
    cases schemas with
    | nil => exact ⟨failsAs_unexpected, gives_error _⟩
    | cons schema schemas => exact hends schema schemas
  · intro read
    simp only [heq, List.mapM_cons, bind_assoc, pure_bind]
    rfl

/-! ## The positions of one level -/

theorem ends_readEnum {values : Value} : Ends IsShallow
    (fun schema => schema.children = []) (readEnum values notes path) := by
  unfold readEnum
  split
  next => exact ends_accept_map fun notes => rfl
  next => exact ends_uncompilable nofun

theorem ends_readComposition {keyword : Composition} {variants : List Schema} :
    Ends IsShallow (fun schema => schema.children = variants)
      (readComposition keyword raw notes variants) := by
  cases keyword with
  | oneOf =>
    refine (failsAs_discriminatorOf raw).bind_ends fun discriminator _ => ?_
    exact ends_accept_seq fun notes d => rfl
  | anyOf | allOf => exact ends_accept_map fun notes => rfl

theorem gathers_readBranches {keyword : Composition} {branches : Value} :
    Gathers (branchPositions (Pointer.raw path keyword.keyword) branches)
      (fun schemas schema => schema.children = schemas)
      fun read => readBranches read raw path notes keyword branches := by
  cases branches with
  | list branches =>
    refine ⟨readComposition keyword raw notes, fun _ => ends_readComposition, fun read => ?_⟩
    rw [branchPositions, List.mapM_map]
    rfl
  | scalar | map | set | endless => exact .done (ends_uncompilable nofun)

theorem gathers_readArray :
    Gathers ((raw.get? "items").toList.map fun items => (items, Pointer.raw path "items"))
      (fun schemas schema => schema.children = schemas)
      fun read => readArray read raw path notes := by
  unfold readArray
  cases raw.get? "items" with
  | none => exact .done (ends_uncompilable nofun)
  | some items =>
    refine .read fun items => .done ?_
    exact ends_accept_map fun notes => rfl

theorem gathers_readExtra {extra : Value} {finish : ExtraKeys Schema → Except Fault Schema}
    (h : ∀ extra, Ends IsShallow (Q extra.schema?.toList) (finish extra)) :
    Gathers (extraPositions path extra) Q fun read => readExtra read path extra >>= finish := by
  unfold readExtra extraPositions
  split
  next => exact .done (h .unstated)
  next allow => exact .done (h (.allowed allow))
  next => exact .done (h (.allowed true))
  next =>
    simp only [map_eq_pure_bind, bind_assoc, pure_bind]
    exact .read fun schema => .done (h (.typed schema))

theorem gathers_readProperties {after : List (Value × String)} {properties : List (Scalar × Value)}
    {level : List (String × Schema) → _}
    (h : ∀ found, Gathers after (fun schemas => Q (found.map (·.2) ++ schemas)) (level found)) :
    Gathers (propertyPositions path after properties) Q fun read =>
      properties.mapM (readProperty read path) >>= fun found => level found read := by
  -- Each schema that is read moves into `Q` and into what the level goes on with.
  induction properties generalizing Q level with
  | nil => exact h []
  | cons entry rest ih =>
    obtain ⟨key, property⟩ := entry
    simp only [List.mapM_cons, readProperty, bind_assoc, pure_bind]
    cases key with
    | text name => exact .read fun schema => ih fun found => h ((name, schema) :: found)
    | null | bool | int | float | date | timestamp | bytes =>
      exact .done ⟨failsAs_unexpected, gives_error _⟩

theorem gathers_readObject :
    Gathers (objectPositions raw path) (fun schemas schema => schema.children = schemas)
      fun read => readObject read raw path notes := by
  unfold readObject readProperties objectPositions
  dsimp only
  generalize keywordOf raw "properties" = properties
  generalize keywordOf raw "additionalProperties" = extra
  have hrest (properties : Option (List (String × Schema))) :
      Gathers (extraPositions (Pointer.raw path "additionalProperties") extra)
        (fun schemas schema => schema.children = (properties.getD []).map (·.2) ++ schemas)
        (fun read => do
          let extra ← readExtra read (Pointer.raw path "additionalProperties") extra
          let required ← (keywordOf raw "required").membersOrNone
          ((fun notes required => object notes properties required extra) <$> notes <*>
            (Field.texts required).under "required").accept "ObjectSchema") := by
    refine gathers_readExtra fun extra => ?_
    refine (Value.failsAs_membersOrNone _).bind_ends fun required _ => ?_
    exact ends_accept_seq fun notes required => rfl
  cases properties with
  | map properties =>
    simp only [Value.entries, bind_assoc, pure_bind]
    exact gathers_readProperties fun found => hrest (some found)
  | scalar s =>
    cases s with
    | null => exact hrest none
    | bool | int | float | text | date | timestamp | bytes =>
      exact .done ⟨failsAs_unexpected, gives_error _⟩
  | list | set | endless => exact .done ⟨failsAs_unexpected, gives_error _⟩

theorem gathers_readTyped {type : Value} :
    Gathers (typedPositions raw path type) (fun schemas schema => schema.children = schemas)
      fun read => readTyped read raw path type notes := by
  unfold readTyped typedPositions
  generalize impliedType raw type = implied
  split
  next => exact gathers_readArray
  next => exact gathers_readObject
  next harray hobject =>
    split
    next => exact (harray rfl).elim
    next => exact (hobject rfl).elim
    next name _ _ =>
      cases ScalarType.ofName? name with
      | some type =>
        refine .done ?_
        exact ends_accept_seq fun notes fields => rfl
      | none => exact .done (ends_uncompilable nofun)
    next => exact .done (ends_uncompilable nofun)
    next => exact .done (ends_uncompilable nofun)
    next => exact .done ⟨failsAs_unexpected, gives_error _⟩

theorem gathers_readShape {type : Value} :
    Gathers (shapePositions raw path type) (fun schemas schema => schema.children = schemas)
      fun read => readShape read raw path type notes := by
  unfold readShape shapePositions
  cases Shape.of raw with
  | ref =>
    refine .done ?_
    exact ends_accept_seq fun notes target => rfl
  | composition => exact gathers_readBranches
  | enum | const =>
    dsimp only
    exact .done ends_readEnum
  | typed => exact gathers_readTyped

/-- A level reads its positions, and what it gives is made of the schemas there. -/
theorem gathers_readLevel (raw : Value) (path : String) :
    ∃ finish : List Schema → Except Fault Schema,
      (∀ schemas, Ends IsShallow (fun schema => schema.children = schemas) (finish schemas)) ∧
        ∀ read, readLevel read raw path =
          (positions raw path).mapM (fun p => read p.1 p.2) >>= finish := by
  have htype : FailsAs IsShallow (splitType (keywordOf raw "type") path) := by
    unfold splitType
    split
    next =>
      dsimp only
      split <;> simp [uncompilable, IsShallow, IsTooDeep]
    next => exact failsAs_ok _
  suffices h : Gathers (positions raw path) (fun schemas schema => schema.children = schemas)
    fun read => readLevel read raw path from h
  unfold readLevel positions
  cases hsplit : splitType (keywordOf raw "type") path with
  | error fault =>
    rw [hsplit] at htype
    exact .done ⟨failsAs_error.2 (failsAs_error.1 htype), gives_error _⟩
  | ok typed => exact gathers_readShape

/-- What a level reads of positions that it does not come to does not matter. -/
theorem readLevel_congr {f g : (raw : Value) → (path : String) → Except Fault Schema}
    (h : ∀ p ∈ reached (fun p => f p.1 p.2) (positions raw path), g p.1 p.2 = f p.1 p.2) :
    readLevel g raw path = readLevel f raw path := by
  obtain ⟨finish, -, heq⟩ := gathers_readLevel raw path
  rw [heq, heq, mapM_congr_of_reached h]

/-! ## Positions stand deeper -/

theorem depth_get?_lt {v w : Value} {key : String} (h : v.get? key = some w) : w.depth < v.depth := by
  cases v with
  | map entries => exact Value.depth_entry_lt (Value.mem_of_find? h)
  | scalar | list | set | endless => cases h

theorem depth_keywordOf_lt {keyword : String} (h : keywordOf raw keyword ≠ .null) :
    (keywordOf raw keyword).depth < raw.depth :=
  depth_get?_lt (get?_of_keywordOf rfl h)

theorem depth_lt_of_mem_branchPositions {branches : Value} {p : Value × String}
    (h : p ∈ branchPositions path branches) : p.1.depth < branches.depth := by
  cases branches with
  | list branches =>
    obtain ⟨⟨branch, i⟩, hb, rfl⟩ := List.mem_map.1 h
    exact Value.depth_item_lt (List.fst_mem_of_mem_zipIdx hb)
  | scalar | map | set | endless => cases h

theorem mem_extraPositions {extra : Value} {p : Value × String} (h : p ∈ extraPositions path extra) :
    extra ≠ .null ∧ p.1 = extra := by
  unfold extraPositions at h
  split at h
  next => cases h
  next => cases h
  next => cases h
  next hnull _ _ =>
    obtain rfl := List.mem_singleton.1 h
    exact ⟨hnull, rfl⟩

theorem mem_propertyPositions {after : List (Value × String)} {properties : List (Scalar × Value)}
    {p : Value × String} (h : p ∈ propertyPositions path after properties) :
    (∃ e ∈ properties, p.1 = e.2) ∨ p ∈ after := by
  induction properties with
  | nil => exact .inr h
  | cons entry rest ih =>
    obtain ⟨key, property⟩ := entry
    cases key with
    | text name =>
      rcases List.mem_cons.1 h with rfl | h
      · exact .inl ⟨_, List.mem_cons_self, rfl⟩
      · refine (ih h).imp_left ?_
        rintro ⟨e, he, heq⟩
        exact ⟨e, List.mem_cons_of_mem _ he, heq⟩
    | null | bool | int | float | date | timestamp | bytes => cases h

theorem depth_lt_of_mem_objectPositions {p : Value × String} (h : p ∈ objectPositions raw path) :
    p.1.depth < raw.depth := by
  have hextra {place : String}
      (h : p ∈ extraPositions place (keywordOf raw "additionalProperties")) :
      p.1.depth < raw.depth := by
    obtain ⟨hnull, heq⟩ := mem_extraPositions h
    rw [heq]
    exact depth_keywordOf_lt hnull
  unfold objectPositions at h
  dsimp only at h
  split at h
  next => exact hextra h
  next properties hproperties =>
    rcases mem_propertyPositions h with ⟨e, he, heq⟩ | h
    · have houter := depth_get?_lt (get?_of_keywordOf hproperties nofun)
      rw [heq]
      exact Nat.lt_trans (Value.depth_entry_lt he) houter
    · exact hextra h
  next => cases h

theorem depth_lt_of_mem_positions {p : Value × String} (h : p ∈ positions raw path) :
    p.1.depth < raw.depth := by
  unfold positions at h
  split at h
  next type _ =>
    unfold shapePositions at h
    split at h
    next hshape =>
      have houter := depth_get?_lt (Shape.get?_of_composition hshape)
      exact Nat.lt_trans (depth_lt_of_mem_branchPositions h) houter
    next =>
      unfold typedPositions at h
      split at h
      next =>
        obtain ⟨items, hitems, rfl⟩ := List.mem_map.1 h
        exact depth_get?_lt (Option.mem_toList.1 hitems)
      next => exact depth_lt_of_mem_objectPositions h
      next => cases h
    next => cases h
  next => cases h

/-- What holds of a raw schema if it holds of those at its positions holds of every raw schema. -/
theorem induction_positions {P : Value → Prop}
    (step : ∀ raw, (∀ path, ∀ p ∈ positions raw path, P p.1) → P raw) (raw : Value) : P raw :=
  step raw fun _ p _ => induction_positions step p.1
termination_by raw.depth
decreasing_by exact depth_lt_of_mem_positions ‹_›

end Schema

end ApiContract
