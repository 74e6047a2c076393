import ApiContract.Proofs.Pointer.Steps
import ApiContract.Proofs.Schema.Leaves

/-!
# Why schemas do not compile

A schema that does not compile has a cause at the place of one of the schemas within it, or at a keyword
there (`failsAs_compile`), with one exception: literals that are parsed from strings are spelled as JSON
there, and the value of an enum may have no JSON form, as the dates of YAML have none (`Writable`). A
schema that compiles with its values parsed from strings has no such literal (`writable_of_compile`).
-/

namespace ApiContract

namespace Schema

open Outcome

/-! ## Places -/

/-- The keywords of schemas at which faults are reported. -/
def reportedKeywords : List String :=
  ["$ref", "oneOf", "anyOf", "allOf", "enum", "type", "items", "default", "minLength", "maxLength",
    "pattern"]

/-- Such a keyword stands in a pointer as it is. -/
theorem escape_of_reported {keyword : String} (h : keyword ∈ reportedKeywords) :
    Pointer.escape keyword = keyword := by
  have hescape : ∀ keyword ∈ reportedKeywords, Pointer.escape keyword = keyword := by decide +kernel
  exact hescape keyword h

/-- A fault at the path or at a keyword there. -/
def IsUncompilableAt (path : String) (fault : Fault) : Prop :=
  ∃ cause place, fault = .uncompilable cause place ∧ cause.IsLocal ∧
    (place = path ∨ ∃ keyword ∈ reportedKeywords, place = Pointer.raw path keyword)

theorem failsAs_uncompilable {α : Type} {cause : Cause} {path : String}
    (h : cause.IsLocal) :
    FailsAs (IsUncompilableAt path) (uncompilable cause path : Except Fault α) :=
  failsAs_error.2 ⟨cause, path, rfl, h, .inl rfl⟩

theorem failsAs_uncompilable_keyword {α : Type} {cause : Cause} {path keyword : String}
    (h : cause.IsLocal) (hkeyword : keyword ∈ reportedKeywords) :
    FailsAs (IsUncompilableAt path) (uncompilable cause (Pointer.raw path keyword) : Except Fault α) :=
  failsAs_error.2 ⟨cause, _, rfl, h, .inr ⟨keyword, hkeyword, rfl⟩⟩

theorem Composes.keyword_mem {schema : Schema} {k : Combination} (h : schema.Composes k) :
    k.keyword ∈ reportedKeywords := by
  cases h <;> simp [reportedKeywords]

/-- The schema at the path and all schemas within it stand at places of which `M` holds. -/
inductive Stands (M : String → Prop) : String → Schema → Prop where
  | ref {path : String} {notes : Annotations} {target : String} (here : M path) :
    Stands M path (.ref notes target)
  | composed {path : String} {schema : Schema} {k : Combination} (here : M path)
    (composes : schema.Composes k)
    (variants : ∀ b ∈ k.variants.zipIdx,
      Stands M (Pointer.item (Pointer.raw path k.keyword) b.2) b.1) : Stands M path schema
  | enum {path : String} {notes : Annotations} {values : List Value} (here : M path) :
    Stands M path (.enum notes values)
  | scalar {path : String} {notes : Annotations} {fields : ScalarSchema} (here : M path) :
    Stands M path (.scalar notes fields)
  | array {path : String} {notes : Annotations} {items : Schema} (here : M path)
    (inside : Stands M (Pointer.raw path "items") items) : Stands M path (.array notes items)
  | object {path : String} {notes : Annotations} {properties : Option (List (String × Schema))}
    {required : List String} {extra : ExtraKeys Schema} (here : M path)
    (inside : ∀ p ∈ properties.getD [],
      Stands M (Pointer.child (Pointer.raw path "properties") p.1) p.2)
    (beyond : ∀ t, extra.schema? = some t → Stands M (Pointer.raw path "additionalProperties") t) :
    Stands M path (.object notes properties required extra)

section Places

variable {M : String → Prop} {path : String} {schema : Schema}

theorem Stands.here (h : schema.Stands M path) : M path := by cases h <;> assumption

theorem Stands.variants {k : Combination} (h : schema.Stands M path) (hk : schema.Composes k) :
    ∀ b ∈ k.variants.zipIdx, b.1.Stands M (Pointer.item (Pointer.raw path k.keyword) b.2) := by
  cases h with
  | composed _ composes variants =>
    obtain rfl := composes.unique hk
    exact variants
  | ref | enum | scalar | array | object => cases hk

theorem Stands.items {notes : Annotations} {items : Schema}
    (h : (Schema.array notes items).Stands M path) : items.Stands M (Pointer.raw path "items") := by
  cases h with
  | array _ inside => exact inside
  | composed _ composes => cases composes

theorem Stands.properties {notes : Annotations} {properties : Option (List (String × Schema))}
    {required : List String} {extra : ExtraKeys Schema}
    (h : (Schema.object notes properties required extra).Stands M path) :
    (∀ p ∈ properties.getD [],
        p.2.Stands M (Pointer.child (Pointer.raw path "properties") p.1)) ∧
      ∀ t, extra.schema? = some t → t.Stands M (Pointer.raw path "additionalProperties") := by
  cases h with
  | object _ inside beyond => exact ⟨inside, beyond⟩
  | composed _ composes => cases composes

/-- Of nothing in particular, it holds of every schema. -/
theorem stands_true (schema : Schema) : schema.Stands (fun _ => True) path := by
  induction schema using Schema.induction generalizing path with
  | step schema ih =>
    induction schema using shapes with
    | ref => exact .ref trivial
    | composed schema k hk =>
      rw [hk.children] at ih
      exact .composed trivial hk fun b hb => ih b.1 (List.fst_mem_of_mem_zipIdx hb)
    | enum => exact .enum trivial
    | scalar => exact .scalar trivial
    | array => exact .array trivial (ih _ items_mem_children)
    | object =>
      exact .object trivial (fun p hp => ih p.2 (property_mem_children hp))
        fun t ht => ih t (extra_mem_children ht)

end Places

/-! ## Literals in strings -/

/-- Every value of an enum within the schema has a JSON form. -/
def Writable (schema : Schema) : Prop :=
  ∀ notes values, (enum notes values).Within schema → ∀ v ∈ values, v.isJson = true

theorem Writable.of_child {schema t : Schema} (h : schema.Writable) (ht : t ∈ schema.children) :
    t.Writable := fun _ _ hw => h _ _ (.child ht hw)

theorem writable_enum {notes : Annotations} {values : List Value} :
    (enum notes values).Writable ↔ ∀ v ∈ values, v.isJson = true := by
  constructor
  · exact fun h => h notes values .self
  · intro h notes values' hw
    rcases within_iff.1 hw with heq | ⟨t, ht, -⟩
    · cases heq
      exact h
    · cases ht

theorem writable_of_children {schema : Schema} (h : ∀ notes values, schema ≠ .enum notes values) :
    schema.Writable ↔ ∀ t ∈ schema.children, t.Writable := by
  constructor
  · exact fun hw t ht => hw.of_child ht
  · intro hchildren notes values hw
    rcases within_iff.1 hw with rfl | ⟨t, ht, hw⟩
    · exact absurd rfl (h notes values)
    · exact hchildren t ht notes values hw

variable {s : Setting} {convert : Option Conversion} {style : ArrayStyle} {path : String}
  {notes : Annotations}

theorem wireText_ok {v : Value} : (∃ text, wireText v = .ok text) ↔ v.isJson = true := by
  unfold wireText
  split
  next => simp [Value.isJson, Value.isJsonScalar]
  next => split <;> simp_all

theorem wireTexts_ok {values : List Value} :
    (∃ wire, values.mapM wireText = .ok wire) ↔ ∀ v ∈ values, v.isJson = true := by
  simp only [mapM_eq_ok]
  constructor
  · rintro ⟨wire, h⟩ v hv
    obtain ⟨text, -, htext⟩ := h.exists_right hv
    exact wireText_ok.1 ⟨text, htext⟩
  · intro h
    induction values with
    | nil => exact ⟨[], .nil⟩
    | cons v rest ih =>
      simp only [List.mem_cons, forall_eq_or_imp] at h
      obtain ⟨text, htext⟩ := wireText_ok.2 h.1
      obtain ⟨wire, hwire⟩ := ih h.2
      exact ⟨text :: wire, .cons htext hwire⟩

/-- The only fault of a literal is that of one without a JSON form. -/
theorem failsAs_wireTexts (values : List Value) :
    FailsAs (fun fault => fault = .unexpected) (values.mapM wireText) := by
  refine failsAs_mapM fun v _ => ?_
  unfold wireText
  split
  next => exact failsAs_ok _
  next =>
    split
    next => exact failsAs_ok _
    next => exact failsAs_error.2 rfl

theorem texts_isJson {values : List Value} {texts : List String} (h : texts? values = some texts) :
    ∀ v ∈ values, v.isJson = true := by
  induction values generalizing texts with
  | nil => simp
  | cons v rest ih =>
    unfold texts? at h
    split at h
    next heq => cases heq
    next heq =>
      cases heq
      obtain ⟨found, hfound, -⟩ := Option.map_eq_some_iff.1 h
      simp only [List.mem_cons, forall_eq_or_imp]
      exact ⟨rfl, ih hfound⟩
    next => cases h

/-! ## Faults -/

theorem failsAs_finish {rule : Option DefaultRule} {v : Validator} :
    FailsAs (IsUncompilableAt path) (finish notes path rule v) := by
  unfold finish
  cases notes.default with
  | none => exact failsAs_ok _
  | some default =>
    cases rule with
    | none => exact failsAs_ok _
    | some rule =>
      dsimp only
      split
      · exact failsAs_ok _
      · exact failsAs_uncompilable_keyword (by simp) (by simp [reportedKeywords])

theorem failsAs_requireValue {required : Bool} {c : Compiled} :
    FailsAs (IsUncompilableAt path) (requireValue required path c) := by
  unfold requireValue
  cases required <;> cases c.hasDefault
  · exact failsAs_ok _
  · exact failsAs_ok _
  · exact failsAs_ok _
  · exact failsAs_uncompilable (by simp)

theorem failsAs_composeBranches {branches : List Compiled}
    {combine : List Validator → Option Validator} {keyword : String}
    (hkeyword : keyword ∈ reportedKeywords) :
    FailsAs (IsUncompilableAt path) (composeBranches notes path branches combine keyword) := by
  unfold composeBranches
  cases combine (branches.map (·.validator)) with
  | none => exact failsAs_uncompilable_keyword (by simp) hkeyword
  | some v => exact failsAs_finish.bind fun _ _ => failsAs_ok _

theorem failsAs_joinArray {c : Compiled} :
    FailsAs (IsUncompilableAt path) (joinArray path convert style c) := by
  unfold joinArray
  split
  next =>
    cases style.delimiter? with
    | none => exact failsAs_uncompilable (by simp)
    | some delimiter => exact failsAs_ok _
  next => exact failsAs_ok _

theorem failsAs_compileRef {target : String} :
    FailsAs (IsUncompilableAt path) (compileRef s target path) := by
  unfold compileRef
  dsimp only
  split
  next => exact failsAs_uncompilable_keyword (by simp) (by simp [reportedKeywords])
  next =>
    split
    next => exact failsAs_uncompilable_keyword (by simp) (by simp [reportedKeywords])
    next =>
      refine FailsAs.bind ?_ fun _ _ => failsAs_ok _
      unfold Pointer.follow
      cases Pointer.find s.document target with
      | ok v => exact failsAs_ok v
      | error problem => exact failsAs_uncompilable_keyword (by simp) (by simp [reportedKeywords])

theorem failsAs_compileEnum {P : Fault → Prop} {values : List Value}
    (hP : ∀ fault, IsUncompilableAt path fault → P fault)
    (h : P .unexpected ∨
      ∀ location, convert = some ⟨.fromString, location⟩ → ∀ v ∈ values, v.isJson = true) :
    FailsAs P (compileEnum notes values path convert) := by
  unfold compileEnum
  apply (failsAs_finish.imp hP).bind
  rintro ⟨v, hasDefault⟩ -
  cases convert with
  | none => exact failsAs_ok _
  | some convert =>
    cases texts? values with
    | some texts => exact failsAs_ok _
    | none =>
      obtain ⟨direction, location⟩ := convert
      cases direction with
      | toString => exact failsAs_ok _
      | fromString =>
        have hwire : FailsAs P (values.mapM wireText) := by
          rcases h with h | h
          · exact (failsAs_wireTexts values).imp fun fault heq => heq ▸ h
          · obtain ⟨wire, hwire⟩ := wireTexts_ok.2 (h location rfl)
            rw [hwire]
            exact failsAs_ok _
        exact hwire.bind fun _ _ => failsAs_ok _

theorem failsAs_compileTyped {base wire : Validator} {rule : DefaultRule} {kind : TransformKind} :
    FailsAs (IsUncompilableAt path) (compileTyped notes path convert base wire rule kind) := by
  unfold compileTyped
  refine failsAs_finish.bind fun finished _ => ?_
  cases convert <;> exact failsAs_ok _

theorem failsAs_compileBinary {fields : ScalarSchema} {format : String} :
    FailsAs (IsUncompilableAt path) (compileBinary s notes fields format path convert) := by
  simp only [compileBinary]
  split
  next keyword hfind =>
    have hkeyword : keyword ∈ reportedKeywords := by
      have hmem := List.mem_of_find?_eq_some hfind
      simp only [List.mem_cons, Prod.mk.injEq, List.not_mem_nil, or_false] at hmem
      rcases hmem with ⟨-, rfl⟩ | ⟨-, rfl⟩ | ⟨-, rfl⟩ | ⟨-, rfl⟩ <;> simp [reportedKeywords]
    exact failsAs_uncompilable_keyword (by simp) hkeyword
  next =>
    cases convert with
    | some convert => exact failsAs_uncompilable (by simp)
    | none => exact failsAs_finish.bind fun _ _ => failsAs_ok _

theorem failsAs_compileDate {fields : ScalarSchema} {isDate : Bool} :
    FailsAs (IsUncompilableAt path) (compileDate s notes fields isDate path convert) := by
  unfold compileDate
  cases dateDirection s convert <;> exact failsAs_finish.bind fun _ _ => failsAs_ok _

theorem failsAs_compilePlainString {fields : ScalarSchema} :
    FailsAs (IsUncompilableAt path) (compilePlainString notes fields path).result := by
  rw [result_compilePlainString]
  exact failsAs_finish.bind fun _ _ => failsAs_ok _

theorem failsAs_compileScalar {fields : ScalarSchema} :
    FailsAs (IsUncompilableAt path) (compileScalar s notes fields path convert).result := by
  unfold compileScalar
  cases fields.type with
  | string =>
    show FailsAs (IsUncompilableAt path) (compileString s notes fields path convert).result
    unfold compileString
    split
    next => exact failsAs_compileBinary
    next => exact failsAs_compileBinary
    next => exact failsAs_compileDate
    next => exact failsAs_compileDate
    next => exact failsAs_compilePlainString
  | null =>
    simp only [Reported.result_lift]
    split
    next => exact failsAs_uncompilable (by simp)
    next => exact failsAs_finish.bind fun _ _ => failsAs_ok _
  | boolean => exact failsAs_compileTyped
  | integer => exact failsAs_compileTyped
  | number => exact failsAs_compileTyped

section Raised

variable {P : Fault → Prop} {M : String → Prop}
  (hP : ∀ path, M path → ∀ fault, IsUncompilableAt path fault → P fault)

theorem failsAs_compileBranches {variants : List Schema} {index : Nat}
    (h : ∀ b ∈ variants.zipIdx index,
      FailsAs P (compile s convert style (Pointer.item path b.2) b.1).result) :
    FailsAs P (compileBranches s convert style path index variants).result := by
  rw [compileBranches_eq_mapM, Reported.result_mapM]
  exact failsAs_mapM h

theorem failsAs_compileExtra {extra : ExtraKeys Schema}
    (h : ∀ schema, extra.schema? = some schema →
      FailsAs P (compile s none .standard path schema).result) :
    FailsAs P (compileExtra s path extra).result := by
  cases extra with
  | unstated => exact failsAs_ok _
  | allowed allow => exact failsAs_ok _
  | typed schema =>
    unfold compileExtra
    rw [Reported.result_bind]
    exact (h schema rfl).bind fun _ _ => failsAs_ok _

include hP

theorem failsAs_compileProperty {required : List String} {property : String × Schema}
    (hM : M (Pointer.child path property.1))
    (h : FailsAs P (compile s none .standard (Pointer.child path property.1) property.2).result) :
    FailsAs P (compileProperty s path required property).result := by
  unfold compileProperty
  simp only [Reported.result_bind, Reported.result_lift]
  refine h.bind fun c _ => ?_
  exact (failsAs_requireValue.imp (hP _ hM)).bind fun _ _ => failsAs_ok _

/-- A schema that does not compile has a cause at a place of a schema within it, unless one of its
literals cannot be written, which is an unexpected fault. -/
theorem failsAs_compile (schema : Schema) (hs : schema.Stands M path)
    (h : P .unexpected ∨ ∀ location, convert = some ⟨.fromString, location⟩ → schema.Writable) :
    FailsAs P (compile s convert style path schema).result := by
  induction schema using Schema.induction generalizing convert style path with
  | step schema ih =>
    have ih : ∀ t ∈ schema.children, ∀ style path, t.Stands M path →
        FailsAs P (compile s convert style path t).result := fun t ht style path hstands =>
      ih t ht hstands (h.imp id fun h location hc => (h location hc).of_child ht)
    have hhere : ∀ fault, IsUncompilableAt path fault → P fault := hP path hs.here
    cases schema using shapes with
    | ref notes target => exact failsAs_compileRef.imp hhere
    | composed schema k hk =>
      rw [compile_composes hk, Reported.result_bind]
      rw [hk.children] at ih
      have hbranches : FailsAs P
          (compileBranches s convert style (Pointer.raw path k.keyword) 0 k.variants).result :=
        failsAs_compileBranches fun b hb =>
          ih b.1 (List.fst_mem_of_mem_zipIdx hb) style _ (hs.variants hk b hb)
      refine hbranches.bind fun branches _ => ?_
      exact (failsAs_composeBranches hk.keyword_mem).imp hhere
    -- Only here the literals matter.
    | enum notes values =>
      exact failsAs_compileEnum hhere (h.imp id fun h location hc => writable_enum.1 (h location hc))
    | scalar notes fields => exact failsAs_compileScalar.imp hhere
    | array notes items =>
      have hitems := hs.items
      simp only [compile]
      split
      next => exact FailsAs.imp (failsAs_uncompilable (by simp)) hhere
      next =>
        simp only [Reported.result_bind, Reported.result_lift]
        refine (ih items items_mem_children _ _ hitems).bind fun item _ => ?_
        refine (failsAs_requireValue.imp (hP _ hitems.here)).bind fun item _ => ?_
        refine FailsAs.bind ((failsAs_finish.imp hhere).bind fun _ _ => failsAs_ok _) fun c _ => ?_
        exact failsAs_joinArray.imp hhere
    | object notes properties required extra =>
      obtain ⟨hproperties, hbeyond⟩ := hs.properties
      rw [compile_object]
      cases convert with
      | some convert => exact FailsAs.imp (failsAs_uncompilable (by simp)) hhere
      | none =>
        cases danglingName? required (properties.getD []) with
        | some name => exact FailsAs.imp (failsAs_uncompilable (by simp)) hhere
        | none =>
          simp only [Option.isSome_none, Bool.false_eq_true, ↓reduceIte, Reported.result_bind,
            Reported.result_mapM, Reported.result_lift]
          have hfields : FailsAs P ((properties.getD []).mapM fun p =>
              (compileProperty s (Pointer.raw path "properties") required p).result) := by
            refine failsAs_mapM fun p hp => failsAs_compileProperty hP (hproperties p hp).here ?_
            exact ih p.2 (property_mem_children hp) _ _ (hproperties p hp)
          refine hfields.bind fun fields _ => ?_
          have hextra := failsAs_compileExtra fun schema ht =>
            ih schema (extra_mem_children ht) .standard _ (hbeyond schema ht)
          refine hextra.bind ?_
          exact fun compiled _ => (failsAs_finish.imp hhere).bind fun _ _ => failsAs_ok _

theorem failsAs_compileValue {required : Bool} (schema : Schema) (hs : schema.Stands M path)
    (hunexpected : P .unexpected) :
    FailsAs P (schema.compileValue s required path convert style).result := by
  simp only [compileValue, Reported.result_bind, Reported.result_lift]
  refine (failsAs_compile hP schema hs (.inl hunexpected)).bind fun c _ => ?_
  exact failsAs_requireValue.imp (hP path hs.here)

theorem failsAs_compileRepeated {required : Bool} (schema : Schema) (hs : schema.Stands M path)
    (hunexpected : P .unexpected) :
    FailsAs P (schema.compileRepeated s required path convert).result := by
  unfold compileRepeated
  split
  next notes items =>
    simp only [Reported.result_bind, Reported.result_lift]
    refine (failsAs_compileValue hP items hs.items hunexpected).bind fun item _ => ?_
    have harray : FailsAs P (finishArray notes path item) :=
      (failsAs_finish.imp (hP path hs.here)).bind fun _ _ => failsAs_ok _
    exact harray.bind fun c _ => failsAs_requireValue.imp (hP path hs.here)
  next => exact failsAs_error.2 hunexpected

end Raised

theorem compile_ne_unexpected (schema : Schema)
    (h : ∀ location, convert = some ⟨.fromString, location⟩ → schema.Writable) :
    (compile s convert style path schema).result ≠ .error .unexpected := by
  intro hfault
  have hplaced : FailsAs (fun fault => ∃ path, IsUncompilableAt path fault)
      (compile s convert style path schema).result :=
    failsAs_compile (fun path _ fault hfault => ⟨path, hfault⟩) schema (stands_true schema) (.inr h)
  obtain ⟨_, _, _, heq, -⟩ := hplaced _ hfault
  cases heq

/-- What compiles with its values parsed from strings has only literals with a JSON form. -/
theorem writable_of_compile {location : Location} {c : Compiled} (schema : Schema)
    (h : (compile s (some ⟨.fromString, location⟩) style path schema).result = .ok c) :
    schema.Writable := by
  refine compile_induction
    (P := fun schema convert _ => convert = some ⟨.fromString, location⟩ → schema.Writable)
    ?_ ?_ ?_ ?_ ?_ ?_ schema h rfl
  · rintro notes target key v convert - - -
    rw [writable_of_children (by simp)]
    simp [children]
  · rintro schema k convert branches v hk hbranches - hconvert
    rw [writable_of_children (by rintro notes values rfl; cases hk), hk.children]
    intro t ht
    obtain ⟨b, -, hb⟩ := hbranches.exists_right ht
    exact hb hconvert
  · rintro notes values path _ c hc rfl
    rw [writable_enum]
    obtain ⟨-, v, -, hwire⟩ := compileEnum_ok.1 hc
    cases htexts : texts? values with
    | some texts => exact texts_isJson htexts
    | none =>
      rw [htexts] at hwire
      obtain ⟨wire, hwire, -⟩ := hwire
      exact wireTexts_ok.1 ⟨wire, hwire⟩
  · rintro notes fields path convert c - -
    rw [writable_of_children (by simp)]
    simp [children]
  · rintro notes items path _ style item array c hconvert - - - - rfl
    cases hconvert
  · rintro notes properties required extra path fields compiled c - - - - ⟨⟩

end Schema

end ApiContract
