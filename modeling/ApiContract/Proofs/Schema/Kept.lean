import ApiContract.Proofs.Schema.Leaves
import ApiContract.Proofs.Validator.Transforms

/-!
# What the passages of a schema keep

A side of an exchange adds transforms in one direction only, that of its crossing, and it does so in
four ways: a scalar or an enum passes the boundary to strings, a date does, the items of an array are
joined, and in a handler a date stays native. Everything else that a schema compiles to is made of its
parts. So a property that goes by parts elsewhere, and that these four keep (`Crossing.Keeps`), is had by
whatever compiles on this side: `keeps_compile`.
-/

namespace ApiContract

/-- The way in which values of a crossing pass the boundary to strings. -/
def Crossing.direction? : Crossing → Option Direction
  | .parse => some .fromString
  | .stringify => some .toString
  | .handler | .request => none

/-- Parameters pass the boundary to strings in the direction in which the values of their side cross. -/
theorem Side.direction_of (mode : Mode) (use : Use) :
    (Side.of mode use).direction = (Side.of mode use).crossing.direction? := by
  cases mode <;> cases use <;> rfl

open Validator in
/-- The property goes by parts, and what is added to pass the boundary to strings keeps it. -/
structure Crossing.Keeps (crossing : Crossing) (Q : Validator → Prop) : Prop where
  parts : ∀ v, v.IsOrdinary → (Q v ↔ ∀ w ∈ v.children, Q w)
  native : crossing = .handler → ∀ isDate, Q (Schema.nativeDate isDate)
  passage : ∀ typed wire kind direction, crossing.direction? = some direction → kind ≠ .join →
    wire.IsOrdinary → wire.children = [] → Q typed →
    Q (Schema.convertScalar typed wire kind direction)
  date : ∀ notes wire isDate direction, crossing.direction? = some direction → wire.IsOrdinary →
    wire.children = [] →
    Q (Schema.convertScalar (Annotations.wrap notes (Schema.nativeDate isDate)) wire
      (Schema.dateKind isDate) direction)
  join : ∀ v delimiter, crossing.direction? = some .toString → Q v →
    Q (.transform v .stringify .join (some delimiter) none)

namespace Crossing.Keeps

variable {crossing : Crossing} {Q : Validator → Prop} (hQ : crossing.Keeps Q) {v : Validator}

include hQ

theorem leaf (h : v.IsOrdinary) (hleaf : v.children = []) : Q v := by
  rw [hQ.parts v h, hleaf]
  simp

theorem union {variants : List Validator} {discriminator : Option String} :
    Q (.union variants discriminator) ↔ ∀ w ∈ variants, Q w := hQ.parts _ trivial

theorem intersection {parts : List Validator} : Q (.intersection parts) ↔ ∀ w ∈ parts, Q w :=
  hQ.parts _ trivial

theorem array : Q (.array v) ↔ Q v := by
  rw [hQ.parts (.array v) trivial]
  simp [Validator.children]

theorem object {fields : List (String × Validator)} {extra : ExtraPolicy} :
    Q (.object fields extra) ↔ ∀ f ∈ fields, Q f.2 := by
  rw [hQ.parts (.object fields extra) trivial]
  exact List.forall_mem_map

theorem record : Q (.record v) ↔ Q v := by
  rw [hQ.parts (.record v) trivial]
  simp [Validator.children]

theorem optional : Q (.optional v) ↔ Q v := by
  rw [hQ.parts (.optional v) trivial]
  simp [Validator.children]

theorem nullable : Q (.nullable v) ↔ Q v := by
  rw [hQ.parts (.nullable v) trivial]
  simp [Validator.children]

theorem default {value : Value} : Q (.default v value) ↔ Q v := by
  rw [hQ.parts (.default v value) trivial]
  simp [Validator.children]

theorem wrap {notes : Annotations} : Q (notes.wrap v) ↔ Q v :=
  Annotations.wrap_iff (fun _ => hQ.nullable) fun _ _ => hQ.default

theorem of_unionOf? {variants : List Validator} (hv : Validator.unionOf? variants = some v) :
    Q v ↔ ∀ w ∈ variants, Q w :=
  Validator.forall_of_unionOf? hv fun _ => hQ.union

theorem of_intersectionOf? {parts : List Validator}
    (hv : Validator.intersectionOf? parts = some v) : Q v ↔ ∀ w ∈ parts, Q w :=
  Validator.iff_of_intersectionOf? hv fun _ => hQ.intersection

end Crossing.Keeps

namespace Schema

open Outcome

/-- Where no conversion is asked for, a date passes the boundary as the values of its side cross. -/
theorem dateDirection_none (s : Setting) : dateDirection s none = s.crossing.direction? := by
  unfold dateDirection
  cases s.crossing <;> rfl

variable {crossing : Crossing} {Q : Validator → Prop} (hQ : crossing.Keeps Q) {s : Setting}
  {convert : Option Conversion} {path : String} {notes : Annotations} {c : Compiled}

include hQ

theorem Composes.keeps {schema : Schema} {k : Combination} (h : schema.Composes k)
    {variants : List Validator} {v : Validator} (hv : k.combine variants = some v) :
    Q v ↔ ∀ w ∈ variants, Q w := by
  cases h with
  | oneOf => exact forall_of_alternatives hv fun _ => hQ.union
  | anyOf => exact hQ.of_unionOf? hv
  | allOf => exact hQ.of_intersectionOf? hv

theorem keeps_objectValidator {fields : List (String × Validator)} {hasProperties : Bool}
    {extra : ExtraKeys Validator} (hfields : ∀ f ∈ fields, Q f.2)
    (hextra : ∀ v ∈ extra.schema?, Q v) : Q (objectValidator fields hasProperties extra) := by
  cases extra with
  | unstated => exact hQ.object.2 hfields
  | allowed allow => exact hQ.object.2 hfields
  | typed v =>
    refine hQ.intersection.2 ?_
    simp only [List.forall_mem_cons, List.not_mem_nil, false_imp_iff, implies_true, and_true]
    exact ⟨hQ.object.2 hfields, hQ.record.2 (hextra v rfl)⟩

theorem keeps_requireValue {required : Bool} {c' : Compiled} (hc : Q c.validator)
    (h : requireValue required path c = .ok c') : Q c'.validator := by
  obtain ⟨-, rfl⟩ := requireValue_ok.1 h
  split
  · exact hc
  · exact hQ.optional.2 hc

theorem keeps_finishArray {item : Compiled} (hitem : Q item.validator)
    (h : finishArray notes path item = .ok c) : Q c.validator := by
  obtain ⟨-, rfl⟩ := finishArray_ok.1 h
  exact hQ.wrap.2 (hQ.array.2 hitem)

/-! ## Leaves -/

theorem keeps_enumValidator (values : List Value) : Q (enumValidator values) := by
  unfold enumValidator
  split
  next => exact hQ.leaf trivial rfl
  next => exact hQ.leaf trivial rfl
  next => exact hQ.leaf trivial rfl
  next =>
    refine hQ.union.2 fun w hw => ?_
    obtain ⟨value, -, rfl⟩ := List.mem_map.1 hw
    exact hQ.leaf trivial rfl

theorem keeps_enum {values : List Value}
    (hconvert : ∀ x ∈ convert, crossing.direction? = some x.direction)
    (h : compileEnum notes values path convert = .ok c) : Q c.validator := by
  obtain ⟨-, v, rfl, hv⟩ := compileEnum_ok.1 h
  have hbase : Q (notes.wrap (enumValidator values)) := hQ.wrap.2 (keeps_enumValidator hQ values)
  split at hv
  next =>
    obtain ⟨wire, -, rfl⟩ := hv
    exact hQ.passage _ (.enum wire) _ _ (hconvert _ rfl) nofun trivial rfl hbase
  next =>
    subst hv
    exact hQ.passage _ .never _ _ (hconvert _ rfl) nofun trivial rfl hbase
  next => exact hv ▸ hbase

theorem keeps_pass {base wire : Validator} {kind : TransformKind}
    (hconvert : ∀ x ∈ convert, crossing.direction? = some x.direction) (hkind : kind ≠ .join)
    (hwire : wire.IsOrdinary) (hleaf : wire.children = []) (hbase : Q base) :
    Q (pass base wire kind (convert.map (·.direction))) := by
  cases convert with
  | none => exact hbase
  | some x => exact hQ.passage _ _ _ _ (hconvert x rfl) hkind hwire hleaf hbase

theorem keeps_scalar {fields : ScalarSchema} (hs : s.crossing = crossing)
    (hconvert : ∀ x ∈ convert, crossing.direction? = some x.direction)
    (h : (compileScalar s notes fields path convert).result = .ok c) : Q c.validator := by
  cases compileScalar_result h with
  | null => exact hQ.wrap.2 (hQ.leaf rfl rfl)
  | typed ht =>
    cases ht with
    | boolean => exact keeps_pass hQ hconvert nofun trivial rfl (hQ.wrap.2 (hQ.leaf rfl rfl))
    | integer => exact keeps_pass hQ hconvert nofun rfl rfl (hQ.wrap.2 (hQ.leaf rfl rfl))
    | number => exact keeps_pass hQ hconvert nofun rfl rfl (hQ.wrap.2 (hQ.leaf rfl rfl))
  | binary =>
    refine hQ.wrap.2 ?_
    have hform : ∀ form, Q (.binary form) := fun form => hQ.leaf trivial rfl
    cases s.use <;> simp [binaryBase, hQ.union, hform]
  | date isDate =>
    dsimp only
    split
    next =>
      refine hQ.wrap.2 ?_
      split
      next hhandler => exact hQ.native (hs ▸ hhandler) isDate
      next => exact hQ.leaf rfl rfl
    next direction hdirection =>
      refine hQ.date _ _ _ _ ?_ rfl rfl
      cases convert with
      | some x => exact (hconvert x rfl).trans hdirection
      | none => rwa [← hs, ← dateDirection_none]
  | plain => exact hQ.wrap.2 (hQ.leaf rfl rfl)

/-! ## The whole compilation -/

/-- What a schema compiles to in the passage of its side. -/
theorem keeps_compile {style : ArrayStyle} (schema : Schema) (hs : s.crossing = crossing)
    (hconvert : ∀ x ∈ convert, crossing.direction? = some x.direction)
    (h : (compile s convert style path schema).result = .ok c) : Q c.validator := by
  refine compile_induction
    (P := fun _ convert c => (∀ x ∈ convert, crossing.direction? = some x.direction) → Q c.validator)
    ?_ ?_ ?_ ?_ ?_ ?_ schema h hconvert
  · intro notes target key v convert _ _ _
    exact hQ.leaf trivial rfl
  · intro schema k convert branches v hk hbranches hv hconvert
    refine hQ.wrap.2 ((hk.keeps hQ hv).2 ?_)
    rw [List.forall_mem_map]
    intro b hb
    obtain ⟨t, -, hb⟩ := hbranches.exists_left hb
    exact hb hconvert
  · intro notes values path convert c hc hconvert
    exact keeps_enum hQ hconvert hc
  · intro notes fields path convert c hc hconvert
    exact keeps_scalar hQ hs hconvert hc
  · intro notes items path convert style item array c hparse hitem _ harray hc hconvert
    have harray : Q array.validator := keeps_finishArray hQ (hitem hconvert) harray
    rw [joinArray_ok] at hc
    split at hc
    next hjoined =>
      obtain ⟨delimiter, -, rfl⟩ := hc
      cases convert with
      | none => cases hjoined
      | some x =>
        obtain ⟨_ | _, location⟩ := x
        · cases hparse
        · exact hQ.join _ _ (hconvert _ rfl) harray
    next => exact hc ▸ harray
  · intro notes properties required extra path fields compiled c _ hfields hextra hc _
    obtain ⟨-, rfl⟩ := finishObject_ok.1 hc
    refine hQ.wrap.2 (keeps_objectValidator hQ ?_ ?_)
    · rw [List.forall_mem_map]
      intro f hf
      obtain ⟨p, -, hf⟩ := hfields.exists_left hf
      cases hf with
      | intro compiled needed => exact keeps_requireValue hQ (compiled nofun) needed
    · cases hextra with
      | unstated => nofun
      | allowed allow => nofun
      | typed compiled =>
        rintro _ ⟨⟩
        exact compiled nofun

theorem keeps_compileValue {style : ArrayStyle} {schema : Schema} {required : Bool}
    (hs : s.crossing = crossing)
    (hconvert : ∀ x ∈ convert, crossing.direction? = some x.direction)
    (h : (schema.compileValue s required path convert style).result = .ok c) : Q c.validator := by
  simp only [compileValue, Reported.result_bind, Reported.result_lift, bind_eq_ok] at h
  obtain ⟨c', hc', h⟩ := h
  exact keeps_requireValue hQ (keeps_compile hQ schema hs hconvert hc') h

theorem keeps_compileRepeated {schema : Schema} {required : Bool} (hs : s.crossing = crossing)
    (hconvert : ∀ x ∈ convert, crossing.direction? = some x.direction)
    (h : (schema.compileRepeated s required path convert).result = .ok c) : Q c.validator := by
  unfold compileRepeated at h
  split at h
  next notes items =>
    simp only [Reported.result_bind, Reported.result_lift, bind_eq_ok] at h
    obtain ⟨item, hitem, array, harray, h⟩ := h
    have hitem := keeps_compileValue hQ hs hconvert hitem
    exact keeps_requireValue hQ (keeps_finishArray hQ hitem harray) h
  next => cases h

end Schema

end ApiContract
