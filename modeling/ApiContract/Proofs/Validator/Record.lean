import ApiContract.Proofs.Schema.Positions
import ApiContract.Proofs.Validator.Within
import ApiContract.Proofs.Value.Finite
import ApiContract.Validator.Record

/-!
# Validators are read back from their records

A validator is read back from the record that it is written as, whatever kinds of validators are nested
in it, as long as the values that it carries are JSON values with finite numbers:
`ofValue?_toValue`. So no two such validators have the same record.
-/

namespace ApiContract

/-! ## Names -/

namespace PrimitiveType

@[simp] theorem ofName?_name (t : PrimitiveType) : ofName? t.name = some t := by cases t <;> rfl

end PrimitiveType

namespace StringCheck

@[simp] theorem ofName?_name (c : StringCheck) : ofName? c.name = some c := by cases c <;> rfl

end StringCheck

namespace BinaryForm

@[simp] theorem ofName?_name (f : BinaryForm) : ofName? f.name = some f := by cases f <;> rfl

end BinaryForm

namespace ExtraPolicy

@[simp] theorem ofName?_name (p : ExtraPolicy) : ofName? p.name = some p := by cases p <;> rfl

end ExtraPolicy

namespace TransformDirection

@[simp] theorem ofName?_name (d : TransformDirection) : ofName? d.name = some d := by cases d <;> rfl

end TransformDirection

namespace TransformKind

@[simp] theorem ofName?_name (k : TransformKind) : ofName? k.name = some k := by cases k <;> rfl

end TransformKind

/-- The value at a key of a mapping is the one that its entries hold. -/
theorem Value.get?_object (key : String) (fields : List (String × Value)) :
    (Value.object fields).get? key = fields.lookup key := by
  show Value.find? key (fields.map fun e => (.text e.1, e.2)) = fields.lookup key
  induction fields with
  | nil => rfl
  | cons e rest ih =>
    obtain ⟨k, v⟩ := e
    rw [List.map_cons, Value.find?, List.lookup_cons, ih]
    by_cases h : k = key
    · simp [h]
    · simp [h, beq_false_of_ne (Ne.symm h)]

namespace Validator

/-- The value is a literal or a default somewhere in the validator. -/
def Carries (v : Validator) (value : Value) : Prop :=
  (literal value).Within v ∨ ∃ base, (default base value).Within v

variable {v w : Validator} {value : Value}

theorem carries_iff : v.Carries value ↔
    v = literal value ∨ (∃ base, v = default base value) ∨ ∃ w ∈ v.children, w.Carries value := by
  unfold Carries
  simp only [within_iff (w := v), eq_comm (b := v)]
  grind

theorem Carries.of_child (hw : w ∈ v.children) (h : w.Carries value) : v.Carries value :=
  h.imp (.child hw) fun ⟨base, hbase⟩ => ⟨base, .child hw hbase⟩

/-! ## Written fields -/

theorem toValues_eq_map (vs : List Validator) : toValues vs = vs.map toValue := by
  induction vs with
  | nil => rfl
  | cons v rest ih => rw [toValues, ih, List.map_cons]

theorem fieldsToValues_eq_map (fields : List (String × Validator)) :
    fieldsToValues fields = fields.map fun field => (field.1, field.2.toValue) := by
  induction fields with
  | nil => rfl
  | cons field rest ih => rw [fieldsToValues, ih, List.map_cons]

@[simp] theorem get?_tagged (kind key : String) (fields : List (String × Value)) :
    (tagged kind fields).get? key = (("kind", .text kind) :: fields).lookup key :=
  Value.get?_object key _

/-! ## Read fields -/

variable {record : Value} {key : String}

/-- A field that may be absent is read back if what is there is, and is not written as null. -/
theorem optionalAt?_of_get? {α : Type} {f : Value → Option α} {g : α → Value} {x : Option α}
    (hget : record.get? key = some ((x.map g).getD .null)) (hread : ∀ a ∈ x, f (g a) = some a)
    (hnull : ∀ a ∈ x, g a ≠ .null) : optionalAt? f key record = some x := by
  cases x with
  | none => simp [optionalAt?, hget]
  | some a =>
    have hwritten : record.get? key = some (g a) := hget
    have hne : g a ≠ .null := hnull a rfl
    unfold optionalAt?
    rw [hwritten]
    split
    next heq => cases heq
    next heq => exact absurd (Option.some.inj heq) hne
    next heq =>
      cases heq
      rw [hread a rfl, Option.map_some]

theorem optionalAt?_ofText? {x : Option String} (h : record.get? key = some (.ofText? x)) :
    optionalAt? readText? key record = some x :=
  optionalAt?_of_get? h (fun _ _ => rfl) nofun

theorem optionalAt?_ofInt? {x : Option Int} (h : record.get? key = some (.ofInt? x)) :
    optionalAt? readInt? key record = some x :=
  optionalAt?_of_get? h (fun _ _ => rfl) nofun

theorem optionalAt?_toValue? {x : Option Bound} (h : record.get? key = some (Bound.toValue? x)) :
    optionalAt? readBound? key record = some x := by
  refine optionalAt?_of_get? h ?_ ?_
  · rintro (i | x) _ <;> rfl
  · rintro (i | x) _ <;> exact nofun

theorem readPrimitive?_primitiveToValue (p : Primitive) :
    readPrimitive? (primitiveToValue p) = some p := by
  have htype : textAt? "type" (primitiveToValue p) = some p.type.name := by
    simp [textAt?, primitiveToValue, List.lookup_cons]
  have hcheck : optionalAt? (fun s => readText? s >>= StringCheck.ofName?) "check"
      (primitiveToValue p) = some p.check := by
    refine optionalAt?_of_get? (g := fun c => .text c.name) ?_ (by simp [readText?]) nofun
    simp [primitiveToValue, List.lookup_cons, Value.ofText?, Function.comp_def]
  have hminLength : optionalAt? readInt? "min_length" (primitiveToValue p) = some p.minLength :=
    optionalAt?_ofInt? (by simp [primitiveToValue, List.lookup_cons])
  have hmaxLength : optionalAt? readInt? "max_length" (primitiveToValue p) = some p.maxLength :=
    optionalAt?_ofInt? (by simp [primitiveToValue, List.lookup_cons])
  have hpattern : optionalAt? readText? "pattern" (primitiveToValue p) = some p.pattern :=
    optionalAt?_ofText? (by simp [primitiveToValue, List.lookup_cons])
  have hminimum : optionalAt? readBound? "minimum" (primitiveToValue p) = some p.minimum :=
    optionalAt?_toValue? (by simp [primitiveToValue, List.lookup_cons])
  have hmaximum : optionalAt? readBound? "maximum" (primitiveToValue p) = some p.maximum :=
    optionalAt?_toValue? (by simp [primitiveToValue, List.lookup_cons])
  simp only [readPrimitive?, htype, hcheck, hminLength, hmaxLength, hpattern, hminimum, hmaximum]
  simp

/-- Items that are each read as they are make the list itself. -/
theorem mapM_eq_some_self {α : Type} {f : α → Option α} {xs : List α} (h : ∀ x ∈ xs, f x = some x) :
    xs.mapM f = some xs := by
  induction xs with
  | nil => rfl
  | cons x rest ih =>
    rw [List.forall_mem_cons] at h
    simp [h.1, ih h.2]

theorem targetToValue_eq (target : Option Validator) :
    targetToValue target = (target.map toValue).getD .null := by
  cases target <;> rfl

/-- A validator is written as a mapping. -/
theorem exists_tagged (v : Validator) : ∃ kind fields, v.toValue = tagged kind fields := by
  cases v <;> exact ⟨_, _, rfl⟩

theorem toValue_ne_null (v : Validator) : v.toValue ≠ .null := by
  obtain ⟨kind, fields, h⟩ := exists_tagged v
  rw [h]
  exact nofun

/-! ## Depth -/

theorem depth_field_lt {kind key : String} {fields : List (String × Value)} {u : Value}
    (h : (key, u) ∈ fields) : u.depth < (tagged kind fields).depth := by
  have hentry : (Scalar.text key, u) ∈
      ((("kind", .text kind) :: fields).map fun e => (Scalar.text e.1, e.2)) :=
    List.mem_map_of_mem (f := fun e => (Scalar.text e.1, e.2)) (List.mem_cons_of_mem _ h)
  exact Value.depth_entry_lt hentry

/-- The record of a validator is deeper than those of its parts. -/
theorem depth_toValue_lt (h : w ∈ v.children) : w.toValue.depth < v.toValue.depth := by
  cases v with
  | primitive _ | literal _ | enum _ | never | binary _ | noContent | ref _ => cases h
  | union variants discriminator =>
    rw [toValue, toValues_eq_map]
    exact Nat.lt_trans (Value.depth_item_lt (List.mem_map_of_mem h)) (depth_field_lt (.head _))
  | intersection parts =>
    rw [toValue, toValues_eq_map]
    exact Nat.lt_trans (Value.depth_item_lt (List.mem_map_of_mem h)) (depth_field_lt (.head _))
  | object fields extra =>
    obtain ⟨field, hfield, rfl⟩ := List.mem_map.1 h
    have hentry : (Scalar.text field.1, field.2.toValue) ∈
        (fieldsToValues fields).map fun e => (Scalar.text e.1, e.2) := by
      rw [fieldsToValues_eq_map, List.map_map]
      exact List.mem_map_of_mem hfield
    exact Nat.lt_trans (Value.depth_entry_lt hentry) (depth_field_lt (.head _))
  | transform base direction kind delimiter target =>
    rcases List.mem_cons.1 h with rfl | h
    · exact depth_field_lt (.head _)
    · obtain rfl := Option.mem_toList.1 h
      have htarget : ("target", w.toValue) ∈ [("base", base.toValue), ("direction", .text direction.name),
          ("transform", .text kind.name), ("delimiter", .ofText? delimiter),
          ("target", targetToValue (some w))] := by simp [targetToValue]
      exact depth_field_lt htarget
  | array _ | record _ | optional _ | nullable _ | default _ _ =>
    obtain rfl := List.mem_singleton.1 h
    exact depth_field_lt (.head _)

/-- Fields are read back from their records if each of them is. -/
theorem mapM_fieldRecords {fields : List (String × Validator)}
    {read : Scalar × Value → Option (String × Validator)}
    (h : ∀ field ∈ fields, read (.text field.1, field.2.toValue) = some field) :
    (fields.map fun field => (Scalar.text field.1, field.2.toValue)).mapM read = some fields := by
  rw [List.mapM_map]
  exact mapM_eq_some_self h

/-- A validator is read back from its record if the levels reach to its bottom. -/
theorem ofValueWithin?_toValue (hv : ∀ value, v.Carries value → value.Finite) {levels : Nat}
    (hlevels : v.toValue.depth ≤ levels) : ofValueWithin? levels v.toValue = some v := by
  induction v using Validator.induction generalizing levels with
  | step v ih =>
    cases levels with
    | zero =>
      obtain ⟨kind, fields, h⟩ := exists_tagged v
      rw [h] at hlevels
      cases hlevels
    | succ levels =>
      have hread : ∀ w ∈ v.children, ofValueWithin? levels w.toValue = some w := by
        intro w hw
        have hlt := depth_toValue_lt hw
        exact ih w hw (fun value h => hv value (h.of_child hw)) (by omega)
      cases v with
      | primitive p =>
        have hkind : textAt? "kind" (primitiveToValue p) = some "primitive" := by
          simp [primitiveToValue, textAt?]
        simp [ofValueWithin?, toValue, hkind, readPrimitive?_primitiveToValue]
      | literal value =>
        have hplain : value.plain = value := Value.plain_of_finite (hv value (.inl .self))
        simp [ofValueWithin?, toValue, hplain, List.lookup_cons, textAt?]
      | enum values =>
        have hvalues : values.mapM (readText? ∘ Value.text) = some values :=
          mapM_eq_some_self fun _ _ => rfl
        simp [ofValueWithin?, toValue, hvalues, List.lookup_cons, textAt?, itemsAt?]
      | never | binary _ | noContent | ref _ =>
        simp [ofValueWithin?, toValue, List.lookup_cons, textAt?]
      | union variants discriminator =>
        have hvariants : variants.mapM (ofValueWithin? levels ∘ toValue) = some variants :=
          mapM_eq_some_self hread
        have hdiscriminator : optionalAt? readText? "discriminator" (tagged "union"
            [("variants", .list (variants.map toValue)), ("discriminator", .ofText? discriminator)]) =
              some discriminator :=
          optionalAt?_ofText? (by simp [List.lookup_cons])
        simp [ofValueWithin?, toValue, toValues_eq_map, hvariants, hdiscriminator, List.lookup_cons,
          textAt?, itemsAt?]
      | intersection parts =>
        have hparts : parts.mapM (ofValueWithin? levels ∘ toValue) = some parts :=
          mapM_eq_some_self hread
        simp [ofValueWithin?, toValue, toValues_eq_map, hparts, List.lookup_cons, textAt?, itemsAt?]
      | array item =>
        have hitem := hread item (List.mem_singleton_self item)
        simp [ofValueWithin?, toValue, hitem, List.lookup_cons, textAt?]
      | object fields extra =>
        have hextra : optionalAt? (fun s => readText? s >>= ExtraPolicy.ofName?)
            "additional_properties" (toValue (.object fields extra)) = some (some extra) := by
          refine optionalAt?_of_get? (g := fun p => .text p.name) ?_ (by simp [readText?]) ?_
          · simp [toValue, List.lookup_cons]
          · intro p _ hnull
            cases hnull
        have hkind : textAt? "kind" (toValue (.object fields extra)) = some "object" := by
          simp [toValue, textAt?]
        have hentries : (((toValue (.object fields extra)).get? "fields").getD (.map [])).entries? =
            some (fields.map fun field => (Scalar.text field.1, field.2.toValue)) := by
          simp [toValue, List.lookup_cons, Value.object, Value.entries?, fieldsToValues_eq_map]
        simp only [Option.bind_eq_bind] at hextra
        simp only [ofValueWithin?, Option.bind_eq_bind, hkind, Option.bind_some, hentries,
          Option.getD_some, hextra]
        rw [mapM_fieldRecords]
        · rfl
        · intro field hfield
          have hvalue := hread field.2 (List.mem_map_of_mem hfield)
          simp [readText?, hvalue]
      | record value =>
        have hvalue := hread value (List.mem_singleton_self value)
        simp [ofValueWithin?, toValue, hvalue, List.lookup_cons, textAt?]
      | transform base direction kind delimiter target =>
        have hbase := hread base List.mem_cons_self
        have hdelimiter : optionalAt? readText? "delimiter"
            (toValue (.transform base direction kind delimiter target)) = some delimiter :=
          optionalAt?_ofText? (by simp [toValue, List.lookup_cons])
        have htarget : optionalAt? (ofValueWithin? levels) "target"
            (toValue (.transform base direction kind delimiter target)) = some target := by
          refine optionalAt?_of_get? (g := toValue) ?_ ?_ fun w _ => toValue_ne_null w
          · simp [toValue, List.lookup_cons, targetToValue_eq]
          · exact fun w hw => hread w (List.mem_cons_of_mem _ (Option.mem_toList.2 hw))
        simp only [toValue] at hdelimiter htarget
        simp [ofValueWithin?, toValue, hbase, hdelimiter, htarget, List.lookup_cons, textAt?]
      | optional base | nullable base =>
        have hbase := hread base (List.mem_singleton_self base)
        simp [ofValueWithin?, toValue, hbase, List.lookup_cons, textAt?]
      | default base value =>
        have hbase := hread base (List.mem_singleton_self base)
        have hplain : value.plain = value := Value.plain_of_finite (hv value (.inr ⟨base, .self⟩))
        simp [ofValueWithin?, toValue, hbase, hplain, List.lookup_cons, textAt?]

/-- A validator whose literals and defaults are JSON values with finite numbers is read back from its
record, and no other such validator has the same record. -/
theorem ofValue?_toValue (hv : ∀ value, v.Carries value → value.Finite) :
    ofValue? v.toValue = some v ∧
      ∀ w : Validator, (∀ value, w.Carries value → value.Finite) → w.toValue = v.toValue → w = v := by
  have hread {u : Validator} (hu : ∀ value, u.Carries value → value.Finite) :
      ofValue? u.toValue = some u := ofValueWithin?_toValue hu (Nat.le_refl _)
  refine ⟨hread hv, fun w hw heq => ?_⟩
  have hsame : some w = some v := by rw [← hread hw, ← hread hv, heq]
  exact Option.some.inj hsame

@[simp] theorem not_carries_primitive {p : Primitive} : ¬ (primitive p).Carries value := by
  rw [carries_iff]
  simp [children]

@[simp] theorem not_carries_ref {name : String} : ¬ (ref name).Carries value := by
  rw [carries_iff]
  simp [children]

@[simp] theorem carries_literal {other : Value} : (literal other).Carries value ↔ value = other := by
  rw [carries_iff]
  simp [children, eq_comm]

@[simp] theorem carries_default {base : Validator} {other : Value} :
    (default base other).Carries value ↔ value = other ∨ base.Carries value := by
  rw [carries_iff]
  simp [children, eq_comm]

@[simp] theorem carries_union {variants : List Validator} {discriminator : Option String} :
    (union variants discriminator).Carries value ↔ ∃ v ∈ variants, v.Carries value := by
  rw [carries_iff]
  simp [children]

@[simp] theorem carries_object {fields : List (String × Validator)} {extra : ExtraPolicy} :
    (object fields extra).Carries value ↔ ∃ field ∈ fields, field.2.Carries value := by
  rw [carries_iff]
  simp only [reduceCtorEq, exists_const, false_or, children, List.mem_map, exists_exists_and_eq_and]

@[simp] theorem carries_transform {base : Validator} {direction : TransformDirection}
    {kind : TransformKind} {delimiter : Option String} {target : Option Validator} :
    (transform base direction kind delimiter target).Carries value ↔
      base.Carries value ∨ ∃ v ∈ target, v.Carries value := by
  rw [carries_iff]
  simp [children]

/-- A book on a shelf. The default is a mapping that looks like a record, and the bounds are an integer
and a double. -/
def book : Validator :=
  .object [
    ("shelf", .default (.union [.ref "Shelf", .literal .null] (some "kind"))
      (.object [("kind", .text "never"), ("value", .list [.int 1])])),
    ("pages", .transform (.type .string) .parse .integer none (some (.primitive {
      type := .integer, minimum := some (.int 0), maximum := some (.float (.zero false)) })))] .typed

/-- What a book carries is a null and the default of its shelf. -/
theorem ofValue?_toValue_book :
    (∀ value, book.Carries value → value.Finite) ∧ ofValue? book.toValue = some book := by
  have hfinite : ∀ value, book.Carries value → value.Finite := by
    simp [book, Validator.type, Scalar.Finite]
    exact .object (by simp) (by simp [Scalar.Finite])
  exact ⟨hfinite, (ofValue?_toValue hfinite).1⟩

end Validator

end ApiContract
