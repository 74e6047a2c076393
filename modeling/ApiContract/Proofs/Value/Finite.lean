import ApiContract.Proofs.Value.Proper
import ApiContract.Value.Plain

/-!
# JSON values with finite numbers

A value is `Finite` if it is made of what JSON has and its numbers are finite. Such a value is plain
already, so that it stands in compiled output as it is: `plain_of_finite`.
-/

namespace ApiContract

/-- What JSON has as a scalar, where a number is an integer or a finite double. -/
def Scalar.Finite : Scalar → Prop
  | .null | .bool _ | .int _ | .text _ => True
  | .float (.finite _ mantissa exponent) => Number.Binary64.IsCanonical mantissa exponent
  | .float _ | .date _ | .timestamp _ | .bytes _ => False

/-- A JSON value with finite numbers. A mapping has texts as keys and holds each of them once. -/
inductive Value.Finite : Value → Prop where
  | scalar {s : Scalar} (finite : s.Finite) : Finite (.scalar s)
  | list {items : List Value} (items_finite : ∀ v ∈ items, v.Finite) : Finite (.list items)
  | object {fields : List (String × Value)} (keys : (fields.map (·.1)).Nodup)
    (values : ∀ e ∈ fields, e.2.Finite) : Finite (.object fields)

namespace Value

variable {v : Value} {s : Scalar}

@[simp] theorem finite_scalar : (Value.scalar s).Finite ↔ s.Finite := ⟨fun | .scalar h => h, .scalar⟩

@[simp] theorem finite_list {items : List Value} : (Value.list items).Finite ↔ ∀ v ∈ items, v.Finite :=
  ⟨fun | .list h => h, .list⟩

end Value

/-- A key that is not there yet is added at the end. -/
theorem insertEntry_of_notMem {κ ν : Type} [BEq κ] [LawfulBEq κ] {key : κ} {value : ν}
    {entries : List (κ × ν)} (h : key ∉ entries.map (·.1)) :
    insertEntry key value entries = entries ++ [(key, value)] := by
  unfold insertEntry
  induction entries with
  | nil => rfl
  | cons e rest ih =>
    rw [List.map_cons, List.mem_cons, not_or] at h
    have hne : (e.1 == key) = false := beq_eq_false_iff_ne.2 (Ne.symm h.1)
    simp only [insertBy, hne, Bool.false_eq_true, ↓reduceIte, ih h.2, List.cons_append]

namespace Value

variable {v : Value} {s : Scalar}

theorem plain_scalar_of_finite (h : s.Finite) : s.plain = s := by
  cases s with
  | null | bool _ | int _ | text _ => rfl
  | float x =>
    cases x with
    | finite => rfl
    | nan | infinite => cases h
  | date _ | timestamp _ | bytes _ => cases h

theorem plainItems_of_plain {items : List Value} (h : ∀ v ∈ items, v.plain = v) :
    plainItems items = items := by
  induction items with
  | nil => rfl
  | cons v rest ih =>
    rw [List.forall_mem_cons] at h
    rw [plainItems, h.1, ih h.2]

/-- Entries under texts that are all different stay as they are, behind those already there. -/
theorem plainEntries_of_plain {before entries : List (Scalar × Value)}
    (hkeys : ((before ++ entries).map (·.1)).Nodup) (htexts : ∀ e ∈ entries, ∃ name, e.1 = .text name)
    (h : ∀ e ∈ entries, e.2.plain = e.2) : plainEntries before entries = before ++ entries := by
  induction entries generalizing before with
  | nil => simp [plainEntries]
  | cons e rest ih =>
    obtain ⟨key, v⟩ := e
    rw [List.forall_mem_cons] at htexts h
    obtain ⟨name, rfl⟩ : ∃ name, key = .text name := htexts.1
    have hnew : Scalar.text name ∉ before.map (·.1) := by
      rw [List.map_append, List.nodup_append] at hkeys
      exact fun hmem => hkeys.2.2 _ hmem _ List.mem_cons_self rfl
    have hmove : before ++ (.text name, v) :: rest = (before ++ [(.text name, v)]) ++ rest := by simp
    have hkey : (Scalar.text name).plainKey = name := rfl
    rw [hmove] at hkeys
    rw [plainEntries, hkey, show v.plain = v from h.1, insertEntry_of_notMem hnew,
      ih hkeys htexts.2 h.2, hmove]

theorem Finite.proper (h : v.Finite) : v.Proper := by
  induction h with
  | scalar _ => exact proper_scalar
  | list _ ih => exact proper_list.2 ih
  | object keys _ ih => exact proper_object.2 ⟨keys, ih⟩

/-- A JSON value with finite numbers stands in compiled output as it is. -/
theorem plain_of_finite (h : v.Finite) : v.plain = v := by
  induction h with
  | scalar finite => rw [plain, plain_scalar_of_finite finite]
  | list _ ih => rw [plain, plainItems_of_plain ih]
  | @object fields keys values ih =>
    have hkeys := (proper_map.1 (Finite.object keys values).proper).1
    rw [object, plain, plainEntries_of_plain hkeys, List.nil_append]
    · exact List.forall_mem_map.2 fun e _ => ⟨e.1, rfl⟩
    · exact List.forall_mem_map.2 ih

end Value

end ApiContract
