import ApiContract.Proofs.Outcome
import Mathlib.Data.List.Nodup

/-!
# Proper values

A mapping holds each of its keys once. `Value.Proper` says so of a value at every depth; every document
is such a value, since a key that is written again replaces the entry that is there (`nodup_insertBy`).
-/

namespace ApiContract

/-- Every mapping in the value holds each of its keys once. -/
inductive Value.Proper : Value → Prop where
  | scalar (s : Scalar) : Proper (.scalar s)
  | list {items : List Value} (items_proper : ∀ v ∈ items, v.Proper) : Proper (.list items)
  | map {entries : List (Scalar × Value)} (keys : (entries.map (·.1)).Nodup)
    (values : ∀ e ∈ entries, e.2.Proper) : Proper (.map entries)
  | set (members : List Scalar) : Proper (.set members)
  | endless : Proper .endless

section Entries

variable {κ ν : Type} {same : κ → κ → Bool} {key : κ} {value : ν} {entries : List (κ × ν)}

theorem keys_insertBy :
    (insertBy same key value entries).map (·.1) =
      if entries.any (same ·.1 key) then entries.map (·.1) else entries.map (·.1) ++ [key] := by
  induction entries with
  | nil => rfl
  | cons e rest ih =>
    by_cases h : same e.1 key = true
    · simp [insertBy, h]
    · simp only [insertBy, h, Bool.false_eq_true, ↓reduceIte, List.map_cons, ih, List.any_cons,
        Bool.false_or]
      split <;> rfl

theorem nodup_insertBy (hsame : ∀ k, same k k = true) (h : (entries.map (·.1)).Nodup) :
    ((insertBy same key value entries).map (·.1)).Nodup := by
  rw [keys_insertBy]
  split
  next => exact h
  next hnew =>
    rw [List.nodup_append]
    refine ⟨h, List.nodup_singleton _, ?_⟩
    rintro k hk _ hlast rfl
    obtain ⟨e, he, rfl⟩ := List.mem_map.1 hk
    obtain rfl := List.mem_singleton.1 hlast
    exact hnew (List.any_eq_true.2 ⟨e, he, hsame _⟩)

/-- What is found in a list after an insertion was there before or is the new value. -/
theorem mem_insertBy {e : κ × ν} (h : e ∈ insertBy same key value entries) :
    e.2 = value ∨ e ∈ entries := by
  induction entries with
  | nil =>
    obtain rfl := List.mem_singleton.1 h
    exact .inl rfl
  | cons first rest ih =>
    by_cases hsame : same first.1 key = true
    · simp only [insertBy, hsame, ↓reduceIte, List.mem_cons] at h
      rcases h with rfl | h
      · exact .inl rfl
      · exact .inr (List.mem_cons_of_mem _ h)
    · simp only [insertBy, hsame, Bool.false_eq_true, ↓reduceIte, List.mem_cons] at h
      rcases h with rfl | h
      · exact .inr List.mem_cons_self
      · exact (ih h).imp_right (List.mem_cons_of_mem _)

end Entries

namespace Value

open Outcome

variable {v w : Value} {key : String} {entries : List (Scalar × Value)}

theorem isNull_iff : v.isNull = true ↔ v = .null := by
  unfold Value.isNull
  split
  next => simp
  next hne => simpa using hne

@[simp] theorem proper_scalar {s : Scalar} : (Value.scalar s).Proper := .scalar s

@[simp] theorem proper_list {items : List Value} :
    (Value.list items).Proper ↔ ∀ v ∈ items, v.Proper :=
  ⟨fun | .list h => h, .list⟩

@[simp] theorem proper_map :
    (Value.map entries).Proper ↔ (entries.map (·.1)).Nodup ∧ ∀ e ∈ entries, e.2.Proper :=
  ⟨fun | .map keys values => ⟨keys, values⟩, fun h => .map h.1 h.2⟩

@[simp] theorem proper_object {fields : List (String × Value)} :
    (Value.object fields).Proper ↔ (fields.map (·.1)).Nodup ∧ ∀ e ∈ fields, e.2.Proper := by
  have hkeys : (fields.map (·.1)).Nodup ↔ ((fields.map (·.1)).map Scalar.text).Nodup :=
    (List.nodup_map_iff fun _ _ h => Scalar.text.inj h).symm
  rw [hkeys, Value.object, proper_map, List.forall_mem_map, List.map_map, List.map_map]
  rfl

theorem mem_of_find? (h : find? key entries = some v) : (Scalar.text key, v) ∈ entries := by
  induction entries with
  | nil => cases h
  | cons e rest ih =>
    unfold find? at h
    split at h
    next hkey =>
      obtain rfl : e.2 = v := by simpa using h
      exact hkey ▸ List.mem_cons_self
    next => exact List.mem_cons_of_mem _ (ih h)

/-- In a mapping that holds each key once, every entry is found under its key. -/
theorem find?_of_mem (hkeys : (entries.map (·.1)).Nodup) (h : (Scalar.text key, v) ∈ entries) :
    find? key entries = some v := by
  induction entries with
  | nil => cases h
  | cons e rest ih =>
    obtain ⟨k, w⟩ := e
    rw [List.map_cons, List.nodup_cons] at hkeys
    unfold find?
    rcases List.mem_cons.1 h with heq | hmem
    · cases heq
      simp
    · have hne : k ≠ .text key := by
        rintro rfl
        exact hkeys.1 (List.mem_map.2 ⟨_, hmem, rfl⟩)
      rw [if_neg hne]
      exact ih hkeys.2 hmem

theorem find?_insertEntry {other : String} :
    find? key (insertEntry (.text other) v entries) =
      if other = key then some v else find? key entries := by
  unfold insertEntry
  induction entries with
  | nil => simp [insertBy, find?]
  | cons e rest ih =>
    obtain ⟨found, w⟩ := e
    by_cases hfound : found = .text other
    · simp only [insertBy, hfound, BEq.rfl, ↓reduceIte, find?, Scalar.text.injEq]
      split <;> rfl
    · simp only [insertBy, beq_iff_eq, hfound, ↓reduceIte, find?, ih]
      split
      next heq =>
        rw [if_neg]
        rintro rfl
        exact hfound heq
      next => rfl

theorem Proper.getOrNull (hv : v.Proper) (h : v.getOrNull key = .ok w) : w.Proper := by
  simp only [Value.getOrNull, bind_eq_ok, pure_eq_ok] at h
  obtain ⟨found, hfound, rfl⟩ := h
  cases hv with
  | map keys values =>
    obtain rfl : find? key _ = found := by simpa [Value.get] using hfound
    cases hfind : find? key _ with
    | none => exact .scalar .null
    | some v => exact values _ (mem_of_find? hfind)
  | scalar | list | set | endless => cases hfound

theorem Proper.entriesOrNone (hv : v.Proper) (h : v.entriesOrNone = .ok entries) :
    (entries.map (·.1)).Nodup ∧ ∀ e ∈ entries, e.2.Proper := by
  unfold Value.entriesOrNone at h
  split at h
  next =>
    obtain rfl : [] = entries := by simpa using h
    simp
  next =>
    cases hv with
    | map keys values =>
      obtain rfl : _ = entries := by simpa [Value.entries] using h
      exact ⟨keys, values⟩
    | scalar | list | set | endless => cases h

end Value

end ApiContract
