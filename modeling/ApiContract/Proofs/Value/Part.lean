import ApiContract.Pointer
import ApiContract.Proofs.Value.Proper

/-!
# Parts of values

Whatever a pointer finds in a document stands somewhere within it (`Part.find`), and what is asked of a
value at every depth holds of all of its parts: that it is proper, and that all of its keys are texts
(`Value.TextKeyed`), as they are in a document made of JSON values.
-/

namespace ApiContract

namespace Value

open Outcome

/-- The second value is the first one, or stands somewhere within it. -/
inductive Part (document : Value) : Value → Prop where
  | self : Part document document
  | item {items : List Value} {v : Value} (list : Part document (.list items)) (member : v ∈ items) :
    Part document v
  | entry {entries : List (Scalar × Value)} {e : Scalar × Value} (map : Part document (.map entries))
    (member : e ∈ entries) : Part document e.2

/-- Every mapping in the value has texts as keys. -/
inductive TextKeyed : Value → Prop where
  | scalar (s : Scalar) : TextKeyed (.scalar s)
  | list {items : List Value} (items_keyed : ∀ v ∈ items, v.TextKeyed) : TextKeyed (.list items)
  | map {entries : List (Scalar × Value)} (keys : ∀ e ∈ entries, ∃ key, e.1 = .text key)
    (values : ∀ e ∈ entries, e.2.TextKeyed) : TextKeyed (.map entries)
  | set (members : List Scalar) : TextKeyed (.set members)
  | endless : TextKeyed .endless

variable {document v w : Value} {key : String} {entries : List (Scalar × Value)}

@[simp] theorem textKeyed_scalar {s : Scalar} : (Value.scalar s).TextKeyed := .scalar s

@[simp] theorem textKeyed_list {items : List Value} :
    (Value.list items).TextKeyed ↔ ∀ v ∈ items, v.TextKeyed :=
  ⟨fun | .list h => h, .list⟩

@[simp] theorem textKeyed_object {fields : List (String × Value)} :
    (Value.object fields).TextKeyed ↔ ∀ e ∈ fields, e.2.TextKeyed := by
  unfold Value.object
  constructor
  · intro h
    cases h with
    | map keys values => exact fun e he => values _ (List.mem_map_of_mem he)
  · intro h
    exact .map (List.forall_mem_map.2 fun e _ => ⟨e.1, rfl⟩) (List.forall_mem_map.2 h)

theorem Part.trans (h : document.Part v) (hw : v.Part w) : document.Part w := by
  induction hw with
  | self => exact h
  | item _ member ih => exact ih.item member
  | entry _ member ih => exact ih.entry member

/-- A part of a list is the list itself or part of one of its items. -/
theorem part_list {items : List Value} :
    (Value.list items).Part w ↔ w = .list items ∨ ∃ v ∈ items, v.Part w := by
  constructor
  · intro h
    induction h with
    | self => exact .inl rfl
    | item _ member ih =>
      rcases ih with heq | ⟨v, hv, hpart⟩
      · cases heq
        exact .inr ⟨_, member, .self⟩
      · exact .inr ⟨v, hv, hpart.item member⟩
    | entry _ member ih =>
      rcases ih with heq | ⟨v, hv, hpart⟩
      · cases heq
      · exact .inr ⟨v, hv, hpart.entry member⟩
  · rintro (rfl | ⟨v, hv, hpart⟩)
    · exact .self
    · exact (Part.self.item hv).trans hpart

theorem part_scalar {s : Scalar} : (Value.scalar s).Part w ↔ w = .scalar s := by
  constructor
  · intro h
    induction h with
    | self => rfl
    | item _ _ ih => cases ih
    | entry _ _ ih => cases ih
  · rintro rfl
    exact .self

/-- A part of a mapping is the mapping itself or part of the value of one of its entries. -/
theorem part_map : (Value.map entries).Part w ↔ w = .map entries ∨ ∃ e ∈ entries, e.2.Part w := by
  constructor
  · intro h
    induction h with
    | self => exact .inl rfl
    | item _ member ih =>
      rcases ih with heq | ⟨e, he, hpart⟩
      · cases heq
      · exact .inr ⟨e, he, hpart.item member⟩
    | entry _ member ih =>
      rcases ih with heq | ⟨e, he, hpart⟩
      · cases heq
        exact .inr ⟨_, member, .self⟩
      · exact .inr ⟨e, he, hpart.entry member⟩
  · rintro (rfl | ⟨e, he, hpart⟩)
    · exact .self
    · exact (Part.self.entry he).trans hpart

theorem Part.proper (h : document.Part v) (hp : document.Proper) : v.Proper := by
  induction h with
  | self => exact hp
  | item _ member ih =>
    cases ih with
    | list items => exact items _ member
  | entry _ member ih =>
    cases ih with
    | map _ values => exact values _ member

theorem Part.textKeyed (h : document.Part v) (hk : document.TextKeyed) : v.TextKeyed := by
  induction h with
  | self => exact hk
  | item _ member ih =>
    cases ih with
    | list items => exact items _ member
  | entry _ member ih =>
    cases ih with
    | map _ values => exact values _ member

theorem Part.find? (h : document.Part (.map entries)) (hfind : Value.find? key entries = some v) :
    document.Part v :=
  h.entry (mem_of_find? hfind)

theorem mem_of_itemAt? {items : List Value} {index : Int}
    (h : Pointer.itemAt? items index = some v) : v ∈ items := by
  unfold Pointer.itemAt? at h
  split at h
  next => exact List.mem_of_getElem? h
  next =>
    split at h
    next => exact List.mem_of_getElem? h
    next => cases h

theorem Part.step (h : document.Part v) (hstep : Pointer.step v key = .ok w) : document.Part w := by
  unfold Pointer.step at hstep
  split at hstep
  next entries =>
    cases hfind : Value.find? key entries with
    | none => simp [hfind] at hstep
    | some found =>
      obtain rfl : found = w := by simpa [hfind] using hstep
      exact h.find? hfind
  next items =>
    cases hitem : (Number.readInt? key.toList).bind (Pointer.itemAt? items) with
    | none => simp [hitem] at hstep
    | some found =>
      obtain rfl : found = w := by simpa [hitem] using hstep
      obtain ⟨index, -, hindex⟩ := Option.bind_eq_some_iff.1 hitem
      exact h.item (mem_of_itemAt? hindex)
  next => cases hstep

/-- What a pointer finds is part of the document. -/
theorem Part.find {ref : String} (h : Pointer.find document ref = .ok v) : document.Part v := by
  unfold Pointer.find at h
  split at h
  next => cases h
  next steps _ =>
    have hwalk : Gives document.Part (steps.foldlM Pointer.step document) :=
      gives_foldlM .self fun v key _ hv w hstep => hv.step hstep
    exact hwalk v h

end Value

end ApiContract
