import ApiContract.Operation.Compile
import ApiContract.Proofs.Value.Proper
import Mathlib.Data.List.Induction

/-!
# Lists with keys, side by side

Parameters are grouped by location and headers gathered by name, where a later one replaces one of the
same key. Neither looks at what stands under the keys: two lists that have the same keys, and under them
things that are related, have groups that are so again (`forall₂_groupAt`, `forall₂_gather`). What is
left under a key is what came last there (`mem_gather`).
-/

namespace ApiContract

/-- The entries have one key, and what stands under it is related. -/
def Entrywise {κ ν μ : Type} (R : ν → μ → Prop) (e : κ × ν) (e' : κ × μ) : Prop :=
  e.1 = e'.1 ∧ R e.2 e'.2

variable {κ ν μ : Type} {R : ν → μ → Prop}

theorem forall₂_insertBy {same : κ → κ → Bool} {key : κ} {v : ν} {w : μ} {xs : List (κ × ν)}
    {ys : List (κ × μ)} (h : List.Forall₂ (Entrywise R) xs ys) (hvw : R v w) :
    List.Forall₂ (Entrywise R) (insertBy same key v xs) (insertBy same key w ys) := by
  induction h with
  | nil => exact .cons ⟨rfl, hvw⟩ .nil
  | @cons e e' _ _ he hrest ih =>
    obtain ⟨k, x⟩ := e
    obtain ⟨k', y⟩ := e'
    obtain ⟨rfl, hxy⟩ : k = k' ∧ R x y := he
    by_cases hk : same k key = true
    · simp only [insertBy, hk, ↓reduceIte]
      exact .cons ⟨rfl, hvw⟩ hrest
    · simp only [insertBy, hk, Bool.false_eq_true, ↓reduceIte]
      exact .cons ⟨rfl, hxy⟩ ih

/-- Where keys stand once, an insertion takes the place of what stands under its key. -/
theorem mem_insertEntry {key : String} {v : ν} {e : String × ν} {xs : List (String × ν)}
    (h : (xs.map (·.1)).Nodup) :
    e ∈ insertEntry key v xs ↔ e = (key, v) ∨ e ∈ xs ∧ e.1 ≠ key := by
  unfold insertEntry
  induction xs with
  | nil => simp [insertBy]
  | cons first rest ih =>
    obtain ⟨hfirst, hrest⟩ := List.nodup_cons.1 h
    by_cases hk : first.1 = key
    · have hother : ∀ e ∈ rest, e.1 ≠ key := by
        rintro e he rfl
        exact hfirst (List.mem_map.2 ⟨e, he, hk.symm⟩)
      simp only [insertBy, hk, BEq.rfl, ↓reduceIte, List.mem_cons]
      constructor
      · rintro (rfl | he)
        · exact .inl rfl
        · exact .inr ⟨.inr he, hother e he⟩
      · rintro (rfl | ⟨rfl | he, hne⟩)
        · exact .inl rfl
        · exact absurd hk hne
        · exact .inr he
    · simp only [insertBy, beq_iff_eq, hk, ↓reduceIte, List.mem_cons, ih hrest]
      constructor
      · rintro (rfl | rfl | ⟨he, hne⟩)
        · exact .inr ⟨.inl rfl, hk⟩
        · exact .inl rfl
        · exact .inr ⟨.inr he, hne⟩
      · rintro (rfl | ⟨rfl | he, hne⟩)
        · exact .inr (.inl rfl)
        · exact .inl rfl
        · exact .inr (.inr ⟨he, hne⟩)

/-- What the last entry of a name holds. -/
def latest? (name : String) (entries : List (String × ν)) : Option ν := entries.reverse.lookup name

theorem mem_of_latest? {name : String} {v : ν} {entries : List (String × ν)}
    (h : latest? name entries = some v) : (name, v) ∈ entries := by
  obtain ⟨before, after, hentries, -⟩ := List.lookup_eq_some_iff.1 h
  rw [← List.mem_reverse, hentries]
  simp

namespace Operation

theorem nodup_gather (xs : List (String × ν)) : ((gather xs).map (·.1)).Nodup := by
  unfold gather
  induction xs using List.reverseRecOn with
  | nil => exact List.nodup_nil
  | append_singleton xs e ih =>
    rw [List.foldl_append]
    exact nodup_insertBy (by simp) ih

/-- Of the entries of one name the last one stays. -/
theorem mem_gather {name : String} {v : ν} {xs : List (String × ν)} :
    (name, v) ∈ gather xs ↔ latest? name xs = some v := by
  induction xs using List.reverseRecOn with
  | nil => simp [gather, latest?]
  | append_singleton xs e ih =>
    obtain ⟨key, w⟩ := e
    have hstep : gather (xs ++ [(key, w)]) = insertEntry key w (gather xs) := by
      simp only [gather, List.foldl_append, List.foldl_cons, List.foldl_nil]
    rw [hstep, mem_insertEntry (nodup_gather xs), ih]
    by_cases hkey : name = key
    · subst hkey
      simp [latest?, eq_comm]
    · have hbeq : (name == key) = false := beq_false_of_ne hkey
      simp [latest?, List.lookup_cons, hkey, hbeq]

theorem forall₂_gather {xs : List (String × ν)} {ys : List (String × μ)}
    (h : List.Forall₂ (Entrywise R) xs ys) : List.Forall₂ (Entrywise R) (gather xs) (gather ys) := by
  refine List.rel_foldl ?_ List.Forall₂.nil h
  rintro found found' hfound ⟨k, v⟩ ⟨k', w⟩ ⟨rfl, hvw⟩
  exact forall₂_insertBy hfound hvw

theorem forall₂_groupAt {location : Location} {xs : List (Location × Scalar × ν)}
    {ys : List (Location × Scalar × μ)} (h : List.Forall₂ (Entrywise (Entrywise R)) xs ys) :
    List.Forall₂ (Entrywise R) (groupAt location xs) (groupAt location ys) := by
  have hfilter : List.Forall₂ (Entrywise (Entrywise R)) (xs.filter (·.1 == location))
      (ys.filter (·.1 == location)) := List.rel_filter (fun e e' he => by simp [he.1]) h
  refine List.rel_foldl ?_ List.Forall₂.nil hfilter
  rintro group group' hgroup ⟨_, k, v⟩ ⟨_, k', w⟩ ⟨_, rfl, hvw⟩
  exact forall₂_insertBy hgroup hvw

theorem forall_groupAt {Q : ν → Prop} {location : Location} {xs : List (Location × Scalar × ν)}
    (h : ∀ e ∈ xs, Q e.2.2) : ∀ e ∈ groupAt location xs, Q e.2 := by
  have hsame : List.Forall₂ (Entrywise (Entrywise fun v _ => Q v)) xs xs :=
    List.forall₂_same.2 fun e he => ⟨rfl, rfl, h e he⟩
  exact fun e he => (List.forall₂_same.1 (forall₂_groupAt hsame) e he).2

end Operation

end ApiContract
