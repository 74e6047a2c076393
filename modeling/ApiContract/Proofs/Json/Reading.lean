import ApiContract.Json.Reader
import ApiContract.Json.Writer
import ApiContract.Proofs.Value.Proper

/-!
# What is read from JSON

A value is read from JSON piece by piece: scalars that JSON has, lists of values, and mappings of different
texts to values. What holds of the scalars and passes from parts to the whole (`Builds`) therefore holds of
every value that is read: `Builds.read`.
-/

namespace ApiContract.Json

open Outcome

/-- What holds of the scalars of JSON, and of a list or a mapping if it holds of all values in it. -/
structure Builds (P : Value → Prop) : Prop where
  scalar : ∀ s, Value.isJsonScalar s = true → P (.scalar s)
  list : ∀ items, (∀ v ∈ items, P v) → P (.list items)
  map : ∀ entries, (entries.map (·.1)).Nodup → (∀ e ∈ entries, ∃ key, e.1 = .text key) →
    (∀ e ∈ entries, P e.2) → P (.map entries)

/-- The entries that were read before, of which a mapping is built. -/
structure Entered (P : Value → Prop) (entries : List (Scalar × Value)) : Prop where
  keys : (entries.map (·.1)).Nodup
  texts : ∀ e ∈ entries, ∃ key, e.1 = .text key
  values : ∀ e ∈ entries, P e.2

variable {P : Value → Prop} {fuel : Nat}

theorem entered_nil : Entered P [] := ⟨List.nodup_nil, nofun, nofun⟩

theorem Entered.insertEntry {entries : List (Scalar × Value)} {key : String} {v : Value}
    (h : Entered P entries) (hv : P v) : Entered P (insertEntry (.text key) v entries) where
  keys := nodup_insertBy (by simp) h.keys
  texts e he := by
    have hkey : e.1 ∈ (ApiContract.insertEntry (.text key) v entries).map (·.1) := List.mem_map_of_mem he
    rw [ApiContract.insertEntry, keys_insertBy] at hkey
    have hall : ∀ k ∈ entries.map (·.1), ∃ key, k = .text key := List.forall_mem_map.2 h.texts
    split at hkey
    next => exact hall _ hkey
    next =>
      rcases List.mem_append.1 hkey with hkey | hkey
      · exact hall _ hkey
      · exact ⟨key, List.mem_singleton.1 hkey⟩
  values e he := by
    rcases mem_insertBy he with hvalue | he
    · rw [hvalue]
      exact hv
    · exact h.values e he

theorem gives_readNumber (text : List Char) :
    Gives (fun r => Value.isJsonScalar r.1 = true) (readNumber text) := by
  unfold readNumber
  split
  split
  next => exact gives_error _
  next =>
    dsimp only
    split
    next =>
      split
      next => exact gives_ok rfl
      next => exact gives_error _
    next => exact gives_ok rfl

theorem isJsonScalar_of_readName? {text : List Char} {r : Scalar × List Char}
    (h : readName? text = some r) : Value.isJsonScalar r.1 = true := by
  have hnames : ∀ e ∈ names, Value.isJsonScalar e.2 = true := by decide
  obtain ⟨e, he, hr⟩ := List.exists_of_findSome?_eq_some h
  obtain ⟨rest, -, rfl⟩ := Option.map_eq_some_iff.1 hr
  exact hnames e he

/-- What each of the readers gives at its own fuel, before the rest of the text. -/
structure Reads (P : Value → Prop) (fuel : Nat) : Prop where
  value : ∀ text, Gives (fun r => P r.1) (readValue fuel text)
  items : ∀ before text, (∀ v ∈ before, P v) → Gives (fun r => P r.1) (readItems fuel before text)
  entries : ∀ before text, Entered P before → Gives (fun r => P r.1) (readEntries fuel before text)

theorem Reads.value_succ (hP : Builds P) (h : Reads P fuel) (text : List Char) :
    Gives (fun r => P r.1) (readValue (fuel + 1) text) := by
  unfold readValue
  split
  next => exact (gives_any _).bind fun r _ => gives_ok (hP.scalar _ rfl)
  next =>
    split
    next => exact gives_ok (hP.map [] List.nodup_nil nofun nofun)
    next => exact h.entries _ _ entered_nil
  next =>
    split
    next => exact gives_ok (hP.list [] nofun)
    next => exact h.items _ _ nofun
  next =>
    split
    next hname => exact gives_ok (hP.scalar _ (isJsonScalar_of_readName? hname))
    next => exact (gives_readNumber _).bind fun r hr => gives_ok (hP.scalar _ hr)

theorem Reads.items_succ (hP : Builds P) (h : Reads P fuel) {before : List Value} (text : List Char)
    (hbefore : ∀ v ∈ before, P v) : Gives (fun r => P r.1) (readItems (fuel + 1) before text) := by
  unfold readItems
  refine (h.value text).bind ?_
  rintro ⟨v, rest⟩ hv
  have hall : ∀ w ∈ v :: before, P w := List.forall_mem_cons.2 ⟨hv, hbefore⟩
  dsimp only
  split
  next => exact gives_ok (hP.list _ fun w hw => hall w (by simpa [or_comm] using hw))
  next => exact h.items _ _ hall
  next => exact gives_error _

theorem Reads.entries_succ (hP : Builds P) (h : Reads P fuel) {before : List (Scalar × Value)}
    (text : List Char) (hbefore : Entered P before) :
    Gives (fun r => P r.1) (readEntries (fuel + 1) before text) := by
  unfold readEntries
  split
  next =>
    refine (gives_any _).bind ?_
    rintro ⟨key, rest⟩ -
    dsimp only
    split
    next =>
      refine (h.value _).bind ?_
      rintro ⟨v, rest⟩ hv
      have hentries : Entered P (ApiContract.insertEntry (.text (String.ofList key)) v before) :=
        hbefore.insertEntry hv
      dsimp only
      split
      next => exact gives_ok (hP.map _ hentries.keys hentries.texts hentries.values)
      next => exact h.entries _ _ hentries
      next => exact gives_error _
    next => exact gives_error _
  next => exact gives_error _

theorem Builds.reads (hP : Builds P) (fuel : Nat) : Reads P fuel := by
  induction fuel with
  | zero => exact ⟨fun _ => gives_error _, fun _ _ _ => gives_error _, fun _ _ _ => gives_error _⟩
  | succ fuel ih =>
    exact ⟨ih.value_succ hP, fun _ text h => ih.items_succ hP text h,
      fun _ text h => ih.entries_succ hP text h⟩

/-- What passes from parts to the whole holds of everything that is read. -/
theorem Builds.read (hP : Builds P) (text : List Char) : Gives P (read text) := by
  unfold Json.read
  split
  next => exact gives_error _
  next =>
    refine ((hP.reads _).value _).bind fun r hr => ?_
    dsimp only
    split
    next => exact gives_ok hr
    next => exact gives_error _

end ApiContract.Json
