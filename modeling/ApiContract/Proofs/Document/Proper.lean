import ApiContract.Document.Source
import ApiContract.Proofs.Json.Reading

/-!
# Documents are proper

No text is decoded to a mapping that holds a key twice, in either format (`proper_decode`), so that every
document that is loaded is a proper one (`proper_load`). In JSON an entry takes the place of an earlier
one as it is read, in YAML when its mapping is complete.
-/

namespace ApiContract

open Outcome

/-- A list of entries of a proper mapping. -/
def Value.ProperEntries (entries : List (Scalar × Value)) : Prop :=
  (entries.map (·.1)).Nodup ∧ ∀ e ∈ entries, e.2.Proper

theorem Value.ProperEntries.insertBy {same : Scalar → Scalar → Bool} {entries : List (Scalar × Value)}
    {key : Scalar} {v : Value} (hsame : ∀ k, same k k = true) (h : ProperEntries entries)
    (hv : v.Proper) : ProperEntries (insertBy same key v entries) := by
  refine ⟨nodup_insertBy hsame h.1, fun e he => ?_⟩
  rcases mem_insertBy he with hvalue | he
  · rw [hvalue]
    exact hv
  · exact h.2 e he

namespace Json

theorem builds_proper : Builds Value.Proper :=
  ⟨fun _ _ => Value.proper_scalar, fun _ => Value.proper_list.2,
    fun _ keys _ values => Value.proper_map.2 ⟨keys, values⟩⟩

theorem proper_read (text : List Char) : Gives Value.Proper (read text) := builds_proper.read text

end Json

namespace Yaml

theorem sameKey_self (k : Scalar) : sameKey k k = true := by simp [sameKey]

/-- The entries of a mapping that is complete. -/
theorem properEntries_insertEntries {entries : List (Scalar × Value)}
    (h : ∀ e ∈ entries, e.2.Proper) : Value.ProperEntries (insertEntries entries) := by
  unfold insertEntries
  have hstart : Value.ProperEntries [] := ⟨List.nodup_nil, by simp⟩
  generalize [] = found at hstart
  induction entries generalizing found with
  | nil => exact hstart
  | cons e rest ih =>
    simp only [List.mem_cons, forall_eq_or_imp] at h
    rw [List.foldl_cons]
    exact ih h.2 _ (hstart.insertBy sameKey_self h.1)

/-- The values of the nodes around one that is read are proper. -/
def Enclosing.Proper (env : Enclosing) : Prop := ∀ e ∈ env, e.2.Proper

theorem Enclosing.Proper.lookup {env : Enclosing} (h : env.Proper) (name : String) :
    ((env.lookup name).getD .null).Proper := by
  cases hfound : env.lookup name with
  | none => exact .scalar _
  | some v =>
    obtain ⟨before, after, rfl, -⟩ := List.lookup_eq_some_iff.1 hfound
    exact h (name, v) (by simp)

theorem Enclosing.Proper.cons {env : Enclosing} (h : env.Proper) {name : String} {v : Value}
    (hv : v.Proper) : Enclosing.Proper ((name, v) :: env) := by
  intro e he
  rcases List.mem_cons.1 he with rfl | he
  · exact hv
  · exact h e he

namespace Node

/-- All of the entries have proper values. -/
def Valued (entries : List (Scalar × Value)) : Prop := ∀ e ∈ entries, e.2.Proper

theorem Valued.append {entries others : List (Scalar × Value)} (h : Valued entries)
    (ho : Valued others) : Valued (entries ++ others) := by
  intro e he
  rcases List.mem_append.1 he with he | he
  · exact h e he
  · exact ho e he

theorem valued_mappingEntries {v : Value} (h : v.Proper) : Gives Valued (mappingEntries v) := by
  cases h with
  | scalar s => exact gives_error _
  | list => exact gives_error _
  | map keys values => exact gives_ok values
  | set members =>
    refine gives_ok fun e he => ?_
    obtain ⟨s, -, rfl⟩ := List.mem_map.1 he
    exact .scalar _
  | endless => exact gives_error _

theorem valued_entriesOf {v : Value} (h : v.Proper) : Gives Valued (entriesOf v) := by
  unfold entriesOf
  split
  next items =>
    have hitems : ∀ w ∈ items.reverse, w.Proper := by simpa using Value.proper_list.1 h
    refine Gives.map (Q := fun found => ∀ entries ∈ found, Valued entries) ?_ fun found hfound => ?_
    · generalize items.reverse = items at hitems
      induction items with
      | nil => exact gives_ok (by simp)
      | cons w rest ih =>
        simp only [List.mem_cons, forall_eq_or_imp] at hitems
        rw [List.mapM_cons]
        refine (valued_mappingEntries hitems.1).bind fun entries he => ?_
        refine (ih hitems.2).bind fun others ho => gives_ok ?_
        simp only [List.mem_cons, forall_eq_or_imp]
        exact ⟨he, ho⟩
    · intro e he
      obtain ⟨entries, hentries, he⟩ := List.mem_flatten.1 he
      exact hfound entries hentries e he
  next => exact valued_mappingEntries h

theorem proper_hollow (node : Node) : node.hollow.Proper := by
  fun_induction hollow node with
  | case1 => exact .list (by simp)
  | case2 name node ih => exact ih
  | case3 => exact .map List.nodup_nil (by simp)

theorem proper_outline {v : Value} (h : v.Proper) : (outline v).Proper := by
  cases h with
  | scalar s => exact .endless
  | list => exact .endless
  | map keys values =>
    refine .map (by simpa [Function.comp_def] using keys) fun e he => ?_
    obtain ⟨e, -, rfl⟩ := List.mem_map.1 he
    exact .endless
  | set members => exact .set members
  | endless => exact .endless

theorem proper_rim {v : Value} (h : v.Proper) : (rim v).Proper := by
  unfold rim
  split
  next items =>
    refine .list fun v hv => ?_
    obtain ⟨item, hitem, rfl⟩ := List.mem_map.1 hv
    exact proper_outline (Value.proper_list.1 h item hitem)
  next => exact proper_outline h

mutual

theorem proper_value {copies : Nat} {env : Enclosing} (h : env.Proper) (node : Node) :
    Gives Value.Proper (node.value copies env) := by
  unfold value
  split
  next items => exact (proper_values h items).map fun vs hvs => .list hvs
  next items => exact (proper_singles h items).map fun vs hvs => .list hvs
  next items => exact (proper_singles h items).map fun vs hvs => .list hvs
  next entries =>
    refine (valued_split h entries).bind fun r hr => gives_ok ?_
    have hentries := properEntries_insertEntries (hr.1.append hr.2)
    exact .map hentries.1 hentries.2
  next entries => exact (valued_split h entries).bind fun r hr => gives_ok (.set _)
  next name => exact gives_ok (h.lookup name)
  next name node =>
    refine (proper_unroll h name node _ (proper_hollow node)).bind fun found hfound => ?_
    split
    · exact proper_unroll h name node _ (proper_rim hfound)
    · exact gives_ok hfound
  next => exact (gives_any _).map fun s _ => .scalar s
termination_by (sizeOf node, 0)

theorem proper_unroll {copies : Nat} {env : Enclosing} (h : env.Proper) (name : String) (node : Node)
    (levels : Nat) {innermost : Value} (hinnermost : innermost.Proper) :
    Gives Value.Proper (unroll copies name node levels env innermost) := by
  unfold unroll
  -- Each copy is read with the one before it among the values around it.
  exact gives_foldlM hinnermost fun inner _ _ hinner => proper_value (h.cons hinner) node
termination_by (sizeOf node, 1)

theorem proper_values {copies : Nat} {env : Enclosing} (h : env.Proper) (items : List Node) :
    Gives (fun vs => ∀ v ∈ vs, v.Proper) (values copies env items) := by
  unfold values
  cases items with
  | nil => exact gives_ok (by simp)
  | cons item rest =>
    refine (proper_value h item).bind fun v hv => ?_
    refine (proper_values h rest).bind fun vs hvs => gives_ok ?_
    simp only [List.mem_cons, forall_eq_or_imp]
    exact ⟨hv, hvs⟩
termination_by (sizeOf items, 0)

theorem proper_singles {copies : Nat} {env : Enclosing} (h : env.Proper) (items : List Node) :
    Gives (fun vs => ∀ v ∈ vs, v.Proper) (singles copies env items) := by
  unfold singles
  split
  next => exact gives_ok (by simp)
  next key v rest =>
    refine (proper_value h key).bind fun first hfirst => ?_
    refine (proper_value h v).bind fun second hsecond => ?_
    refine (proper_singles h rest).bind fun vs hvs => gives_ok ?_
    simp only [List.mem_cons, forall_eq_or_imp]
    exact ⟨.list (by simp [hfirst, hsecond]), hvs⟩
  next name tag key v rest =>
    refine (proper_value h (knot name (mapping tag [(key, v)]))).bind fun outer houter => ?_
    refine (proper_value h key).bind fun first hfirst => ?_
    refine (proper_value (h.cons houter) v).bind fun second hsecond => ?_
    refine (proper_singles h rest).bind fun vs hvs => gives_ok ?_
    simp only [List.mem_cons, forall_eq_or_imp]
    exact ⟨.list (by simp [hfirst, hsecond]), hvs⟩
  next => exact gives_error _
termination_by (sizeOf items, 0)

theorem valued_split {copies : Nat} {env : Enclosing} (h : env.Proper) (entries : List (Node × Node)) :
    Gives (fun r => Valued r.1 ∧ Valued r.2) (split copies env entries) := by
  unfold split
  cases entries with
  | nil => exact gives_ok ⟨by simp [Valued], by simp [Valued]⟩
  | cons e rest =>
    obtain ⟨key, v⟩ := e
    dsimp only
    split
    next =>
      refine (valued_mergeable h v).bind fun found hfound => ?_
      exact (valued_split h rest).bind fun r hr => gives_ok ⟨hfound.append hr.1, hr.2⟩
    next =>
      refine (gives_any _).bind fun k _ => ?_
      refine (proper_value h v).bind fun w hw => ?_
      refine (valued_split h rest).bind fun r hr => gives_ok ⟨hr.1, ?_⟩
      intro e he
      rcases List.mem_cons.1 he with rfl | he
      · exact hw
      · exact hr.2 e he
termination_by (sizeOf entries, 0)

theorem valued_mergeable {copies : Nat} {env : Enclosing} (h : env.Proper) (node : Node) :
    Gives Valued (node.mergeable copies env) := by
  unfold mergeable
  cases node with
  | mapping tag entries =>
    exact (valued_split h entries).bind fun r hr => gives_ok (hr.1.append hr.2)
  | sequence tag items => exact valued_mergeables h items
  | circular name => exact valued_entriesOf (h.lookup name)
  | knot name node => exact (proper_value h (knot name node)).bind fun v hv => valued_entriesOf hv
  | scalar tag text => exact gives_error _
termination_by (sizeOf node, 2)

theorem valued_mergeables {copies : Nat} {env : Enclosing} (h : env.Proper) (items : List Node) :
    Gives Valued (mergeables copies env items) := by
  unfold mergeables
  split
  next => exact gives_ok (by simp [Valued])
  next tag entries rest =>
    refine (valued_split h entries).bind fun r hr => ?_
    exact (valued_mergeables h rest).bind fun found hfound =>
      gives_ok ((hfound.append hr.1).append hr.2)
  next name rest =>
    refine (valued_mappingEntries (h.lookup name)).bind fun found hfound => ?_
    exact (valued_mergeables h rest).bind fun others ho => gives_ok (ho.append hfound)
  next name node rest =>
    refine (proper_value h (knot name node)).bind fun v hv => ?_
    refine (valued_mappingEntries hv).bind fun found hfound => ?_
    exact (valued_mergeables h rest).bind fun others ho => gives_ok (ho.append hfound)
  next => exact gives_error _
termination_by (sizeOf items, 0)

end

end Node

theorem proper_read (copies : Nat) (text : List Char) : Gives Value.Proper (read copies text) := by
  unfold read
  refine (gives_any _).bind fun tokens _ => ?_
  refine (gives_any _).bind fun root _ => ?_
  cases root with
  | none => exact gives_ok (.scalar _)
  | some root => exact Node.proper_value (by simp [Enclosing.Proper]) root

end Yaml

namespace Document

theorem proper_formatRead (format : Format) (text : List Char) :
    Gives (fun r => ∀ v, r = .ok v → v.Proper) (format.read text) := by
  unfold Format.read
  cases format with
  | json =>
    dsimp only
    cases hread : Json.read text with
    | ok v => exact gives_ok fun w hw => Except.ok.inj hw ▸ Json.proper_read text v hread
    | error failure =>
      cases failure with
      | problem problem rest => exact gives_ok nofun
      | longNumeral => exact gives_error _
  | yaml =>
    dsimp only
    cases hread : Yaml.read (Format.copiesIn text) text with
    | ok v => exact gives_ok fun w hw => Except.ok.inj hw ▸ Yaml.proper_read _ text v hread
    | error failure =>
      cases failure with
      | malformed => exact gives_ok nofun
      | noValue => exact gives_error _

theorem proper_asMapping {v : Value} (h : v.Proper) : Gives Value.Proper (asMapping v) := by
  unfold asMapping
  split
  next => exact gives_ok h
  next => exact gives_error _

theorem proper_decodeIn (text : List Char) (before : List DecodeProblem) (formats : List Format) :
    Gives Value.Proper (decodeIn text before formats) := by
  induction formats generalizing before with
  | nil => exact gives_error _
  | cons format others ih =>
    unfold decodeIn
    refine (proper_formatRead format text).bind fun r hr => ?_
    cases r with
    | ok v => exact proper_asMapping (hr v rfl)
    | error problem => exact ih _

/-- A document that a text holds has no key twice in any of its mappings. -/
theorem proper_decode (format : Option Format) (text : String) :
    Gives Value.Proper (decode format text) := by
  unfold decode
  split
  next =>
    refine (proper_formatRead .json text.toList).bind fun r hr => ?_
    cases r with
    | ok v => exact proper_asMapping (hr v rfl)
    | error problem => exact gives_error _
  next => exact proper_decodeIn _ _ _
  next => exact proper_decodeIn _ _ _

/-- Every document is proper, whatever source it is loaded from. -/
theorem proper_load (sources : Sources) (source : String) :
    Gives Value.Proper (load sources source) := by
  unfold load
  split
  next =>
    unfold loadInput
    split
    next => exact gives_error _
    next => exact proper_decode _ _
  next =>
    split
    next =>
      unfold loadReply
      split
      next => exact gives_error _
      next =>
        split
        next => exact proper_decode _ _
        next => exact gives_error _
    next =>
      unfold loadFile
      split
      next => exact gives_error _
      next => exact gives_error _
      next =>
        refine (gives_any _).bind fun text _ => ?_
        split
        next => exact gives_error _
        next => exact proper_decode _ _

end Document

end ApiContract
