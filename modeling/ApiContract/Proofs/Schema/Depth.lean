import ApiContract.Proofs.Schema.Positions
import Mathlib.Data.List.MinMax
import Mathlib.Order.Nat

/-!
# The depth limit

`readFully` reads a raw schema as `read` does, but without a limit, and `Visits` tells at which depths it
reads schemas. The limit is exact (`read_depth`): where all of these are within `maxDepth`, the limit makes
no difference; where one is beyond it, the raw schema is refused as too deep. So no schema that is read is
higher than the limit leaves room for.
-/

namespace ApiContract

open Outcome

namespace Schema

variable {raw : Value} {path : String} {depth n : Nat}

/-! ## Reading without a limit -/

/-- The schema of a raw value, nested as deep as it may be. What a level reads is smaller than the raw
schema, so the check for it always holds: `readFully_map`. -/
def readFully (raw : Value) (path : String) : Except Fault Schema :=
  match raw with
  | .map entries =>
    readLevel (fun v place =>
      if v.depth < (Value.map entries).depth then readFully v place else .error .unexpected)
      (.map entries) path
  | raw => uncompilable (.schema (.notAMapping raw.kindName)) path
termination_by raw.depth
decreasing_by assumption

/-- One level is read, and the schemas within it are read without a limit in turn. -/
theorem readFully_map (entries : List (Scalar × Value)) (path : String) :
    readFully (.map entries) path = readLevel readFully (.map entries) path := by
  rw [readFully]
  refine readLevel_congr fun p hp => ?_
  rw [if_pos (depth_lt_of_mem_positions (mem_of_mem_reached hp))]

theorem readFully_of_not_map (h : ∀ entries, raw ≠ .map entries) (path : String) :
    readFully raw path = uncompilable (.schema (.notAMapping raw.kindName)) path := by
  cases raw with
  | map entries => exact (h entries rfl).elim
  | scalar | list | set | endless => rw [readFully]; exact nofun

/-- While the raw schema is read at a depth, without a limit, a schema is read at depth `n`: the raw
schema itself, or one that is read in turn at a position of it. Behind a position that cannot be read,
none is. -/
inductive Visits : (raw : Value) → (path : String) → (depth n : Nat) → Prop where
  | here {raw : Value} {path : String} {depth : Nat} : Visits raw path depth depth
  | inner {raw : Value} {path : String} {depth n : Nat} {p : Value × String}
    (position : p ∈ reached (fun p => readFully p.1 p.2) (positions raw path))
    (visits : Visits p.1 p.2 (depth + 1) n) : Visits raw path depth n

theorem visits_iff : Visits raw path depth n ↔ n = depth ∨
    ∃ p ∈ reached (fun p => readFully p.1 p.2) (positions raw path), Visits p.1 p.2 (depth + 1) n := by
  constructor
  · rintro (_ | ⟨hposition, hvisits⟩)
    · exact .inl rfl
    · exact .inr ⟨_, hposition, hvisits⟩
  · rintro (rfl | ⟨p, hposition, hvisits⟩)
    · exact .here
    · exact .inner hposition hvisits

/-- No fault of reading without a limit has to do with the depth. -/
theorem failsAs_readFully (raw : Value) (path : String) : FailsAs IsShallow (readFully raw path) := by
  induction raw using induction_positions generalizing path with
  | step raw ih =>
    cases raw with
    | map entries =>
      rw [readFully_map]
      obtain ⟨finish, hends, heq⟩ := gathers_readLevel (.map entries) path
      rw [heq]
      refine (failsAs_mapM fun p hp => ?_).bind fun schemas _ => (hends schemas).fails
      exact ih path p hp p.2
    | scalar | list | set | endless =>
      rw [readFully_of_not_map]
      · exact failsAs_error.2 nofun
      · exact fun _ => nofun

/-! ## Reading within the limit -/

/-- Where all that is visited is within the limit, the limit makes no difference. -/
theorem read_eq_readFully (h : ∀ n, Visits raw path depth n → n ≤ maxDepth) :
    read raw path depth = readFully raw path := by
  induction raw using induction_positions generalizing path depth with
  | step raw ih =>
    have hdepth : depth ≤ maxDepth := h depth .here
    cases raw with
    | map entries =>
      rw [read_map hdepth, readFully_map]
      refine readLevel_congr fun p hp => ih path p (mem_of_mem_reached hp) fun n hn => ?_
      exact h n (.inner hp hn)
    | scalar | list | set | endless =>
      rw [read_of_not_map hdepth, readFully_of_not_map]
      · exact fun _ => nofun
      · exact fun _ => nofun

/-- Where something that is visited is beyond the limit, the raw schema is refused for that. -/
theorem read_tooDeep (h : ∃ n, Visits raw path depth n ∧ maxDepth < n) :
    ∃ fault, read raw path depth = .error fault ∧ IsTooDeep fault := by
  induction raw using induction_positions generalizing path depth with
  | step raw ih =>
    by_cases hdepth : maxDepth < depth
    · exact ⟨_, read_of_maxDepth_lt hdepth raw path, maxDepth, path, rfl⟩
    obtain ⟨n, hvisits, hn⟩ := h
    obtain rfl | ⟨p, hp, hinner⟩ := visits_iff.1 hvisits
    · exact absurd hn hdepth
    cases raw with
    | map entries =>
      obtain ⟨finish, -, heq⟩ := gathers_readLevel (.map entries) path
      rw [read_map (Nat.not_lt.1 hdepth), heq]
      -- Positions before the deep one are read as without the limit, unless they are too deep themselves.
      have hwalk : ∃ fault, (positions (.map entries) path).mapM (fun p => read p.1 p.2 (depth + 1)) =
          .error fault ∧ IsTooDeep fault := by
        refine mapM_fails_of_reached (f := fun p => readFully p.1 p.2) (fun q hq => ?_) ⟨p, hp, ?_⟩
        · by_cases hbeyond : ∃ m, Visits q.1 q.2 (depth + 1) m ∧ maxDepth < m
          · exact .inr (ih path q (mem_of_mem_reached hq) hbeyond)
          · refine .inl (read_eq_readFully fun m hm => Nat.not_lt.1 fun hlt => ?_)
            exact hbeyond ⟨m, hm, hlt⟩
        · exact ih path p (mem_of_mem_reached hp) ⟨n, hinner, hn⟩
      obtain ⟨fault, hfault, hdeep⟩ := hwalk
      rw [hfault]
      exact ⟨fault, rfl, hdeep⟩
    | scalar | list | set | endless => cases mem_of_mem_reached hp

/-! ## Height -/

/-- How many levels of schemas there are below a schema. -/
def height (schema : Schema) : Nat :=
  (schema.children.attach.map fun t => height t.1 + 1).foldr max 0
termination_by sizeOf schema
decreasing_by exact sizeOf_lt_of_mem_children t.2

theorem height_le_iff {schema : Schema} :
    schema.height ≤ n ↔ ∀ t ∈ schema.children, t.height + 1 ≤ n := by
  rw [height]
  constructor
  · intro h t ht
    have hmem : t.height + 1 ∈ schema.children.attach.map fun t => height t.1 + 1 :=
      List.mem_map.2 ⟨⟨t, ht⟩, List.mem_attach _ _, rfl⟩
    exact (List.le_max_of_le hmem le_rfl).trans h
  · intro h
    refine List.max_le_of_forall_le _ _ fun x hx => ?_
    obtain ⟨⟨t, ht⟩, -, rfl⟩ := List.mem_map.1 hx
    exact h t ht

/-- A schema that is read leaves room for itself up to the limit. -/
theorem height_of_read {schema : Schema} (h : read raw path depth = .ok schema) :
    depth + schema.height ≤ maxDepth := by
  induction raw using induction_positions generalizing path depth schema with
  | step raw ih =>
    by_cases hdepth : maxDepth < depth
    · rw [read_of_maxDepth_lt hdepth] at h
      cases h
    have hroom : depth ≤ maxDepth := Nat.not_lt.1 hdepth
    cases raw with
    | map entries =>
      obtain ⟨finish, hends, heq⟩ := gathers_readLevel (.map entries) path
      rw [read_map hroom, heq] at h
      obtain ⟨schemas, hschemas, hfinish⟩ := bind_eq_ok.1 h
      have hchildren : schema.children = schemas := (hends schemas).gives schema hfinish
      have hheight : schema.height ≤ maxDepth - depth := by
        refine height_le_iff.2 fun t ht => ?_
        obtain ⟨p, hp, hread⟩ := (mapM_eq_ok.1 hschemas).exists_left (hchildren ▸ ht)
        have hbelow : depth + 1 + t.height ≤ maxDepth := ih path p hp hread
        omega
      omega
    | scalar | list | set | endless =>
      rw [read_of_not_map hroom] at h
      · cases h
      · exact fun _ => nofun

/-! ## The limit -/

/-- The limit is exact: it makes no difference where nothing that is visited is beyond it, refuses
everything else, and bounds the height of the schemas that are read. -/
theorem read_depth (raw : Value) (path : String) (depth : Nat) :
    ((∀ n, Visits raw path depth n → n ≤ maxDepth) →
        read raw path depth = readFully raw path ∧
          ∀ fault, read raw path depth = .error fault → ¬ IsTooDeep fault) ∧
      ((∃ n, Visits raw path depth n ∧ maxDepth < n) →
        ∃ fault, read raw path depth = .error fault ∧ IsTooDeep fault) ∧
      ∀ schema, read raw path depth = .ok schema → depth + schema.height ≤ maxDepth := by
  refine ⟨fun hwithin => ?_, read_tooDeep, fun schema => height_of_read⟩
  have heq : read raw path depth = readFully raw path := read_eq_readFully hwithin
  refine ⟨heq, fun fault hfault => ?_⟩
  exact failsAs_readFully raw path fault (heq ▸ hfault)

theorem visits_of_no_position (h : positions raw path = []) : Visits raw path depth n ↔ n = depth := by
  rw [visits_iff, h, reached_nil]
  simp

theorem visits_of_position {p : Value × String} (h : positions raw path = [p]) :
    Visits raw path depth n ↔ n = depth ∨ Visits p.1 p.2 (depth + 1) n := by
  rw [visits_iff, h, reached_singleton]
  simp

/-- A rack of slots, each with a text. -/
def rack : Value := .object [("additionalProperties", .object [("type", .text "string")])]

/-- Rows of racks are the only thing that a hall may hold. -/
def hall : Value := .object [("oneOf", .list [.object [("items", rack)]])]

/-- The slots stand three levels down: within the limit from depth 61 on, and beyond it from 62. -/
theorem hall_depth :
    (∀ n, Visits hall "#" 61 n → n ≤ maxDepth) ∧
      (∃ schema, read hall "#" 61 = .ok schema ∧ readFully hall "#" = .ok schema ∧
        61 + schema.height ≤ maxDepth) ∧
      Visits hall "#" 62 65 ∧ ∃ fault, read hall "#" 62 = .error fault ∧ IsTooDeep fault := by
  have hvisits (depth n : Nat) : Visits hall "#" depth n ↔
      n = depth ∨ n = depth + 1 ∨ n = depth + 1 + 1 ∨ n = depth + 1 + 1 + 1 := by
    have hhall : positions hall "#" = [(.object [("items", rack)], "#/oneOf/0")] := rfl
    have hrow : positions (.object [("items", rack)]) "#/oneOf/0" = [(rack, "#/oneOf/0/items")] := rfl
    have hrack : positions rack "#/oneOf/0/items" =
        [(.object [("type", .text "string")], "#/oneOf/0/items/additionalProperties")] := rfl
    have hslot : positions (.object [("type", .text "string")])
        "#/oneOf/0/items/additionalProperties" = [] := rfl
    rw [visits_of_position hhall, visits_of_position hrow, visits_of_position hrack,
      visits_of_no_position hslot]
  have hwithin : ∀ n, Visits hall "#" 61 n → n ≤ maxDepth := by
    intro n hn
    have := (hvisits 61 n).1 hn
    unfold maxDepth
    omega
  have hbeyond : Visits hall "#" 62 65 := (hvisits 62 65).2 (by omega)
  obtain ⟨schema, hschema⟩ : ∃ schema, read hall "#" 61 = .ok schema := ⟨_, rfl⟩
  have hfully : read hall "#" 61 = readFully hall "#" := ((read_depth hall "#" 61).1 hwithin).1
  have hheight := (read_depth hall "#" 61).2.2 schema hschema
  have hdeep := (read_depth hall "#" 62).2.1 ⟨65, hbeyond, by decide⟩
  exact ⟨hwithin, ⟨schema, hschema, hfully ▸ hschema, hheight⟩, hbeyond, hdeep⟩

end Schema

end ApiContract
