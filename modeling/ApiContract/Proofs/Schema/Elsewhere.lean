import ApiContract.Proofs.Schema.Depth
import ApiContract.Proofs.Schema.Renamed

/-!
# Schemas at other places

A path only tells where a fault is. So a raw schema that is read at one path is read to the same at any
other one, as deep as there is room for it (`read_elsewhere`), and a schema compiles to the same at any
path (`compile_elsewhere`).
-/

namespace ApiContract

open Outcome

namespace Schema

/-! ## Reading -/

/-- The reader gives the same wherever a raw schema stands. -/
def ReadsAnywhere (read : (raw : Value) → (path : String) → Except Fault Schema) : Prop :=
  ∀ raw path path', Together Eq (read raw path) (read raw path')

section Level

variable {read : (raw : Value) → (path : String) → Except Fault Schema} (h : ReadsAnywhere read)
  {raw type : Value} {path path' : String} {notes : Checked Annotations}

theorem together_readEnum {values : Value} :
    Together Eq (readEnum values notes path) (readEnum values notes path') := by
  cases values with
  | list values => exact together_same _
  | scalar | map | set | endless => exact together_uncompilable _ _ _ _

theorem together_splitType :
    Together Eq (splitType type path) (splitType type path') := by
  cases type with
  | list types =>
    unfold splitType
    dsimp only
    split
    next => exact together_same _
    next => exact together_same _
    next => exact together_uncompilable _ _ _ _
  | scalar | map | set | endless => exact together_same _

include h

theorem together_readBranches {keyword : Composition} {branches : Value} :
    Together Eq (readBranches read raw path notes keyword branches)
      (readBranches read raw path' notes keyword branches) := by
  cases branches with
  | list branches =>
    refine Together.bind_eq (.mapM_eq (List.forall₂_same.2 fun b _ => h _ _ _)) fun variants _ => ?_
    exact together_same _
  | scalar | map | set | endless => exact together_uncompilable _ _ _ _

theorem together_readArray :
    Together Eq (readArray read raw path notes) (readArray read raw path' notes) := by
  unfold readArray
  cases raw.get? "items" with
  | none => exact together_uncompilable _ _ _ _
  | some items => exact Together.bind_eq (h _ _ _) fun items _ => together_same _

theorem together_readProperties {properties : Value} :
    Together Eq (readProperties read path properties) (readProperties read path' properties) := by
  unfold readProperties
  split
  next => exact together_same _
  next =>
    refine Together.bind_eq (together_same _) fun entries _ => ?_
    refine Together.bind_eq (.mapM_eq (List.forall₂_same.2 fun e _ => ?_)) fun _ _ => together_same _
    unfold readProperty
    refine Together.bind_eq (together_same _) fun name _ => ?_
    exact Together.bind_eq (h _ _ _) fun _ _ => together_same _

theorem together_readExtra {extra : Value} :
    Together Eq (readExtra read path extra) (readExtra read path' extra) := by
  unfold readExtra
  split
  next => exact together_same _
  next => exact together_same _
  next => exact together_same _
  next =>
    rw [map_eq_pure_bind, map_eq_pure_bind]
    exact Together.bind_eq (h _ _ _) fun _ _ => together_same _

theorem together_readObject :
    Together Eq (readObject read raw path notes) (readObject read raw path' notes) := by
  unfold readObject
  refine Together.bind_eq (together_readProperties h) fun properties _ => ?_
  exact Together.bind_eq (together_readExtra h) fun extra _ => together_same _

theorem together_readTyped :
    Together Eq (readTyped read raw path type notes) (readTyped read raw path' type notes) := by
  unfold readTyped
  split
  next => exact together_readArray h
  next => exact together_readObject h
  next name _ _ _ =>
    cases ScalarType.ofName? name with
    | some type => exact together_same _
    | none => exact together_uncompilable _ _ _ _
  next => exact together_uncompilable _ _ _ _
  next => exact together_uncompilable _ _ _ _
  next => exact together_same _

theorem together_readLevel :
    Together Eq (readLevel read raw path) (readLevel read raw path') := by
  refine Together.bind_eq together_splitType fun typed _ => ?_
  unfold readShape
  cases Shape.of raw with
  | ref => exact together_same _
  | composition => exact together_readBranches h
  | enum | const => exact together_readEnum
  | typed => exact together_readTyped h

end Level

theorem readsAnywhere_readWithin (levels : Nat) : ReadsAnywhere (readWithin levels) := by
  induction levels with
  | zero => exact fun _ _ _ => together_uncompilable _ _ _ _
  | succ levels ih =>
    intro raw path path'
    cases raw with
    | map entries =>
      rw [readWithin_succ, readWithin_succ]
      exact together_readLevel ih
    | scalar | list | set | endless => exact together_uncompilable _ _ _ _

variable {raw : Value} {path path' : String} {depth depth' n : Nat} {schema : Schema}

/-- No schema that is visited is deeper than the schema that is read is high. -/
theorem Visits.le (hvisits : Visits raw path depth n) (h : readFully raw path = .ok schema) :
    n ≤ depth + schema.height := by
  induction hvisits generalizing schema with
  | here => omega
  | @inner raw path depth n p position _ ih =>
    have hp : p ∈ positions raw path := mem_of_mem_reached position
    cases raw with
    | map entries =>
      obtain ⟨finish, hends, heq⟩ := gathers_readLevel (.map entries) path
      rw [readFully_map, heq] at h
      obtain ⟨schemas, hschemas, hfinish⟩ := bind_eq_ok.1 h
      have hchildren : schema.children = schemas := (hends schemas).gives schema hfinish
      obtain ⟨t, ht, hread⟩ := (mapM_eq_ok.1 hschemas).exists_right hp
      have hbelow : t.height + 1 ≤ schema.height :=
        height_le_iff.1 le_rfl t (hchildren ▸ ht)
      have hinner : n ≤ depth + 1 + t.height := ih hread
      omega
    | scalar | list | set | endless => cases hp

/-- A raw schema is read within the limit if it is read at all and there is room for it. -/
theorem read_eq_ok : read raw path depth = .ok schema ↔
    readFully raw path = .ok schema ∧ depth + schema.height ≤ maxDepth := by
  constructor
  · intro h
    have hwithin : ∀ n, Visits raw path depth n → n ≤ maxDepth := by
      intro n hn
      by_contra hdeep
      obtain ⟨fault, hfault, -⟩ := read_tooDeep ⟨n, hn, Nat.not_le.1 hdeep⟩
      rw [h] at hfault
      cases hfault
    exact ⟨read_eq_readFully hwithin ▸ h, height_of_read h⟩
  · rintro ⟨h, hroom⟩
    rw [read_eq_readFully fun n hn => (hn.le h).trans hroom]
    exact h

/-- A raw schema is read to the same at any other place that has room for it. -/
theorem read_elsewhere (h : read raw path depth = .ok schema)
    (hroom : depth' + schema.height ≤ maxDepth) : read raw path' depth' = .ok schema := by
  have hpath : read raw path' depth = .ok schema :=
    (together_iff.1 (readsAnywhere_readWithin _ raw path path') schema).1 h
  rw [read_eq_ok] at hpath ⊢
  exact ⟨hpath.1, hroom⟩

/-! ## Compiling -/

section Compiling

variable {s : Setting} {convert : Option Conversion} {style : ArrayStyle} {notes : Annotations}
  {c : Compiled}

theorem compileScalar_elsewhere {fields : ScalarSchema}
    (h : (compileScalar s notes fields path convert).result = .ok c) :
    (compileScalar s notes fields path' convert).result = .ok c := by
  unfold compileScalar at h ⊢
  split at h
  next =>
    unfold compileString at h ⊢
    split at h
    next => exact compileBinary_ok.2 (compileBinary_ok.1 h)
    next => exact compileBinary_ok.2 (compileBinary_ok.1 h)
    next => exact compileDate_ok.2 (compileDate_ok.1 h)
    next => exact compileDate_ok.2 (compileDate_ok.1 h)
    next => exact compilePlainString_ok.2 (compilePlainString_ok.1 h)
  next =>
    cases convert with
    | some convert => cases h
    | none =>
      obtain ⟨⟨v, hasDefault⟩, hfinish, h⟩ := bind_eq_ok.1 h
      exact bind_eq_ok.2 ⟨_, finish_none_ok.2 (finish_none_ok.1 hfinish), h⟩
  next => exact compileTyped_ok.2 (compileTyped_ok.1 h)
  next => exact compileTyped_ok.2 (compileTyped_ok.1 h)
  next => exact compileTyped_ok.2 (compileTyped_ok.1 h)

theorem requireValue_elsewhere {required : Bool} {c' : Compiled}
    (h : requireValue required path c = .ok c') : requireValue required path' c = .ok c' :=
  requireValue_ok.2 (requireValue_ok.1 h)

/-- A schema compiles to the same at any other path. -/
theorem compile_elsewhere (schema : Schema)
    (h : (compile s convert style path schema).result = .ok c) :
    (compile s convert style path' schema).result = .ok c := by
  induction schema using Schema.induction generalizing convert style path path' c with
  | step schema ih =>
    cases schema using shapes with
    | ref notes target => exact compile_ref_ok.2 (compile_ref_ok.1 h)
    | composed schema k hk =>
      rw [compile_composes_ok hk] at h ⊢
      obtain ⟨branches, v, hbranches, h⟩ := h
      refine ⟨branches, v, hbranches.imp_of_mem fun b hb _ hcompiled => ?_, h⟩
      exact ih b.1 (hk.children ▸ List.fst_mem_of_mem_zipIdx hb) hcompiled
    | enum notes values => exact compileEnum_ok.2 (compileEnum_ok.1 h)
    | scalar notes fields => exact compileScalar_elsewhere h
    | array notes items =>
      rw [compile_array_ok] at h ⊢
      obtain ⟨hparse, item, hitem, hdefault, array, harray, hjoin⟩ := h
      refine ⟨hparse, item, ih items items_mem_children hitem, hdefault, array, ?_, ?_⟩
      · exact finishArray_ok.2 (finishArray_ok.1 harray)
      · exact joinArray_ok.2 (joinArray_ok.1 hjoin)
    | object notes properties required extra =>
      rw [compile_object_ok] at h ⊢
      obtain ⟨hconvert, hdangling, fields, compiled, hfields, hextra, hfinish⟩ := h
      refine ⟨hconvert, hdangling, fields, compiled, hfields.imp_of_mem fun p hp f hf => ?_, ?_,
        finishObject_ok.2 (finishObject_ok.1 hfinish)⟩
      · obtain ⟨c, hc, c', hc', hf⟩ := compileProperty_ok.1 hf
        exact compileProperty_ok.2
          ⟨c, ih p.2 (property_mem_children hp) hc, c', requireValue_elsewhere hc', hf⟩
      · rw [compileExtra_ok] at hextra ⊢
        cases extra with
        | unstated | allowed => exact hextra
        | typed t =>
          obtain ⟨c, hc, hextra⟩ := hextra
          exact ⟨c, ih t (extra_mem_children rfl) hc, hextra⟩

end Compiling

end Schema

end ApiContract
