import ApiContract.Proofs.Pointer.Survey
import ApiContract.Proofs.Schema.Faults
import ApiContract.Proofs.Schema.Reading

/-!
# Where faults of schemas are reported

Reading a schema goes wrong at the place of a raw schema within it or at a keyword there, and what is
read stands at places to which pointers lead (`reads_read`). So compiling it goes wrong at such places,
too (`placed_compile`).
-/

namespace ApiContract

open Outcome

theorem Composition.keyword_mem (keyword : Composition) :
    keyword.keyword ∈ Schema.reportedKeywords := by
  cases keyword <;> simp [Composition.keyword, Schema.reportedKeywords]

namespace Chart

variable (S : Chart)

/-- The pointer leads to a mapping. -/
def Mapping (path : String) : Prop := ∃ entries, S.leads path (.map entries)

/-- A schema is read at the path, and each fault has a place where it may point. -/
abbrev Reads (path : String) (x : Except Fault Schema) : Prop :=
  Ends S.Placed (Schema.Stands S.Mapping path) x

variable {S} {path : String}

theorem Mapping.reported (h : S.Mapping path) {keyword : String}
    (hkeyword : keyword ∈ Schema.reportedKeywords) : S.points (Pointer.raw path keyword) := by
  obtain ⟨entries, hleads⟩ := h
  exact S.reported hleads hkeyword

/-- A fault of a schema that stands where a pointer leads has its place. -/
theorem Mapping.placed (h : S.Mapping path) {fault : Fault}
    (hfault : Schema.IsUncompilableAt path fault) : S.Placed fault := by
  obtain ⟨entries, hleads⟩ := h
  obtain ⟨cause, place, rfl, hcause, rfl | ⟨keyword, hkeyword, rfl⟩⟩ := hfault
  · exact S.placed_uncompilable.2 ⟨hcause, S.points_of_leads hleads⟩
  · exact S.placed_uncompilable.2 ⟨hcause, S.reported hleads hkeyword⟩

theorem reads_uncompilable {cause : Cause} {place : String} (hcause : cause.IsLocal)
    (h : S.points place) : S.Reads path (uncompilable cause place) :=
  ⟨S.failsAs_uncompilable.2 ⟨hcause, h⟩, gives_error _⟩

end Chart

namespace Schema

open Chart

variable {S : Chart} {path : String} {raw : Value} {levels : Nat}
  {notes : Checked Annotations}

/-! ## Reading one level -/

theorem failsAs_splitType {type : Value} (h : S.Mapping path) :
    FailsAs S.Placed (splitType type path) := by
  have htype : S.points (Pointer.raw path "type") := h.reported (by simp [reportedKeywords])
  unfold splitType
  split
  next =>
    dsimp only
    split <;> simp [htype]
  next => simp

theorem reads_readEnum {values : Value} (h : S.Mapping path) :
    S.Reads path (readEnum values notes path) := by
  unfold readEnum
  split
  next values =>
    exact ends_accept_map fun notes => .enum h
  next => exact reads_uncompilable (by simp) (h.reported (by simp [reportedKeywords]))

theorem reads_readComposition {keyword : Composition} {variants : List Schema} (h : S.Mapping path)
    (hvariants : ∀ b ∈ variants.zipIdx,
      b.1.Stands S.Mapping (Pointer.item (Pointer.raw path keyword.keyword) b.2)) :
    S.Reads path (readComposition keyword raw notes variants) := by
  cases keyword with
  | oneOf =>
    refine (failsAs_discriminatorOf raw).bind_ends fun discriminator _ => ?_
    exact ends_accept_seq fun notes d => .composed h (.oneOf notes variants d) hvariants
  | anyOf => exact ends_accept_map fun notes => .composed h (.anyOf notes variants) hvariants
  | allOf => exact ends_accept_map fun notes => .composed h (.allOf notes variants) hvariants

section Level

variable {read : (raw : Value) → (path : String) → Except Fault Schema}
  (hread : ∀ raw path, S.leads path raw → S.Reads path (read raw path))

include hread

theorem reads_readBranches {keyword : Composition} {branches : Value} (h : S.leads path raw)
    (hraw : S.Mapping path) (hbranches : raw.get? keyword.keyword = some branches) :
    S.Reads path (readBranches read raw path notes keyword branches) := by
  have hplace := S.get? (S.opens_of_leads h) (escape_of_reported keyword.keyword_mem) hbranches
  unfold readBranches
  dsimp only
  split
  next branches =>
    have hbranch (b : Value × Nat) (hb : b ∈ branches.zipIdx) :
        S.leads (Pointer.item (Pointer.raw path keyword.keyword) b.2) b.1 :=
      S.item hplace (List.mem_zipIdx_iff_getElem?.1 hb)
    refine FailsAs.bind_ends (failsAs_mapM fun b hb => (hread _ _ (hbranch b hb)).fails) ?_
    intro variants hvariants
    refine reads_readComposition hraw fun v hv => ?_
    -- The variant and the branch it was read from have the same position.
    obtain ⟨⟨branch, i⟩, hb, hv⟩ :=
      (mapM_eq_ok.1 hvariants).exists_getElem? (List.mem_zipIdx_iff_getElem?.1 hv)
    have hmem : (branch, i) ∈ branches.zipIdx := List.mem_of_getElem? hb
    obtain ⟨_, -, heq⟩ := Option.map_eq_some_iff.1 (List.getElem?_zipIdx.symm.trans hb)
    obtain rfl : v.2 = i := by simpa using congrArg Prod.snd heq
    exact (hread _ _ (hbranch _ hmem)).gives v.1 hv
  next => exact reads_uncompilable (by simp) (hraw.reported keyword.keyword_mem)

theorem reads_readArray (h : S.leads path raw) (hraw : S.Mapping path) :
    S.Reads path (readArray read raw path notes) := by
  unfold readArray
  split
  next => exact reads_uncompilable (by simp) (hraw.reported (by simp [reportedKeywords]))
  next items hitems =>
    have hread := hread _ _ (S.get? (S.opens_of_leads h) rfl hitems)
    refine hread.fails.bind_ends fun items hitems => ?_
    exact ends_accept_map fun notes => .array hraw (hread.gives items hitems)

theorem ends_readProperty {entry : Scalar × Value}
    (h : ∀ name, entry.1 = .text name → S.leads (Pointer.child path name) entry.2) :
    Ends S.Placed (fun p => p.2.Stands S.Mapping (Pointer.child path p.1))
      (readProperty read path entry) := by
  unfold readProperty
  refine (failsAs_asText _).bind_ends fun name hname => ?_
  have hread := hread _ _ (h name (asText_eq_ok.1 hname))
  exact hread.fails.bind_ends fun schema hschema => .ok (hread.gives schema hschema)

theorem ends_readProperties {properties : Value}
    (h : properties ≠ .null → S.leads path properties) :
    Ends S.Placed
      (fun found => ∀ p ∈ found.getD [], p.2.Stands S.Mapping (Pointer.child path p.1))
      (readProperties read path properties) := by
  unfold readProperties
  split
  next => exact .ok nofun
  next hproperties =>
    refine (Value.failsAs_entries _).bind_ends fun entries hentries => ?_
    have hread : Ends S.Placed (fun found => ∀ p ∈ found, p.2.Stands S.Mapping (Pointer.child path p.1))
        (entries.mapM (readProperty read path)) := by
      refine Ends.mapM fun e he => ends_readProperty hread fun name hname => ?_
      exact S.entry_of_entries (S.opens_of_leads (h hproperties)) hentries (hname ▸ he)
    exact hread.fails.bind_ends fun found hfound => .ok (hread.gives found hfound)

theorem ends_readExtra {extra : Value} (h : extra ≠ .null → S.leads path extra) :
    Ends S.Placed (fun found => ∀ t, found.schema? = some t → t.Stands S.Mapping path)
      (readExtra read path extra) := by
  unfold readExtra
  split
  next => exact .ok nofun
  next => exact .ok nofun
  next => exact .ok nofun
  next hextra _ _ =>
    have hread := hread _ _ (h hextra)
    refine ⟨failsAs_map.2 hread.fails, hread.gives.map fun schema hschema t ht => ?_⟩
    cases ht
    exact hschema

theorem reads_readObject (h : S.leads path raw) (hraw : S.Mapping path) :
    S.Reads path (readObject read raw path notes) := by
  have hkeyword (keyword : String) (hplain : Pointer.escape keyword = keyword)
      (hgiven : keywordOf raw keyword ≠ .null) :
      S.leads (Pointer.raw path keyword) (keywordOf raw keyword) :=
    S.get? (S.opens_of_leads h) hplain (get?_of_keywordOf rfl hgiven)
  have hproperties := ends_readProperties hread (hkeyword "properties" rfl)
  have hextra := ends_readExtra hread (hkeyword "additionalProperties" rfl)
  refine hproperties.fails.bind_ends fun properties hp => hextra.fails.bind_ends fun extra he => ?_
  refine (Value.failsAs_membersOrNone _).bind_ends fun required _ => ?_
  refine ends_accept_seq fun notes required => ?_
  exact .object hraw (hproperties.gives properties hp) (hextra.gives extra he)

theorem reads_readTyped {type : Value} (h : S.leads path raw) (hraw : S.Mapping path) :
    S.Reads path (readTyped read raw path type notes) := by
  have htype : S.points (Pointer.raw path "type") := hraw.reported (by simp [reportedKeywords])
  unfold readTyped
  split
  next => exact reads_readArray hread h hraw
  next => exact reads_readObject hread h hraw
  next =>
    split
    next =>
      exact ends_accept_seq fun notes fields => .scalar hraw
    next => exact reads_uncompilable (by simp) htype
  next => exact reads_uncompilable (by simp) htype
  next => exact reads_uncompilable (by simp) htype
  next => exact ⟨failsAs_unexpected, gives_error _⟩

theorem reads_readShape {type : Value} (h : S.leads path raw) (hraw : S.Mapping path) :
    S.Reads path (readShape read raw path type notes) := by
  unfold readShape
  split
  next =>
    exact ends_accept_seq fun notes target => .ref hraw
  next hshape => exact reads_readBranches hread h hraw (Shape.get?_of_composition hshape)
  next => exact reads_readEnum hraw
  next => exact reads_readEnum hraw
  next => exact reads_readTyped hread h hraw

theorem reads_readLevel (h : S.leads path raw) (hraw : S.Mapping path) :
    S.Reads path (readLevel read raw path) :=
  (failsAs_splitType hraw).bind_ends fun _ _ => reads_readShape hread h hraw

end Level

/-! ## Reading and compiling -/

theorem reads_readWithin (h : S.leads path raw) : S.Reads path (readWithin levels raw path) := by
  induction levels generalizing path raw with
  | zero => exact reads_uncompilable (by simp) (S.points_of_leads h)
  | succ levels ih =>
    cases raw with
    | map entries =>
      rw [readWithin_succ]
      exact reads_readLevel (fun _ _ => ih) h ⟨entries, h⟩
    | scalar | list | set | endless => exact reads_uncompilable (by simp) (S.points_of_leads h)

theorem reads_read (depth : Nat) (h : S.leads path raw) : S.Reads path (read raw path depth) :=
  reads_readWithin h

section Compiling

variable {s : Setting} {convert : Option Conversion} {style : ArrayStyle} {required : Bool}

theorem placed_compile (schema : Schema) (h : schema.Stands S.Mapping path) :
    FailsAs S.Placed (compile s convert style path schema).result :=
  failsAs_compile (fun _ hmapping _ => hmapping.placed) schema h (.inl HoldsUnplaced.unexpected)

theorem placed_compileValue (schema : Schema) (h : schema.Stands S.Mapping path) :
    FailsAs S.Placed (schema.compileValue s required path convert style).result :=
  failsAs_compileValue (fun _ hmapping _ => hmapping.placed) schema h HoldsUnplaced.unexpected

theorem placed_compileRepeated (schema : Schema) (h : schema.Stands S.Mapping path) :
    FailsAs S.Placed (schema.compileRepeated s required path convert).result :=
  failsAs_compileRepeated (fun _ hmapping _ => hmapping.placed) schema h HoldsUnplaced.unexpected

end Compiling

end Schema

end ApiContract
