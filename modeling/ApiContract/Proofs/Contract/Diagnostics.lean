import ApiContract.Proofs.Contract.Survey

/-!
# What diagnostics point to

A diagnostic names a place that is reached from the root of the document through keys and positions
(`Leads`). On a straight way its pointer can be followed there (`Leads.find`). A way is not straight any
more once a reference was followed, as what lies behind it is named by where the reference stands, or a
key of responses was put into the pointer that escaping would have changed. So a diagnostic points into
the document, as `PointsInto` says, or it `Strays`: `compile_pointsInto`.
-/

namespace ApiContract

open Outcome Number

namespace Pointer

/-! ## Ways through a document -/

/-- The pointer names the value on a way through the document. The way is straight if no reference is
followed on it and each of its segments is read as the key or the position that it was written for. -/
inductive Leads (document : Value) : (straight : Bool) → (path : String) → Value → Prop where
  | root : Leads document true "#" document
  | entry {straight : Bool} {path key : String} {entries : List (Scalar × Value)} {v : Value}
    (map : Leads document straight path (.map entries)) (found : Value.find? key entries = some v) :
    Leads document straight (child path key) v
  | item {straight : Bool} {path : String} {items : List Value} {index : Nat} {v : Value}
    (list : Leads document straight path (.list items)) (found : items[index]? = some v) :
    Leads document (straight && decide ((natText index).length ≤ numeralLimit)) (item path index) v
  | reference {straight : Bool} {path target : String} {v w : Value}
    (reference : Leads document straight path v) (states : v.get? "$ref" = some (.text target))
    (found : find document target = .ok w) : Leads document false path w
  | status {straight : Bool} {path key : String} {entries : List (Scalar × Value)} {v : Value}
    (map : Leads document straight (raw path "responses") (.map entries))
    (found : Value.find? key entries = some v) :
    Leads document (straight && escape key == key) (raw (raw path "responses") key) v

/-- The pointer can be followed, or all but its last segment leads to a mapping that lacks the key which
this segment is written for. -/
def PointsInto (document : Value) (path : String) : Prop :=
  (∃ v, find document path = .ok v) ∨
    ∃ place entries key, find document place = .ok (.map entries) ∧ Value.find? key entries = none ∧
      path = child place key

/-- The pointer names a value, a key that a mapping lacks, or a content type without a mapping, but not
on a straight way to it. -/
inductive Strays (document : Value) : (path : String) → Prop where
  | value {path : String} {v : Value} (leads : Leads document false path v) : Strays document path
  | key {place key : String} {entries : List (Scalar × Value)}
    (leads : Leads document false place (.map entries)) (lacks : Value.find? key entries = none) :
    Strays document (child place key)
  | media {straight : Bool} {place type : String} {v : Value}
    (leads : Leads document straight (child (raw place "content") type) v)
    (plain : v.entries? = none) :
    Strays document (raw (child (raw place "content") type) "schema")

variable {document v : Value} {straight : Bool} {path key : String} {entries : List (Scalar × Value)}

/-- A way leads to parts of the document only. -/
theorem Leads.part (h : Leads document straight path v) : document.Part v := by
  induction h with
  | root => exact .self
  | entry _ found ih => exact ih.find? found
  | item _ found ih => exact ih.item (List.mem_of_getElem? found)
  | reference _ _ found _ => exact .find found
  | status _ found ih => exact ih.find? found

/-- A pointer that names a value on a straight way can be followed to it. -/
theorem Leads.find (h : Leads document straight path v) (hstraight : straight = true) :
    isLocal path = true ∧ Pointer.find document path = .ok v := by
  induction h with
  | root => exact ⟨rfl, rfl⟩
  | entry _ found ih =>
    obtain ⟨hlocal, hfind⟩ := ih hstraight
    refine ⟨isLocal_raw hlocal, ?_⟩
    rw [find_child hlocal hfind, step, found]
  | item _ found ih =>
    simp only [Bool.and_eq_true, decide_eq_true_eq] at hstraight
    obtain ⟨hlocal, hfind⟩ := ih hstraight.1
    exact ⟨isLocal_raw hlocal, find_item hlocal hfind found hstraight.2⟩
  | reference => cases hstraight
  | status _ found ih =>
    simp only [Bool.and_eq_true, beq_iff_eq] at hstraight
    obtain ⟨hlocal, hfind⟩ := ih hstraight.1
    refine ⟨isLocal_raw hlocal, ?_⟩
    rw [raw_eq_child hstraight.2, find_child hlocal hfind, step, found]

/-- A pointer that cannot be followed, nor up to its last segment, does not point into the document. -/
theorem not_pointsInto (h : ∀ v, Pointer.find document path ≠ .ok v)
    (hparent : ∀ entries, Pointer.find document (parent path) ≠ .ok (.map entries)) :
    ¬ PointsInto document path := by
  rintro (⟨v, hv⟩ | ⟨place, entries, key, hplace, -, rfl⟩)
  · exact h v hv
  · rw [child, parent_raw slash_notMem_escape] at hparent
    exact hparent entries hplace

/-! ## Where a fault may point -/

theorem Leads.points (h : Leads document straight path v) :
    PointsInto document path ∨ Strays document path := by
  cases straight with
  | true => exact .inl (.inl ⟨v, (h.find rfl).2⟩)
  | false => exact .inr (.value h)

theorem Leads.points_key (h : Leads document straight path (.map entries)) (key : String) :
    PointsInto document (child path key) ∨ Strays document (child path key) := by
  cases hfind : Value.find? key entries with
  | some v => exact (h.entry hfind).points
  | none =>
    cases straight with
    | true => exact .inl (.inr ⟨path, entries, key, (h.find rfl).2, hfind, rfl⟩)
    | false => exact .inr (.key h hfind)

theorem Leads.points_schema {place type : String}
    (h : Leads document straight (child (raw place "content") type) v) :
    PointsInto document (raw (child (raw place "content") type) "schema") ∨
      Strays document (raw (child (raw place "content") type) "schema") := by
  cases v with
  | map entries =>
    have hplain : escape "schema" = "schema" := rfl
    rw [raw_eq_child hplain]
    exact h.points_key "schema"
  | scalar | list | set | endless => exact .inr (.media h rfl)

/-- A document of which every mapping has texts as keys, each of them once, surveyed along its ways. -/
def ways (hproper : document.Proper) (hkeyed : document.TextKeyed) : Survey document where
  leads path v := ∃ straight, Leads document straight path v
  opens path v := ∃ straight, Leads document straight path v
  points path := PointsInto document path ∨ Strays document path
  root := ⟨true, .root⟩
  opens_of_leads h := h
  entry := by
    rintro path key entries v ⟨straight, h⟩ hmem
    cases h.part.proper hproper with
    | map keys _ => exact ⟨_, h.entry (Value.find?_of_mem keys hmem)⟩
  item := by
    rintro path items index v ⟨straight, h⟩ hitem
    exact ⟨_, h.item hitem⟩
  status := by
    rintro path entries ⟨key, v⟩ ⟨straight, h⟩ hmem
    cases h.part.textKeyed hkeyed with
    | map hkeys _ =>
      obtain ⟨key, rfl⟩ := hkeys _ hmem
      cases h.part.proper hproper with
      | map keys _ => exact ⟨_, h.status (Value.find?_of_mem keys hmem)⟩
  reference := by
    rintro path ref v w ⟨straight, h⟩ hstates hfind
    exact ⟨_, h.reference hstates hfind⟩
  points_of_leads := by
    rintro path v ⟨straight, h⟩
    exact h.points
  key := by
    rintro path key entries ⟨straight, h⟩
    exact h.points_key key
  media := by
    rintro path type v ⟨straight, h⟩
    exact h.points_schema
  server := by
    rintro entries e ⟨straight, h⟩ hmem hzero
    cases h.part.textKeyed hkeyed with
    | map hkeys _ =>
      obtain ⟨key, hkey⟩ := hkeys _ hmem
      rw [hkey] at hzero
      cases hzero

end Pointer

namespace Contract

open Pointer

variable {document : Value} {options : Options}

/-- A document that does not compile for a cause in it is told where: the pointer leads there, unless it
strays behind a reference, a key of responses, or a content type that has no mapping. -/
theorem compile_pointsInto (hproper : document.Proper) (hkeyed : document.TextKeyed) {cause : Cause}
    {path : String} (h : (compile document options).result = .error (.uncompilable cause path)) :
    PointsInto document path ∨ Strays document path :=
  points_of_compile (S := ways hproper hkeyed) h

/-- A document with a response that has no schema, under a key that escaping would change. -/
def slashed : Value :=
  .object [("openapi", .text "3.0.3"), ("paths", .object [("/x", .object [("get",
    .object [("responses", .object [("2/00",
      .object [("content", .object [("application/json", .object [])])])])])])])]

/-- The pointer stands where the schema is missing, and does not lead there. -/
theorem strays_slashed :
    slashed.Proper ∧ slashed.TextKeyed ∧
      ∃ path, (compile slashed {}).result =
          .error (.uncompilable (.missingSchema (.response "2/00" "application/json")) path) ∧
        path = "#/paths/~1x/get/responses/2/00/content/application~1json/schema" ∧
        ¬ PointsInto slashed path ∧ Strays slashed path := by
  have hproper : slashed.Proper := by simp [slashed]
  have hkeyed : slashed.TextKeyed := by simp [slashed]
  have hcompile : (compile slashed {}).result =
      .error (.uncompilable (.missingSchema (.response "2/00" "application/json"))
        "#/paths/~1x/get/responses/2/00/content/application~1json/schema") := rfl
  have hfind : Pointer.find slashed "#/paths/~1x/get/responses/2/00/content/application~1json/schema" =
      .error (.noSuchKey "2") := rfl
  have hparent : Pointer.find slashed
      (parent "#/paths/~1x/get/responses/2/00/content/application~1json/schema") =
        .error (.noSuchKey "2") := rfl
  have hmisses : ¬ PointsInto slashed
      "#/paths/~1x/get/responses/2/00/content/application~1json/schema" :=
    not_pointsInto (by simp [hfind]) (by simp [hparent])
  have hpoints := compile_pointsInto hproper hkeyed hcompile
  exact ⟨hproper, hkeyed, _, hcompile, rfl, hmisses, hpoints.resolve_left hmisses⟩

end Contract

end ApiContract
