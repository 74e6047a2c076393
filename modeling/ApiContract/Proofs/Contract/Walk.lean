import ApiContract.Proofs.Contract.Compiled
import ApiContract.Proofs.Contract.Survey

/-!
# The walk through operations

The operations of a document stand in its contract in the order of a walk through its paths, each once and
under a name of its own. The walk ends at the first operation that has the name of an earlier one, if
everything before compiles; nothing within an operation is reported as that (`Cause.IsLocal`). Both are
one theorem, `compile_walk`.
-/

namespace ApiContract

namespace Contract

open Outcome Reported

variable {document : Value} {options : Options}

/-! ## Order -/

/-- The operation that a path item has under a method, if it is a mapping that has one which is not
null. -/
def operationAt (pathItem : Value) (method : String) : Option Value :=
  (pathItem.get? method).filter fun operation => !operation.isNull

/-- The operations of all paths: for each path in order, each method in order. -/
def walk (paths : List (Scalar × Value)) : List Site :=
  (List.product paths ["get", "post", "put", "patch", "delete"]).filterMap
    fun ((route, pathItem), method) =>
      (operationAt pathItem method).map fun operation => { route, method, operation, pathItem }

theorem sites_eq_walk (paths : List (Scalar × Value)) : sites paths = walk paths := by
  unfold sites walk List.product
  rw [List.filterMap_flatMap]
  refine List.flatMap_congr fun ⟨route, pathItem⟩ _ => ?_
  rw [List.filterMap_map]
  refine List.filterMap_congr fun method _ => ?_
  simp only [Function.comp_apply, operationAt]
  cases hget : pathItem.get? method with
  | none => rfl
  | some operation =>
    by_cases hnull : operation = .null
    · rw [hnull]
      rfl
    · have hthere : operation.isNull = false :=
        Bool.eq_false_iff.2 fun h => hnull (Value.isNull_iff.1 h)
      simp [Option.filter, hthere]

/-! ## Names -/

/-- The site has the name of an earlier operation. -/
def Repeats (earlier : List (String × Operation)) (site : Site) (id path : String) : Prop :=
  ∃ route, site.route = .text route ∧ path = sitePlace route site.method ∧
    Operation.idOf site.operation site.method route = .ok id ∧ id ∈ earlier.map (·.1)

/-- Nothing but its own name lets the operation of a site be a second one of a name. -/
theorem compileSite_duplicate {earlier : List (String × Operation)} {site : Site} {id path : String} :
    (compileSite document options earlier site).result =
        .error (.uncompilable (.duplicateOperation id) path) ↔ Repeats earlier site id path := by
  let S := Survey.trivial document
  have hnot : ¬ S.Placed (.uncompilable (.duplicateOperation id) path) := by simp
  simp only [compileSite, result_bind, result_lift]
  rw [(failsAs_asText (P := S.Placed) site.route).bind_eq_error hnot]
  simp only [asText_eq_ok]
  refine exists_congr fun route => and_congr_right fun hroute => ?_
  rw [(Operation.failsAs_idOf (P := S.Placed) site.operation site.method route).bind_eq_error hnot]
  constructor
  · rintro ⟨name, hname, h⟩
    by_cases hany : earlier.any (·.1 == name) = true
    · rw [if_pos hany] at h
      cases h
      obtain ⟨e, he, heq⟩ := List.any_eq_true.1 hany
      exact ⟨rfl, hname, List.mem_map.2 ⟨e, he, by simpa using heq⟩⟩
    · rw [if_neg hany] at h
      simp only [result_bind, result_lift] at h
      refine absurd (FailsAs.bind (P := S.Placed) (Value.failsAs_getOrNull _ _) ?_ _ h) hnot
      intro pathParameters _
      exact (Operation.placed_compile (S := S) True.intro fun _ => True.intro).bind
        fun _ _ => failsAs_ok _
  · rintro ⟨rfl, hid, hmem⟩
    obtain ⟨e, he, heq⟩ := List.mem_map.1 hmem
    have hany : earlier.any (·.1 == id) = true := List.any_eq_true.2 ⟨e, he, by simpa using heq⟩
    refine ⟨id, hid, ?_⟩
    rw [if_pos hany]
    rfl

/-! ## The whole walk -/

/-- The operations of a contract are those of its walk in order, each compiled by itself and under its name,
and no two have one name. That an operation has the name of an earlier one is reported at its place exactly
when all before it compile under names that differ. -/
theorem compile_walk (document : Value) (options : Options) :
    (∀ operations, (compileOperations document options).result = .ok operations ↔
      ∃ paths entries, document.getOrNull "paths" = .ok paths ∧ paths.entriesOrNone = .ok entries ∧
        List.Forall₂ (fun site e => CompilesTo document options site e.1 e.2) (walk entries)
          operations ∧
        (operations.map (·.1)).Nodup) ∧
    ∀ id path, (compileOperations document options).result =
        .error (.uncompilable (.duplicateOperation id) path) ↔
      ∃ paths entries before site after earlier, document.getOrNull "paths" = .ok paths ∧
        paths.entriesOrNone = .ok entries ∧ walk entries = before ++ site :: after ∧
        List.Forall₂ (fun site e => CompilesTo document options site e.1 e.2) before earlier ∧
        (earlier.map (·.1)).Nodup ∧ Repeats earlier site id path := by
  constructor
  · intro operations
    simp only [compileOperations, result_bind, result_lift, result_foldlM, bind_eq_ok,
      foldlM_compileSite_nil_iff, sites_eq_walk, exists_and_left]
  · intro id path
    let S := Survey.trivial document
    have hnot : ¬ S.Placed (.uncompilable (.duplicateOperation id) path) := by simp
    simp only [compileOperations, result_bind, result_lift, result_foldlM]
    rw [(Value.failsAs_getOrNull (P := S.Placed) document "paths").bind_eq_error hnot]
    refine exists_congr fun paths => ?_
    rw [(Value.failsAs_entriesOrNone (P := S.Placed) paths).bind_eq_error hnot]
    simp only [sites_eq_walk, foldlM_eq_error, foldlM_compileSite_nil_iff, compileSite_duplicate]
    simp only [exists_and_left, and_assoc]

/-- An operation may not state the name that an earlier one is given. -/
example :
    (compileOperations (.object [("paths", .object [
      ("/a", .object [("get", .object [("responses", .object [("200", .object [])])])]),
      ("/b", .object [("get", .object [("operationId", .text "GET /a")])])])])
        ⟨.handler, ""⟩).result =
      .error (.uncompilable (.duplicateOperation "GET /a") "#/paths/~1b/get") := rfl

end Contract

end ApiContract
