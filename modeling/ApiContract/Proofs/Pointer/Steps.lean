import ApiContract.Proofs.Number.Numeral
import ApiContract.Proofs.Value.Part

/-!
# Pointers, step by step

A pointer that is extended by a key or a position leads one step further: `find_child`, `find_item`. A
segment that is put behind a pointer as it is does so as well if escaping would not change it
(`raw_eq_child`).
-/

namespace ApiContract.Pointer

open ApiContract.Number

variable {document v : Value} {path key segment : String}

/-! ## Segments -/

theorem slash_notMem_escapeChars (text : List Char) : '/' ∉ escapeChars text := by
  fun_induction escapeChars text with
  | case1 => exact List.not_mem_nil
  | case2 rest ih => simp [ih]
  | case3 rest ih => simp [ih]
  | case4 c rest _ hslash ih =>
    have hc : '/' ≠ c := fun heq => hslash heq.symm
    simp [hc, ih]

theorem slash_notMem_escape : '/' ∉ (escape key).toList := by
  rw [escape, String.toList_ofList]
  exact slash_notMem_escapeChars _

theorem unescapeChars_of_notMem {text : List Char} (h : '~' ∉ text) : unescapeChars text = text := by
  induction text with
  | nil => rfl
  | cons c rest ih =>
    rw [List.mem_cons, not_or] at h
    unfold unescapeChars
    split
    next heq =>
      cases heq
      exact absurd rfl h.1
    next heq =>
      cases heq
      exact absurd rfl h.1
    next heq =>
      cases heq
      rw [ih h.2]
    next heq => cases heq

/-- A key that escaping does not change stands in a pointer as it is. -/
theorem raw_eq_child (h : escape key = key) : raw path key = child path key := by rw [child, h]

@[simp] theorem isLocal_raw (h : isLocal path = true) : isLocal (raw path segment) = true := by
  simp only [isLocal, beq_iff_eq] at h ⊢
  simp [raw, List.head?_append, h]

/-! ## Extended pointers -/

/-- The steps of an extended pointer are those of the pointer, and one more. -/
theorem steps?_raw (hlocal : isLocal path = true) (hslash : '/' ∉ segment.toList) {steps : List String}
    (h : steps? path = some steps) : steps? (raw path segment) = some (steps ++ [unescape segment]) := by
  have hsegment : segment.toList.splitOn '/' = [segment.toList] := by
    apply List.splitOnP_eq_singleton
    intro c hc
    simpa using fun heq : c = '/' => hslash (heq ▸ hc)
  have hraw : (raw path segment).toList = path.toList ++ '/' :: segment.toList := by simp [raw]
  simp only [isLocal, beq_iff_eq] at hlocal
  obtain ⟨rest, hpath⟩ : ∃ rest, path.toList = '#' :: rest := by
    cases hpath : path.toList with
    | nil => simp [hpath] at hlocal
    | cons c rest =>
      rw [hpath] at hlocal
      obtain rfl : c = '#' := by simpa using hlocal
      exact ⟨rest, rfl⟩
  simp only [steps?, hraw, hpath, List.cons_append, List.drop_succ_cons, List.drop_zero] at h ⊢
  split at h
  next =>
    cases h
    simp [hsegment, unescape]
  next rest =>
    cases h
    have hsplit : (rest ++ '/' :: segment.toList).splitOn '/' =
        rest.splitOn '/' ++ segment.toList.splitOn '/' :=
      List.splitOnP_append_cons rest segment.toList (by simp)
    simp [hsplit, hsegment, unescape]
  next => cases h

theorem find_raw (hlocal : isLocal path = true) (hslash : '/' ∉ segment.toList)
    (h : find document path = .ok v) : find document (raw path segment) = step v (unescape segment) := by
  unfold find at h ⊢
  cases hsteps : steps? path with
  | none => simp [hsteps] at h
  | some steps =>
    simp only [hsteps] at h
    simp only [steps?_raw hlocal hslash hsteps, List.foldlM_append, List.foldlM_cons, List.foldlM_nil,
      h, bind_pure]
    rfl

/-- A pointer that is extended by a key leads to the value under that key. -/
theorem find_child (hlocal : isLocal path = true) (h : find document path = .ok v) :
    find document (child path key) = step v key := by
  rw [child, find_raw hlocal slash_notMem_escape h, unescape_escape]

/-- A position that is not too far behind is read from its numeral. -/
theorem find_item {items : List Value} {index : Nat} (hlocal : isLocal path = true)
    (h : find document path = .ok (.list items)) (hitem : items[index]? = some v)
    (hshort : (natText index).length ≤ numeralLimit) : find document (item path index) = .ok v := by
  have htext : (intString index).toList = natText index := by
    simp [intString, intText]
  have hdigits {c : Char} (hc : ¬ c.isDigit = true) : c ∉ natText index :=
    fun hmem => hc (isDigit_of_mem_natText hmem)
  have hunescape : unescape (intString index) = intString index := by
    rw [unescape, unescapeChars_of_notMem (htext ▸ hdigits (by decide)), String.ofList_toList]
  rw [item, find_raw hlocal (htext ▸ hdigits (by decide)) h, hunescape]
  simp [step, htext, readInt?_natText hshort, itemAt?, hitem]

/-- Without its last segment an extended pointer is the one that was extended. -/
theorem parent_raw (hslash : '/' ∉ segment.toList) : parent (raw path segment) = path := by
  have hdrop : (raw path segment).toList.reverse.dropWhile (· != '/') = '/' :: path.toList.reverse := by
    have hreverse : (raw path segment).toList.reverse =
        segment.toList.reverse ++ '/' :: path.toList.reverse := by simp [raw]
    rw [hreverse, List.dropWhile_append_of_pos]
    · rfl
    · intro c hc
      have hne : c ≠ '/' := by
        rintro rfl
        exact hslash (by simpa using hc)
      simpa using hne
  unfold parent
  simp only [hdrop]
  simp

end ApiContract.Pointer
