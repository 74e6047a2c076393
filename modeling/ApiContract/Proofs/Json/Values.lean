import ApiContract.Console.Basic
import ApiContract.Document.Decode
import ApiContract.Proofs.Json.Numbers
import ApiContract.Proofs.Json.Texts
import ApiContract.Proofs.Value.Finite
import ApiContract.Proofs.Value.Part

/-!
# JSON values are read back

A value that is written as JSON is read as itself, in every layout that puts nothing but blanks around the
signs of JSON (`Layout.IsSpaced`): `read_write`. So a document that a console writes is decoded as it was,
entry by entry in the same order: `decode_document`.
-/

namespace ApiContract

namespace Json

open ApiContract.Number

variable {text rest gap after : List Char} {fuel depth : Nat} {layout : Layout} {v : Value}
  {s : Scalar}

/-! ## Blanks -/

theorem skipBlanks_append (h : ∀ c ∈ gap, isBlank c = true) :
    skipBlanks (gap ++ rest) = skipBlanks rest := by
  rw [skipBlanks, List.dropWhile_append_of_pos h, skipBlanks]

theorem skipBlanks_cons {c : Char} (h : isBlank c = false) : skipBlanks (c :: rest) = c :: rest :=
  List.dropWhile_cons_of_neg (by simp [h])

theorem endsNumber_char {c : Char} (h : isBlank c = true ∨ c = ',' ∨ c = ']' ∨ c = '\x7d') :
    c.isDigit = false ∧ c ≠ '.' ∧ c ≠ 'e' ∧ c ≠ 'E' := by
  simp only [isBlank, Bool.or_eq_true, beq_iff_eq] at h
  obtain (((rfl | rfl) | rfl) | rfl) | rfl | rfl | rfl := h
  all_goals decide

/-- A number does not go on with blanks, and neither with what may stand behind them. -/
theorem endsNumber_append (hgap : ∀ c ∈ gap, isBlank c = true) (h : EndsNumber rest) :
    EndsNumber (gap ++ rest) := by
  cases gap with
  | nil => exact h
  | cons c gap =>
    rintro _ ⟨⟩
    exact endsNumber_char (.inl (hgap c List.mem_cons_self))

/-! ## Where values start -/

theorem head_of_readWhole? {r : List Char × List Char} (h : readWhole? text = some r) :
    ∃ c tail, text = c :: tail ∧ c.isDigit = true := by
  unfold readWhole? at h
  split at h
  next tail => exact ⟨'0', tail, rfl, by decide⟩
  next =>
    cases text with
    | nil => simp [digitRun] at h
    | cons c tail =>
      refine ⟨c, tail, rfl, ?_⟩
      by_contra hc
      simp [digitRun, hc] at h

/-- A number starts with a digit, which may have a minus in front of it. -/
theorem head_of_readNumber {r : Scalar × List Char} (h : readNumber text = .ok r) :
    ∃ c tail, c.isDigit = true ∧ (text = c :: tail ∨ text = '-' :: c :: tail) := by
  unfold readNumber at h
  split at h
  next negative body hbody =>
    cases hwhole : readWhole? body with
    | none => simp [hwhole, fail] at h
    | some r =>
      obtain ⟨c, tail, rfl, hc⟩ := head_of_readWhole? hwhole
      refine ⟨c, tail, hc, ?_⟩
      split at hbody
      next => exact .inr (by cases hbody; rfl)
      next => exact .inl (by cases hbody; rfl)

/-- What is a number is no name, no text and nothing in brackets. -/
theorem readValue_number {r : Scalar × List Char} (h : readNumber text = .ok r) :
    readValue (fuel + 1) text = .ok (.scalar r.1, r.2) := by
  obtain ⟨c, tail, hc, htext⟩ := head_of_readNumber h
  have hne : ∀ d : Char, d.isDigit = false → (d == c) = false := by
    rintro d hd
    rw [beq_eq_false_iff_ne]
    rintro rfl
    rw [hc] at hd
    cases hd
  have hname : readName? text = none := by
    rcases htext with rfl | rfl
    all_goals simp [readName?, names, List.isPrefixOf?, hne]
  have hhead : ∀ d : Char, d.isDigit = false → d ≠ '-' → ∀ rest, text ≠ d :: rest := by
    rintro d hd hminus rest rfl
    rcases htext with heq | heq
    · cases heq
      rw [hc] at hd
      cases hd
    · cases heq
      exact hminus rfl
  unfold readValue
  split
  next => exact absurd rfl (hhead '"' (by decide) (by decide) _)
  next => exact absurd rfl (hhead '\x7b' (by decide) (by decide) _)
  next => exact absurd rfl (hhead '[' (by decide) (by decide) _)
  next =>
    rw [hname, h]
    rfl

/-! ## Scalars -/

/-- What is asked of a value: written in a layout, with anything behind it that no number goes on with,
it is read as itself. -/
def ReadsBack (layout : Layout) (v : Value) : Prop :=
  ∀ depth fuel rest, EndsNumber rest → (layout.write depth v).length < fuel →
    readValue fuel (layout.write depth v ++ rest) = .ok (v, rest)

theorem readValue_name (hs : (text, s) ∈ names) :
    readValue (fuel + 1) (text ++ rest) = .ok (.scalar s, rest) := by
  simp only [names, List.mem_cons, Prod.mk.injEq, List.not_mem_nil, or_false] at hs
  obtain ⟨rfl, rfl⟩ | ⟨rfl, rfl⟩ | ⟨rfl, rfl⟩ | ⟨rfl, rfl⟩ | ⟨rfl, rfl⟩ | ⟨rfl, rfl⟩ := hs
  all_goals rfl

/-- A text behind its opening quote, with all of the fuel that its length gives. -/
theorem readText_writeText (ascii : Bool) (text rest : List Char) :
    ∃ tail, writeText ascii text ++ rest = '"' :: tail ∧
      readText (writeText ascii text ++ rest) (writeText ascii text ++ rest).length tail =
        .ok (text, rest) := by
  refine ⟨text.flatMap (escapeChar ascii) ++ '"' :: rest, by simp [writeText], ?_⟩
  have hlength := length_le_length_escaped ascii text
  apply readText_write
  simp only [writeText, List.length_append, List.length_cons]
  omega

theorem readsBack_scalar (hs : s.Finite)
    (hint : ∀ i, s = .int i → (natText i.natAbs).length ≤ numeralLimit) :
    ReadsBack layout (.scalar s) := by
  intro depth fuel rest hrest hfuel
  obtain ⟨fuel, rfl⟩ := Nat.exists_eq_add_one.2 (Nat.zero_lt_of_lt hfuel)
  change readValue (fuel + 1) (writeScalar layout.ascii s ++ rest) = _
  cases s with
  | null => exact readValue_name (show (scalarText .null, .null) ∈ names by decide)
  | bool b => exact readValue_name (show (scalarText (.bool b), .bool b) ∈ names by cases b <;> decide)
  | int i =>
    refine readValue_number (r := (.int i, rest)) ?_
    rw [writeScalar, scalarText, readNumber_intText i hrest, if_pos (hint i rfl)]
  | float x =>
    cases x with
    | finite negative mantissa exponent =>
      exact readValue_number (readNumber_write floats negative hs hrest)
    | nan | infinite => cases hs
  | text t =>
    change readValue (fuel + 1) (writeText layout.ascii t.toList ++ rest) = _
    obtain ⟨tail, htext, hread⟩ := readText_writeText layout.ascii t.toList rest
    rw [htext] at hread ⊢
    rw [readValue, hread]
    simp [bind, Except.bind, pure, Except.pure]
  | date _ | timestamp _ | bytes _ => cases hs

/-- A value does not start with a blank, with a mark of an encoding or with what closes a list. -/
theorem head_of_readValue {r : Value × List Char} (h : readValue fuel text = .ok r) :
    ∃ c tail, text = c :: tail ∧ isBlank c = false ∧ c ≠ ']' ∧ c ≠ '\ufeff' := by
  cases fuel with
  | zero => cases h
  | succ fuel =>
    cases text with
    | nil => cases h
    | cons c tail =>
      refine ⟨c, tail, rfl, ?_⟩
      by_contra hc
      have hbad : c ∈ [' ', '\t', '\n', '\r', ']', '\ufeff'] := by
        simp [isBlank] at hc ⊢
        tauto
      simp only [List.mem_cons, List.not_mem_nil, or_false] at hbad
      rcases hbad with rfl | rfl | rfl | rfl | rfl | rfl
      all_goals cases h

/-! ## Layouts -/

/-- Nothing but blanks is put behind commas and colons and inside of brackets. -/
structure Layout.IsSpaced (layout : Layout) : Prop where
  comma : ∀ depth, ∃ gap, layout.comma depth = ',' :: gap ∧ ∀ c ∈ gap, isBlank c = true
  colon : ∃ gap, layout.colon = ':' :: gap ∧ ∀ c ∈ gap, isBlank c = true
  opening : ∀ depth, ∀ c ∈ layout.opening depth, isBlank c = true
  closing : ∀ depth, ∀ c ∈ layout.closing depth, isBlank c = true

theorem isSpaced_line : Layout.line.IsSpaced where
  comma _ := ⟨[' '], rfl, List.forall_mem_singleton.2 (by decide)⟩
  colon := ⟨[' '], rfl, List.forall_mem_singleton.2 (by decide)⟩
  opening _ := nofun
  closing _ := nofun

theorem isBlank_of_mem_newLine : ∀ c ∈ Layout.newLine depth, isBlank c = true := by
  simp only [Layout.newLine, List.mem_cons, List.mem_replicate]
  rintro c (rfl | ⟨-, rfl⟩)
  all_goals decide

theorem isSpaced_pages : Layout.pages.IsSpaced where
  comma _ := ⟨_, rfl, fun _ => isBlank_of_mem_newLine _⟩
  colon := ⟨[' '], rfl, List.forall_mem_singleton.2 (by decide)⟩
  opening _ := fun _ => isBlank_of_mem_newLine _
  closing _ := fun _ => isBlank_of_mem_newLine _

section Values

variable {items : List Value} {key : String} {before fields : List (Scalar × Value)}

/-- A value that is read back is found behind blanks. -/
theorem ReadsBack.skipBlanks (h : ReadsBack layout v) (hgap : ∀ c ∈ gap, isBlank c = true) :
    skipBlanks (gap ++ (layout.write depth v ++ rest)) = layout.write depth v ++ rest := by
  obtain ⟨c, tail, heq, hc, -⟩ :=
    head_of_readValue (h depth _ [] endsNumber_nil (Nat.lt_succ_self _))
  rw [List.append_nil] at heq
  rw [skipBlanks_append hgap, heq, List.cons_append, skipBlanks_cons hc]

theorem endsNumber_closing {c : Char} (hl : layout.IsSpaced) (hc : c = ']' ∨ c = '\x7d') :
    EndsNumber (layout.closing depth ++ c :: rest) := by
  refine endsNumber_append (hl.closing depth) ?_
  rintro _ ⟨⟩
  exact endsNumber_char (.inr (.inr hc))

theorem skipBlanks_closing {c : Char} (hl : layout.IsSpaced) (hc : c = ']' ∨ c = '\x7d') :
    Json.skipBlanks (layout.closing depth ++ c :: rest) = c :: rest := by
  rw [skipBlanks_append (hl.closing depth)]
  apply skipBlanks_cons
  rcases hc with rfl | rfl
  all_goals decide

theorem endsNumber_comma (hl : layout.IsSpaced) : EndsNumber (layout.comma depth ++ rest) := by
  obtain ⟨gap, heq, -⟩ := hl.comma depth
  rw [heq]
  rintro _ ⟨⟩
  exact endsNumber_char (.inr (.inl rfl))

/-- Behind an item stands a comma or what closes the list. -/
theorem endsNumber_items (hl : layout.IsSpaced) :
    EndsNumber (layout.writeItems depth items ++ (layout.closing depth ++ ']' :: rest)) := by
  cases items with
  | nil => exact endsNumber_closing hl (.inl rfl)
  | cons w items =>
    rw [Layout.writeItems, List.append_assoc, List.append_assoc]
    exact endsNumber_comma hl

/-- The items of a list are read one after the other. -/
theorem readItems_write (hl : layout.IsSpaced) (before : List Value) (rest : List Char)
    (hv : ReadsBack layout v)
    (hitems : ∀ w ∈ items, ReadsBack layout w)
    (hfuel : (layout.write (depth + 1) v ++ layout.writeItems depth items).length + 1 < fuel) :
    readItems fuel before
        (layout.write (depth + 1) v ++
          (layout.writeItems depth items ++ (layout.closing depth ++ ']' :: rest))) =
      .ok (.list (before.reverse ++ v :: items), rest) := by
  induction items generalizing v before fuel with
  | nil =>
    obtain ⟨fuel, rfl⟩ := Nat.exists_eq_add_one.2 (Nat.zero_lt_of_lt hfuel)
    rw [Layout.writeItems, List.append_nil] at hfuel
    have hread := hv (depth + 1) fuel (layout.closing depth ++ ']' :: rest)
      (endsNumber_closing hl (.inl rfl)) (by omega)
    rw [Layout.writeItems, List.nil_append, readItems, hread]
    simp [bind, Except.bind, pure, Except.pure, skipBlanks_closing hl]
  | cons w items ih =>
    obtain ⟨fuel, rfl⟩ := Nat.exists_eq_add_one.2 (Nat.zero_lt_of_lt hfuel)
    rw [List.forall_mem_cons] at hitems
    obtain ⟨gap, hcomma, hgap⟩ := hl.comma depth
    simp only [Layout.writeItems, hcomma, List.length_append, List.length_cons] at hfuel
    have hread := hv (depth + 1) fuel
      (layout.writeItems depth (w :: items) ++ (layout.closing depth ++ ']' :: rest))
      (endsNumber_items hl) (by omega)
    have hleft : (layout.write (depth + 1) w ++ layout.writeItems depth items).length + 1 < fuel := by
      rw [List.length_append]
      omega
    have hnext := ih (v :: before) hitems.1 hitems.2 hleft
    rw [readItems, hread]
    simp only [bind, Except.bind, Layout.writeItems, hcomma, List.cons_append, List.append_assoc]
    rw [skipBlanks_cons (by decide)]
    simp only [hitems.1.skipBlanks hgap]
    rw [hnext]
    simp

/-- Behind the value of an entry stands a comma or what closes the mapping. -/
theorem endsNumber_entries (hl : layout.IsSpaced) :
    EndsNumber (layout.writeEntries depth fields ++ (layout.closing depth ++ '\x7d' :: rest)) := by
  cases fields with
  | nil => exact endsNumber_closing hl (.inr rfl)
  | cons e fields =>
    rw [Layout.writeEntries]
    simp only [List.append_assoc]
    exact endsNumber_comma hl

theorem skipBlanks_writeText (ascii : Bool) (text : List Char) :
    Json.skipBlanks (writeText ascii text ++ rest) = writeText ascii text ++ rest :=
  skipBlanks_cons (by decide)

theorem notMem_keys_of_nodup {e : Scalar × Value} (h : ((before ++ e :: fields).map (·.1)).Nodup) :
    e.1 ∉ before.map (·.1) := by
  rw [List.map_append, List.nodup_append] at h
  exact fun hmem => h.2.2 _ hmem _ List.mem_cons_self rfl

/-- An entry under a new key is read and added at the end. -/
theorem readEntries_entry (hl : layout.IsSpaced) (hv : ReadsBack layout v)
    (hkey : Scalar.text key ∉ before.map (·.1)) (hrest : EndsNumber rest)
    (hfuel : (layout.write depth v).length < fuel) :
    readEntries (fuel + 1) before
        (writeText layout.ascii key.toList ++ (layout.colon ++ (layout.write depth v ++ rest))) =
      match Json.skipBlanks rest with
      | '\x7d' :: rest => .ok (.map (before ++ [(.text key, v)]), rest)
      | ',' :: rest => readEntries fuel (before ++ [(.text key, v)]) (Json.skipBlanks rest)
      | rest => fail .commaExpected rest := by
  obtain ⟨gap, hcolon, hgap⟩ := hl.colon
  obtain ⟨tail, htext, hread⟩ := readText_writeText layout.ascii key.toList
    (layout.colon ++ (layout.write depth v ++ rest))
  rw [htext] at hread ⊢
  rw [hcolon, List.cons_append] at hread
  rw [readEntries, hread]
  simp only [bind, Except.bind]
  rw [skipBlanks_cons (by decide)]
  simp only [hv.skipBlanks hgap, hv depth fuel rest hrest hfuel, String.ofList_toList,
    insertEntry_of_notMem hkey]
  rfl

/-- The entries of a mapping are read one after the other, and each of them is added at the end. -/
theorem readEntries_write (hl : layout.IsSpaced) (before : List (Scalar × Value))
    (rest : List Char) (hv : ReadsBack layout v)
    (htexts : ∀ e ∈ fields, ∃ key, e.1 = .text key) (hfields : ∀ e ∈ fields, ReadsBack layout e.2)
    (hkeys : ((before ++ (.text key, v) :: fields).map (·.1)).Nodup)
    (hfuel : (writeText layout.ascii key.toList ++ layout.colon ++ layout.write (depth + 1) v ++
      layout.writeEntries depth fields).length + 1 < fuel) :
    readEntries fuel before
        (writeText layout.ascii key.toList ++ (layout.colon ++ (layout.write (depth + 1) v ++
          (layout.writeEntries depth fields ++ (layout.closing depth ++ '\x7d' :: rest))))) =
      .ok (.map (before ++ (.text key, v) :: fields), rest) := by
  induction fields generalizing key v before fuel with
  | nil =>
    obtain ⟨fuel, rfl⟩ := Nat.exists_eq_add_one.2 (Nat.zero_lt_of_lt hfuel)
    have hkey : Scalar.text key ∉ before.map (·.1) := notMem_keys_of_nodup hkeys
    simp only [Layout.writeEntries, List.append_nil, List.length_append] at hfuel
    rw [readEntries_entry hl hv hkey (endsNumber_entries hl) (by omega), Layout.writeEntries,
      List.nil_append, skipBlanks_closing hl (.inr rfl)]
    rfl
  | cons e fields ih =>
    obtain ⟨fuel, rfl⟩ := Nat.exists_eq_add_one.2 (Nat.zero_lt_of_lt hfuel)
    obtain ⟨k, w⟩ := e
    rw [List.forall_mem_cons] at htexts hfields
    obtain ⟨other, rfl⟩ : ∃ other, k = .text other := htexts.1
    have hkey : Scalar.text key ∉ before.map (·.1) := notMem_keys_of_nodup hkeys
    obtain ⟨gap, hcomma, hgap⟩ := hl.comma depth
    simp only [Layout.writeEntries, hcomma, scalarText, List.length_append, List.length_cons] at hfuel
    have hleft : (writeText layout.ascii other.toList ++ layout.colon ++ layout.write (depth + 1) w ++
        layout.writeEntries depth fields).length + 1 < fuel := by
      simp only [List.length_append]
      omega
    have hnext := ih (before ++ [(.text key, v)]) hfields.1 htexts.2 hfields.2
      (by rwa [List.append_assoc]) hleft
    rw [readEntries_entry hl hv hkey (endsNumber_entries hl) (by omega)]
    simp only [Layout.writeEntries, hcomma, List.cons_append, List.append_assoc]
    rw [skipBlanks_cons (by decide)]
    simp only [scalarText, skipBlanks_append hgap, skipBlanks_writeText, hnext, List.append_assoc]
    rfl

/-- A list of values that are read back is read back. -/
theorem readsBack_list (hl : layout.IsSpaced) (h : ∀ v ∈ items, ReadsBack layout v) :
    ReadsBack layout (.list items) := by
  intro depth fuel rest _ hfuel
  obtain ⟨fuel, rfl⟩ := Nat.exists_eq_add_one.2 (Nat.zero_lt_of_lt hfuel)
  cases items with
  | nil => rfl
  | cons v items =>
    rw [List.forall_mem_cons] at h
    simp only [Layout.write, List.length_append, List.length_cons, List.length_nil] at hfuel
    have hleft : (layout.write (depth + 1) v ++ layout.writeItems depth items).length + 1 < fuel := by
      rw [List.length_append]
      omega
    have hread := readItems_write hl [] rest h.1 h.2 hleft
    simp only [Layout.write, List.cons_append, List.append_assoc, List.nil_append]
    rw [readValue]
    simp only [h.1.skipBlanks (hl.opening depth)]
    split
    next heq =>
      obtain ⟨c, tail, hhead, -, hc, -⟩ :=
        head_of_readValue (h.1 (depth + 1) _ [] endsNumber_nil (Nat.lt_succ_self _))
      rw [List.append_nil] at hhead
      rw [hhead, List.cons_append] at heq
      cases heq
      exact absurd rfl hc
    next => exact hread

/-- A mapping under different texts of values that are read back is read back. -/
theorem readsBack_map (hl : layout.IsSpaced) (hkeys : (fields.map (·.1)).Nodup)
    (htexts : ∀ e ∈ fields, ∃ key, e.1 = .text key) (h : ∀ e ∈ fields, ReadsBack layout e.2) :
    ReadsBack layout (.map fields) := by
  intro depth fuel rest _ hfuel
  obtain ⟨fuel, rfl⟩ := Nat.exists_eq_add_one.2 (Nat.zero_lt_of_lt hfuel)
  cases fields with
  | nil => rfl
  | cons e fields =>
    obtain ⟨k, v⟩ := e
    rw [List.forall_mem_cons] at htexts h
    obtain ⟨key, rfl⟩ : ∃ key, k = .text key := htexts.1
    simp only [Layout.write, scalarText, List.length_append, List.length_cons, List.length_nil] at hfuel
    have hleft : (writeText layout.ascii key.toList ++ layout.colon ++ layout.write (depth + 1) v ++
        layout.writeEntries depth fields).length + 1 < fuel := by
      simp only [List.length_append]
      omega
    have hread := readEntries_write hl [] rest h.1 htexts.2 h.2 hkeys hleft
    simp only [Layout.write, scalarText, List.cons_append, List.append_assoc, List.nil_append]
    rw [readValue]
    simp only [skipBlanks_append (hl.opening depth), skipBlanks_writeText]
    exact hread

/-- A JSON value whose integers are short enough is read back. -/
theorem readsBack_of_finite (hl : layout.IsSpaced) (h : v.Finite)
    (hint : ∀ i, v.Part (.int i) → (natText i.natAbs).length ≤ numeralLimit) :
    ReadsBack layout v := by
  induction h with
  | scalar finite => exact readsBack_scalar finite fun i hi => hint i (hi ▸ .self)
  | list _ ih =>
    exact readsBack_list hl fun v hv => ih v hv fun i hi => hint i (Value.part_list.2 (.inr ⟨v, hv, hi⟩))
  | object keys values ih =>
    have hfields := Value.proper_map.1 (Value.Finite.object keys values).proper
    refine readsBack_map hl hfields.1 (List.forall_mem_map.2 fun e _ => ⟨e.1, rfl⟩) ?_
    rw [List.forall_mem_map]
    exact fun e he => ih e he fun i hi =>
      hint i (Value.part_map.2 (.inr ⟨_, List.mem_map_of_mem he, hi⟩))

/-- A value that is read back is what its text holds, with nothing but blanks behind it. -/
theorem ReadsBack.read (h : ReadsBack layout v) (depth : Nat) (gap : List Char)
    (hgap : ∀ c ∈ gap, isBlank c = true) :
    Json.read (layout.write depth v ++ gap) = .ok v := by
  have hend : EndsNumber gap := by simpa using endsNumber_append hgap endsNumber_nil
  have hread := h depth (2 * (layout.write depth v ++ gap).length + 1) gap hend (by
    rw [List.length_append]
    omega)
  obtain ⟨c, tail, heq, hblank, -, hmark⟩ := head_of_readValue hread
  have hstart : Json.skipBlanks (layout.write depth v ++ gap) = layout.write depth v ++ gap := by
    rw [heq, skipBlanks_cons hblank]
  have hrest : Json.skipBlanks gap = [] := List.dropWhile_eq_nil_iff.2 hgap
  have hhead : (layout.write depth v ++ gap).head? ≠ some '\ufeff' := by simpa [heq] using hmark
  rw [Json.read, if_neg hhead]
  simp only [hstart, hread, bind, Except.bind, hrest]
  rfl

end Values

/-- A value on one line, where all but ASCII is escaped, is read back. -/
theorem read_line (h : v.Finite)
    (hint : ∀ i, v.Part (.int i) → (natText i.natAbs).length ≤ numeralLimit) :
    Json.read (line v).toList = .ok v := by
  have hread := (readsBack_of_finite isSpaced_line h hint).read 0 [] nofun
  rwa [List.append_nil, ← String.toList_ofList (l := Layout.line.write 0 v)] at hread

end Json

namespace Document

open Number

/-- What a console writes of a mapping that is made of JSON values with finite numbers, in which no
integer has more digits than are read, is decoded as that mapping, with its entries in the same order:
as JSON, and also where the format is not known. -/
theorem decode_document {fields : List (String × Value)} (h : (Value.object fields).Finite)
    (hint : ∀ i, (Value.object fields).Part (.int i) → (natText i.natAbs).length ≤ numeralLimit)
    (format : Option Format) (hformat : format ≠ some .yaml) :
    decode format (Console.document (.object fields)).stdout = .ok (.object fields) := by
  have hread := (Json.readsBack_of_finite Json.isSpaced_pages h hint).read 0 ['\n']
    (List.forall_mem_singleton.2 (by decide))
  have htext : (Console.document (.object fields)).stdout.toList =
      Json.Layout.pages.write 0 (.object fields) ++ ['\n'] := by
    simp [Console.document, Console.line, Json.pages]
  have hjson : Format.json.read (Console.document (.object fields)).stdout.toList =
      .ok (.ok (.object fields)) := by
    rw [Format.read, htext, hread]
  unfold decode
  split
  next =>
    rw [hjson]
    rfl
  next => exact absurd rfl hformat
  next =>
    rw [Format.all, decodeIn, hjson]
    rfl

/-- A mapping with awkward keys and texts, with empty brackets and with a negative number. -/
def awkward : List (String × Value) :=
  [("b\"\\/\n", .list [.null, .bool true, .int (-120), .list [], .object [("", .object [])]]),
    ("\u00e9😀", .text "\x00\x1f\u2028]\"\\u0041"),
    ("a", .object [("z", .int 0), ("y", .text "\x7b\"y\": 1\x7d"), ("b", .text "")])]

theorem decode_document_awkward :
    decode none (Console.document (.object awkward)).stdout = .ok (.object awkward) ∧
      decode (some .json) (Console.document (.object awkward)).stdout = .ok (.object awkward) := by
  have hempty : (Value.object []).Finite := .object List.nodup_nil nofun
  have hinner : (Value.object [("", .object [])]).Finite := .object (by decide) (by simpa using hempty)
  have hlast : (Value.object [("z", .int 0), ("y", .text "\x7b\"y\": 1\x7d"), ("b", .text "")]).Finite :=
    .object (by decide) (by simp [Scalar.Finite])
  have hfinite : (Value.object awkward).Finite :=
    .object (by decide) (by simpa [awkward, Scalar.Finite] using ⟨hinner, hlast⟩)
  have hlength : (natText 120).length ≤ numeralLimit ∧ (natText 0).length ≤ numeralLimit := by decide
  have hint : ∀ i, (Value.object awkward).Part (.int i) →
      (natText i.natAbs).length ≤ numeralLimit := by
    simpa [awkward, Value.object, Value.part_map, Value.part_list, Value.part_scalar] using hlength
  exact ⟨decode_document hfinite hint none (by decide),
    decode_document hfinite hint (some .json) (by decide)⟩

end Document

end ApiContract
