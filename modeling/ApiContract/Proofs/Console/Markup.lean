import ApiContract.Console.Markup
import Mathlib.Data.List.TakeWhile

/-!
# What markup does to a text

Between tags a text is shown without the backslashes that stand in front of brackets, with emoji in place
of their names and without controls; its tags are dropped. Each of these takes something away that has a
`weight`, and nothing that has one is added, so that a text is shown as it is, up to blanks, exactly if
none of them applies: `IsPlain.ink_visible`, `isPlain_or_lighter` and `untagged_or_lighter`.
-/

namespace ApiContract.Markup

open Text

variable {text rest tag after : List Char} {fuel : Nat}

/-! ## Weight -/

/-- What a character counts for that markup may take away: a backslash twice, since one of two may stay,
and a character that is never added once. -/
def heft (c : Char) : Nat :=
  if c = '\\' then 2 else if c = '[' ∨ c = ':' ∨ c = '\x07' ∨ c = '\x08' then 1 else 0

def weight : List Char → Nat
  | [] => 0
  | c :: text => heft c + weight text

@[simp]
theorem weight_nil : weight [] = 0 := rfl

@[simp]
theorem weight_cons (c : Char) (text : List Char) : weight (c :: text) = heft c + weight text := rfl

@[simp]
theorem weight_append (text rest : List Char) : weight (text ++ rest) = weight text + weight rest := by
  induction text with
  | nil => simp
  | cons c text ih => simp [ih, Nat.add_assoc]

theorem weight_slashes (n : Nat) : weight (List.replicate n '\\') = 2 * n := by
  induction n with
  | zero => rfl
  | succ n ih =>
    rw [List.replicate_succ, weight_cons, ih, show heft '\\' = 2 from rfl]
    omega

theorem weight_eq_zero : weight text = 0 ↔ ∀ c ∈ text, heft c = 0 := by
  induction text with
  | nil => simp
  | cons c text ih => simp [ih]

/-- A text without its blanks. -/
def ink (text : List Char) : List Char := text.filter (!isBlank ·)

theorem heft_of_isBlank {c : Char} (h : isBlank c = true) : heft c = 0 := by
  have hne (d : Char) (hd : isBlank d = false) : c ≠ d := fun heq => by simp [heq, hd] at h
  simp [heft, hne '\\' (by decide), hne '[' (by decide), hne ':' (by decide), hne '\x07' (by decide),
    hne '\x08' (by decide)]

theorem weight_ink (text : List Char) : weight (ink text) = weight text := by
  induction text with
  | nil => rfl
  | cons c text ih =>
    unfold ink at ih ⊢
    cases hc : isBlank c with
    | true => simpa [hc, heft_of_isBlank hc] using ih
    | false => simpa [hc] using ih

theorem ink_append (text rest : List Char) : ink (text ++ rest) = ink text ++ ink rest :=
  List.filter_append ..

theorem ink_expandTabs (text : List Char) : ink (expandTabs text) = ink text := by
  suffices h : ∀ column, ink (expandTabsFrom column text) = ink text from h 0
  intro column
  fun_induction expandTabsFrom column text with
  | case1 => rfl
  | case2 column rest ih =>
    unfold ink at ih ⊢
    rw [List.filter_cons, List.filter_cons, ih]
  | case3 column rest ih =>
    have hspaces : ink (List.replicate (nextStop column - column) ' ') = [] := by
      simp [ink, show isBlank ' ' = true by decide]
    have htab : ink ('\t' :: rest) = ink rest := by simp [ink, show isBlank '\t' = true by decide]
    rw [ink_append, hspaces, htab, List.nil_append, ih]
  | case4 column c rest _ _ ih =>
    unfold ink at ih ⊢
    rw [List.filter_cons, List.filter_cons, ih]

/-- What is the text still, or something lighter. -/
def Lightens (shown text : List Char) : Prop := shown = text ∨ weight shown < weight text

theorem Lightens.le {shown : List Char} (h : Lightens shown text) : weight shown ≤ weight text := by
  rcases h with rfl | h
  · exact Nat.le_refl _
  · exact Nat.le_of_lt h

theorem Lightens.append {shown : List Char} (h : Lightens shown text) (before : List Char) :
    Lightens (before ++ shown) (before ++ text) := by
  rcases h with rfl | h
  · exact .inl rfl
  · refine .inr ?_
    rw [weight_append, weight_append]
    omega

/-! ## Between tags -/

theorem lightens_unescape (text : List Char) : Lightens (unescape text) text := by
  fun_induction unescape text with
  | case1 rest ih =>
    have hrest := ih.le
    refine .inr ?_
    simp only [weight_cons, heft]
    simp
    omega
  | case2 c rest _ ih => exact ih.append [c]
  | case3 => exact .inl rfl

/-- No emoji has a weight. -/
theorem weight_of_mem_table {e : String × List Char} (h : e ∈ Emoji.table) : weight e.2 = 0 := by
  have hcodes : (emojiNames.all fun e => e.1.all fun code => heft (Char.ofNat code) == 0) = true := by
    decide +kernel
  simp only [Emoji.table, List.mem_flatMap, List.mem_map] at h
  obtain ⟨⟨codes, names⟩, hentry, name, -, rfl⟩ := h
  rw [List.all_eq_true] at hcodes
  have hall := hcodes _ hentry
  rw [weight_eq_zero, List.forall_mem_map]
  exact fun code hcode => eq_of_beq (List.all_eq_true.1 hall code hcode)

theorem weight_of_named? {name emoji : List Char} (h : Emoji.named? name = some emoji) :
    weight emoji = 0 := by
  have hselector : weight (Emoji.splitVariant name).2 = 0 := by
    unfold Emoji.splitVariant
    split
    next ending selector hfind =>
      have hmem := List.mem_of_find?_eq_some hfind
      simp only [Emoji.variants, List.mem_cons, Prod.mk.injEq, List.not_mem_nil, or_false] at hmem
      obtain ⟨-, rfl⟩ | ⟨-, rfl⟩ := hmem <;> rfl
    next => rfl
  simp only [Emoji.named?, Option.map_eq_some_iff] at h
  obtain ⟨found, hfound, rfl⟩ := h
  obtain ⟨before, after, htable, -⟩ := List.lookup_eq_some_iff.1 hfound
  have hmem : (_, found) ∈ Emoji.table := htable ▸ List.mem_append_right _ List.mem_cons_self
  rw [weight_append, weight_of_mem_table hmem, hselector]

theorem drop_takeWhile {α : Type} (p : α → Bool) (items : List α) :
    items.drop (items.takeWhile p).length = items.dropWhile p := by
  induction items with
  | nil => rfl
  | cons a items ih =>
    cases h : p a with
    | true => simp [h, ih]
    | false => simp [h]

theorem name?_eq_some {name : List Char} (h : Emoji.name? text = some (name, after)) :
    text = name ++ ':' :: after := by
  simp only [Emoji.name?, drop_takeWhile] at h
  split at h
  next rest hdrop =>
    cases h
    rw [← hdrop, List.takeWhile_append_dropWhile]
  next => cases h

theorem lightens_replaceNames (text : List Char) : Lightens (Emoji.replaceNames text) text := by
  suffices h : ∀ fuel, text.length < fuel → Lightens (Emoji.replaceWithin fuel text) text from
    h _ (Nat.lt_succ_self _)
  intro fuel hfuel
  fun_induction Emoji.replaceWithin fuel text with
  | case1 => exact absurd hfuel (Nat.not_lt_zero _)
  | case2 => exact .inl rfl
  | case3 fuel rest hname ih => exact (ih (Nat.lt_of_succ_lt_succ hfuel)).append [':']
  | case4 fuel rest name after hname ih =>
    obtain rfl := name?_eq_some hname
    have hafter := ih (by simp at hfuel; omega)
    cases hnamed : Emoji.named? name with
    | none => simpa using hafter.append (':' :: name ++ [':'])
    | some emoji =>
      have hle := hafter.le
      refine .inr ?_
      simp [weight_of_named? hnamed, heft]
      omega
  | case5 fuel c rest _ ih => exact (ih (Nat.lt_of_succ_lt_succ hfuel)).append [c]

/-- A text that is shown as it is, up to blanks, if no tag is in it: no bracket has a backslash in front of
it, nothing between colons names an emoji, and no bell and no backspace is in it. -/
structure IsPlain (text : List Char) : Prop where
  unescape_eq : unescape text = text
  replaceNames_eq : Emoji.replaceNames text = text
  bell_notMem : '\x07' ∉ text
  backspace_notMem : '\x08' ∉ text

theorem isBlank_of_isControl {c : Char} (h : isControl c = true) (hbell : c ≠ '\x07')
    (hback : c ≠ '\x08') : isBlank c = true := by
  have hc : c.toNat ∈ [0x07, 0x08, 0x0b, 0x0c, 0x0d] := by simpa [isControl] using h
  rw [← Char.ofNat_toNat c] at hbell hback ⊢
  simp only [List.mem_cons, List.not_mem_nil, or_false] at hc
  rcases hc with hc | hc | hc | hc | hc <;> rw [hc] at hbell hback ⊢
  · exact absurd rfl hbell
  · exact absurd rfl hback
  all_goals decide

theorem IsPlain.ink_visible (h : IsPlain text) : ink (visible text) = ink text := by
  rw [visible, h.unescape_eq, h.replaceNames_eq, ink, ink, List.filter_filter]
  refine List.filter_congr fun c hc => ?_
  cases hcontrol : isControl c with
  | false => simp
  | true =>
    have hblank := isBlank_of_isControl hcontrol (fun heq => h.bell_notMem (heq ▸ hc))
      (fun heq => h.backspace_notMem (heq ▸ hc))
    simp [hblank]

theorem weight_filter_le (p : Char → Bool) (text : List Char) :
    weight (text.filter p) ≤ weight text := by
  induction text with
  | nil => exact Nat.le_refl _
  | cons c text ih =>
    cases hc : p c <;> simp only [List.filter_cons, hc, if_true, weight_cons]
    · simp
      omega
    · omega

/-- A character with a weight that is filtered out makes a text lighter. -/
theorem weight_filter_lt {p : Char → Bool} {c : Char} (h : c ∈ text) (hc : p c = false)
    (hheft : 0 < heft c) : weight (text.filter p) < weight text := by
  obtain ⟨before, after, rfl⟩ := List.append_of_mem h
  have hbefore := weight_filter_le p before
  have hafter := weight_filter_le p after
  simp only [List.filter_append, List.filter_cons, hc, weight_append, weight_cons]
  simp
  omega

theorem weight_visible_le (text : List Char) : weight (visible text) ≤ weight text :=
  Nat.le_trans (weight_filter_le _ _)
    (Nat.le_trans (lightens_replaceNames _).le (lightens_unescape text).le)

/-- What is not shown as it is gets lighter. -/
theorem isPlain_or_lighter (text : List Char) :
    IsPlain text ∨ weight (visible text) < weight text := by
  have hfilter := weight_filter_le (!isControl ·) (Emoji.replaceNames (unescape text))
  rcases lightens_unescape text with hescape | hlt
  · rw [hescape] at hfilter
    rcases lightens_replaceNames text with hnames | hlt
    · rw [visible, hescape, hnames]
      by_cases hbell : '\x07' ∈ text
      · exact .inr (weight_filter_lt hbell (by decide) (by decide))
      by_cases hback : '\x08' ∈ text
      · exact .inr (weight_filter_lt hback (by decide) (by decide))
      exact .inl ⟨hescape, hnames, hbell, hback⟩
    · exact .inr (by rw [visible, hescape]; omega)
  · have hle := (lightens_replaceNames (unescape text)).le
    exact .inr (by rw [visible]; omega)

/-! ## Tags -/

/-- What may stand between the brackets of a tag. -/
def IsTag (tag : List Char) : Prop :=
  ∃ c inside, tag = c :: inside ∧ startsTag c = true ∧ ∀ d ∈ inside, d ≠ '[' ∧ d ≠ ']'

theorem IsTag.notMem (h : IsTag tag) : '[' ∉ tag ∧ ']' ∉ tag := by
  obtain ⟨c, inside, rfl, hc, hinside⟩ := h
  have hne (d : Char) (hd : startsTag d = false) : c ≠ d := fun heq => by simp [heq, hd] at hc
  have hopen := hne '[' (by decide)
  have hclose := hne ']' (by decide)
  simp only [List.mem_cons, not_or]
  exact ⟨⟨hopen.symm, fun h => (hinside _ h).1 rfl⟩, hclose.symm, fun h => (hinside _ h).2 rfl⟩

theorem tag?_eq_some : tag? text = some (tag, after) ↔ IsTag tag ∧ text = tag ++ ']' :: after := by
  constructor
  · intro h
    cases text with
    | nil => cases h
    | cons c rest =>
      simp only [tag?, drop_takeWhile] at h
      split at h
      next hc hdrop =>
        cases h
        refine ⟨⟨c, _, rfl, hc, fun d hd => ?_⟩, ?_⟩
        · simpa using List.mem_takeWhile_imp hd
        · rw [List.cons_append, ← hdrop, List.takeWhile_append_dropWhile]
      next => cases h
  · rintro ⟨⟨c, inside, rfl, hc, hinside⟩, rfl⟩
    have hstop : ∀ d ∈ inside, (d != '[' && d != ']') = true := by simpa using hinside
    simp [tag?, hc, List.takeWhile_append_of_pos hstop]

/-- The text from the backslashes in front of a tag on. -/
def Match.found (m : Match) : List Char :=
  List.replicate m.slashes '\\' ++ '[' :: (m.tag ++ ']' :: m.after)

/-- The tag that starts a text, with the backslashes in front of it. -/
def opening? (text : List Char) : Option Match :=
  let slashes := text.takeWhile (· == '\\')
  match text.drop slashes.length with
  | '[' :: inside => (tag? inside).map fun (tag, after) => ⟨[], slashes.length, tag, after⟩
  | _ => none

theorem firstTag?_cons (c : Char) (rest : List Char) :
    firstTag? (c :: rest) =
      (opening? (c :: rest)).or
        ((firstTag? rest).map fun m => { m with before := c :: m.before }) := by
  rw [firstTag?, opening?]
  generalize (c :: rest).takeWhile (· == '\\') = slashes
  dsimp only
  generalize (c :: rest).drop slashes.length = behind
  split
  next tag after h =>
    split at h
    next inside => simp [h]
    next => cases h
  next h =>
    split at h
    next inside => simp [h]
    next => simp

theorem opening?_eq_some {m : Match} :
    opening? text = some m ↔ m.before = [] ∧ IsTag m.tag ∧ text = m.found := by
  have htake (n : Nat) (rest : List Char) :
      (List.replicate n '\\' ++ '[' :: rest).takeWhile (· == '\\') = List.replicate n '\\' := by
    rw [List.takeWhile_append_of_pos (by simp)]
    simp
  constructor
  · intro h
    simp only [opening?, drop_takeWhile] at h
    split at h
    next inside hdrop =>
      obtain ⟨⟨tag, after⟩, hinside, rfl⟩ := Option.map_eq_some_iff.1 h
      obtain ⟨htag, rfl⟩ := tag?_eq_some.1 hinside
      refine ⟨rfl, htag, ?_⟩
      have hslashes : text.takeWhile (· == '\\') =
          List.replicate (text.takeWhile (· == '\\')).length '\\' := by
        rw [List.eq_replicate_iff]
        exact ⟨rfl, fun c hc => by simpa using List.mem_takeWhile_imp hc⟩
      rw [Match.found, ← hslashes, ← hdrop, List.takeWhile_append_dropWhile]
    next => cases h
  · rintro ⟨hbefore, htag, rfl⟩
    obtain ⟨before, slashes, tag, after⟩ := m
    obtain rfl : before = [] := hbefore
    have htag : tag? (tag ++ ']' :: after) = some (tag, after) := tag?_eq_some.2 ⟨htag, rfl⟩
    simp [opening?, Match.found, htake, htag]

/-- No tag starts with a character that is neither a bracket nor a backslash. -/
theorem opening?_cons {c : Char} (hslash : c ≠ '\\') (hbracket : c ≠ '[') (rest : List Char) :
    opening? (c :: rest) = none := by
  rw [Option.eq_none_iff_forall_ne_some]
  intro m h
  obtain ⟨-, -, heq⟩ := opening?_eq_some.1 h
  rw [Match.found] at heq
  cases hslashes : m.slashes with
  | zero =>
    rw [hslashes] at heq
    exact hbracket (List.cons.inj heq).1
  | succ n =>
    rw [hslashes, List.replicate_succ] at heq
    exact hslash (List.cons.inj heq).1

theorem opening?_append {m : Match} (h : opening? text = some m) (rest : List Char) :
    opening? (text ++ rest) = some { m with after := m.after ++ rest } := by
  obtain ⟨hbefore, htag, rfl⟩ := opening?_eq_some.1 h
  exact opening?_eq_some.2 ⟨hbefore, htag, by simp [Match.found]⟩

/-- What the first tag of a text is found in. -/
theorem text_of_firstTag? {m : Match} (h : firstTag? text = some m) :
    IsTag m.tag ∧ text = m.before ++ m.found := by
  induction text generalizing m with
  | nil => cases h
  | cons c rest ih =>
    rw [firstTag?_cons, Option.or_eq_some_iff] at h
    obtain h | ⟨-, h⟩ := h
    · obtain ⟨hbefore, htag, htext⟩ := opening?_eq_some.1 h
      exact ⟨htag, by rw [hbefore, htext, List.nil_append]⟩
    · obtain ⟨m, hm, rfl⟩ := Option.map_eq_some_iff.1 h
      obtain ⟨htag, htext⟩ := ih hm
      exact ⟨htag, by rw [List.cons_append, htext]; rfl⟩

theorem firstTag?_ne_none (h : IsTag tag) (before after : List Char) :
    firstTag? (before ++ '[' :: (tag ++ ']' :: after)) ≠ none := by
  induction before with
  | nil =>
    have hopening : opening? ('[' :: (tag ++ ']' :: after)) = some ⟨[], 0, tag, after⟩ :=
      opening?_eq_some.2 ⟨rfl, h, rfl⟩
    simp [firstTag?_cons, hopening]
  | cons c before ih =>
    rw [List.cons_append, firstTag?_cons, Ne, Option.or_eq_none_iff, Option.map_eq_none_iff]
    exact fun h => ih h.2

/-- No tag stands before the first one, and no backslash right before its backslashes. -/
theorem before_of_firstTag? {m : Match} (h : firstTag? text = some m) :
    firstTag? m.before = none ∧ m.before.getLast? ≠ some '\\' := by
  induction text generalizing m with
  | nil => cases h
  | cons c rest ih =>
    rw [firstTag?_cons, Option.or_eq_some_iff] at h
    obtain h | ⟨hnone, h⟩ := h
    · rw [(opening?_eq_some.1 h).1]
      exact ⟨rfl, nofun⟩
    obtain ⟨m, hm, rfl⟩ := Option.map_eq_some_iff.1 h
    obtain ⟨hbefore, hlast⟩ := ih hm
    obtain ⟨htag, htext⟩ := text_of_firstTag? hm
    constructor
    · rw [firstTag?_cons, hbefore, Option.map_none, Option.or_none]
      by_contra hsome
      obtain ⟨m', hm'⟩ := Option.ne_none_iff_exists'.1 hsome
      rw [htext, ← List.cons_append, opening?_append hm'] at hnone
      cases hnone
    · cases hend : m.before with
      | nil =>
        -- a backslash here would be one of those in front of the tag
        intro hc
        obtain rfl : c = '\\' := by simpa using hc
        rw [hend, List.nil_append] at htext
        have hopening : opening? ('\\' :: rest) = some ⟨[], m.slashes + 1, m.tag, m.after⟩ :=
          opening?_eq_some.2 ⟨rfl, htag, by rw [htext]; rfl⟩
        rw [hopening] at hnone
        cases hnone
      | cons d before => simpa [hend] using hlast

/-! ## All parts -/

/-- What is seen of a part. -/
def Part.seen : Part → List Char
  | .plain text => visible text
  | .tag _ => []

/-- What is seen of a text, with fuel for each of its tags. -/
def seen (fuel : Nat) (text : List Char) : List Char := (partsWithin fuel text).flatMap Part.seen

theorem seen_of_none (h : firstTag? text = none) : seen (fuel + 1) text = visible text := by
  simp [seen, partsWithin, h, Part.seen]

theorem seen_of_some (fuel : Nat) {m : Match} (h : firstTag? text = some m) :
    seen (fuel + 1) text =
      visible m.before ++
        (visible (List.replicate (m.slashes / 2) '\\') ++ (m.part.seen ++ seen fuel m.after)) := by
  simp [seen, partsWithin, h, Part.seen]

/-- One of two backslashes stays, and a tag does behind an odd number of them. -/
theorem weight_part_le (m : Match) :
    weight (visible (List.replicate (m.slashes / 2) '\\')) + weight m.part.seen ≤
      2 * (m.slashes / 2) + (m.slashes % 2) * (1 + weight m.tag) := by
  have hslashes := weight_visible_le (List.replicate (m.slashes / 2) '\\')
  rw [weight_slashes] at hslashes
  have hpart : weight m.part.seen ≤ (m.slashes % 2) * (1 + weight m.tag) := by
    unfold Match.part
    split
    next hodd =>
      have hle := weight_visible_le ('[' :: m.tag ++ [']'])
      simpa [Part.seen, hodd, heft] using hle
    next => exact Nat.zero_le _
  omega

/-- What is seen of a text with a tag in it is lighter than the text, if what is seen behind the tag is no
heavier than what stands there. -/
theorem weight_seen_lt {m : Match} (h : firstTag? text = some m) (hafter : weight (seen fuel m.after) ≤
      weight after) :
    weight (seen (fuel + 1) text) < weight (m.before ++ Match.found { m with after := after }) := by
  have hbefore := weight_visible_le m.before
  have hpart := weight_part_le m
  rw [seen_of_some fuel h]
  simp only [Match.found, weight_append, weight_cons, weight_slashes]
  rcases Nat.mod_two_eq_zero_or_one m.slashes with hmod | hmod <;> rw [hmod] at hpart <;>
    simp only [heft] <;> simp <;> omega

/-- Where a tag or nothing ends what is written around a text. -/
def IsEnd (ending : List Char) : Prop :=
  ending = [] ∨ ∃ tag, IsTag tag ∧ weight tag = 0 ∧ ending = '[' :: (tag ++ [']'])

/-- A text without tags that does not take the tag behind it for its own. -/
def Untagged (text ending : List Char) : Prop :=
  firstTag? text = none ∧ (ending = [] ∨ text.getLast? ≠ some '\\')

theorem append_cons_inj {α : Type} {a : α} {before before' after after' : List α} (h : a ∉ after)
    (h' : a ∉ after') (heq : before ++ a :: after = before' ++ a :: after') :
    before = before' ∧ after = after' := by
  rw [List.append_eq_append_iff] at heq
  obtain ⟨s, rfl, hs⟩ | ⟨s, rfl, hs⟩ := heq
  · cases s with
    | nil => exact ⟨by simp, (List.cons.inj hs).2⟩
    | cons b s => exact absurd (by simp [(List.cons.inj hs).2]) h
  · cases s with
    | nil => exact ⟨by simp, (List.cons.inj hs).2.symm⟩
    | cons b s => exact absurd (by simp [(List.cons.inj hs).2]) h'

/-- The first tag of a text with another tag at its end lies in the text, or it is the one at the end. -/
theorem firstTag?_append_tag (h : IsTag tag) (text : List Char) :
    ∃ m, firstTag? (text ++ '[' :: (tag ++ [']'])) = some m ∧
      ((∃ rest, m.after = rest ++ '[' :: (tag ++ [']']) ∧
          text = m.before ++ Match.found { m with after := rest }) ∨
        m.after = [] ∧ text = m.before ++ List.replicate m.slashes '\\' ∧ m.tag = tag) := by
  obtain ⟨m, hm⟩ := Option.ne_none_iff_exists'.1 (firstTag?_ne_none h text [])
  refine ⟨m, hm, ?_⟩
  obtain ⟨htag, htext⟩ := text_of_firstTag? hm
  have hsplit : text ++ '[' :: (tag ++ [']']) =
      (m.before ++ (List.replicate m.slashes '\\' ++ '[' :: (m.tag ++ [']']))) ++ m.after := by
    rw [htext]
    simp [Match.found]
  rw [List.append_eq_append_iff] at hsplit
  obtain ⟨cut, hbefore, hcut⟩ | ⟨rest, hbefore, hafter⟩ := hsplit
  · cases cut with
    | nil => exact .inl ⟨[], hcut.symm, by simp [Match.found, hbefore]⟩
    | cons c cut =>
      obtain ⟨rfl, htail⟩ := List.cons.inj hcut
      have htail : tag ++ [']'] = cut ++ m.after := htail
      by_cases hafter : m.after = []
      · rw [hafter, List.append_nil] at htail
        rw [← htail, ← List.append_assoc, ← List.cons_append, ← List.cons_append, ← List.append_assoc,
          ← List.append_assoc] at hbefore
        obtain ⟨heq, htags⟩ :=
          append_cons_inj htag.notMem.1 h.notMem.1 (List.append_cancel_right hbefore)
        exact .inr ⟨hafter, heq.symm, htags⟩
      · -- the bracket that closes the tag would stand inside the other one
        have hin : tag = cut ++ m.after.dropLast := by
          have hdrop := congrArg List.dropLast htail
          rwa [List.dropLast_concat, List.dropLast_append_of_ne_nil hafter] at hdrop
        obtain ⟨front, d, hlast⟩ := (List.eq_nil_or_concat ('[' :: cut)).resolve_left nofun
        rw [List.concat_eq_append] at hlast
        rw [hlast, ← List.cons_append, ← List.append_assoc, ← List.append_assoc,
          ← List.append_assoc] at hbefore
        obtain rfl : ']' = d := by simpa using (List.append_inj' hbefore rfl).2
        have hmem : ']' ∈ '[' :: cut := by simp [hlast]
        rcases List.mem_cons.1 hmem with heq | hmem
        · cases heq
        · exact absurd (hin ▸ List.mem_append_left _ hmem) h.notMem.2
  · exact .inl ⟨rest, hafter, by simp [Match.found, hbefore]⟩

/-- The one tag behind a text that has none of its own. -/
theorem firstTag?_of_untagged (h : IsTag tag) (htext : Untagged text ('[' :: (tag ++ [']']))) :
    firstTag? (text ++ '[' :: (tag ++ [']'])) = some ⟨text, 0, tag, []⟩ := by
  obtain ⟨hnone, hlast⟩ := htext
  obtain ⟨m, hm, hcases⟩ := firstTag?_append_tag h text
  obtain ⟨rest, -, rfl⟩ | ⟨hafter, rfl, htag⟩ := hcases
  · rw [Match.found, ← List.append_assoc] at hnone
    exact absurd hnone (firstTag?_ne_none (text_of_firstTag? hm).1 _ _)
  · cases hslashes : m.slashes with
    | zero =>
      rw [hslashes, List.replicate_zero, List.append_nil] at hm
      rw [List.replicate_zero, List.append_nil, hm, ← hslashes, ← hafter, ← htag]
    | succ n => simp [hslashes, List.getLast?_append, List.getLast?_replicate] at hlast

theorem seen_nil (fuel : Nat) : seen fuel [] = [] := by
  cases fuel <;> rfl

/-- Without tags of its own a text is what is seen of it; with one, what is seen of it is lighter. -/
theorem untagged_or_lighter {ending : List Char} (hend : IsEnd ending)
    (hfuel : (text ++ ending).length < fuel) :
    Untagged text ending ∧ seen fuel (text ++ ending) = visible text ∨
      weight (seen fuel (text ++ ending)) < weight text := by
  induction fuel generalizing text with
  | zero => exact absurd hfuel (Nat.not_lt_zero _)
  | succ fuel ih =>
    -- a tag inside the text: what is seen behind it is bounded by what is left of the text
    have hinside (m : Match) (rest : List Char) (hm : firstTag? (text ++ ending) = some m)
        (hafter : m.after = rest ++ ending)
        (htext : text = m.before ++ Match.found { m with after := rest }) :
        weight (seen (fuel + 1) (text ++ ending)) < weight text := by
      have hlength : (rest ++ ending).length < fuel := by
        rw [htext] at hfuel
        simp only [Match.found, List.length_append, List.length_cons] at hfuel ⊢
        omega
      have hrest : weight (seen fuel m.after) ≤ weight rest := by
        rw [hafter]
        rcases ih hlength with ⟨-, hseen⟩ | hlt
        · exact hseen ▸ weight_visible_le rest
        · exact Nat.le_of_lt hlt
      rw [htext] at hm ⊢
      exact weight_seen_lt hm hrest
    obtain rfl | ⟨tag, htag, hweight, rfl⟩ := hend
    · rw [List.append_nil] at hinside ⊢
      cases hm : firstTag? text with
      | none => exact .inl ⟨⟨hm, .inl rfl⟩, seen_of_none hm⟩
      | some m =>
        exact .inr (hinside m m.after hm (List.append_nil _).symm (text_of_firstTag? hm).2)
    · obtain ⟨m, hm, hcases⟩ := firstTag?_append_tag htag text
      obtain ⟨rest, hafter, htext⟩ | ⟨hafter, htext, htags⟩ := hcases
      · exact .inr (hinside m rest hm hafter htext)
      have hseen := seen_of_some fuel hm
      rw [hafter, seen_nil, List.append_nil] at hseen
      obtain ⟨hbefore, hlast⟩ := before_of_firstTag? hm
      rcases Nat.eq_zero_or_pos m.slashes with hzero | hpos
      · rw [hzero, List.replicate_zero, List.append_nil] at htext
        refine .inl ⟨⟨htext ▸ hbefore, .inr (htext ▸ hlast)⟩, ?_⟩
        rw [hseen, hzero, htext]
        simp [Match.part, hzero, Part.seen, show visible [] = [] from rfl]
      · have hle := weight_visible_le m.before
        have hpart := weight_part_le m
        rw [htags, hweight] at hpart
        refine .inr ?_
        rw [hseen, htext]
        simp only [weight_append, weight_slashes]
        omega

end ApiContract.Markup
