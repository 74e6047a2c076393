import ApiContract.Console.Basic
import ApiContract.Proofs.Console.Markup

/-!
# Notices with and without colour

A notice without colour is its text; with colour its text is part of a marked one. `agrees_iff` says for
which notices the two come to the same, up to blanks: for those whose text no markup applies to.
-/

namespace ApiContract

open Text

namespace Markup

variable {name text : List Char} {fuel : Nat}

namespace Progress

variable {p q : Progress}

theorem text_of_close {t : OpenTag} (h : p.close t = some q) : q.text = p.text := by
  unfold close at h
  split at h
  · split at h <;> cases h
    rfl
  · cases h
    rfl

theorem text_of_addTag? {t : Tag} (h : p.addTag? t = some q) : q.text = p.text := by
  unfold addTag? at h
  split at h
  next name =>
    dsimp only at h
    split at h
    next =>
      split at h
      · cases h
      · have hq := text_of_close h
        exact hq
    next =>
      obtain ⟨_, -, h⟩ := Option.bind_eq_some_iff.1 h
      obtain ⟨_, -, h⟩ := Option.bind_eq_some_iff.1 h
      have hq := text_of_close h
      exact hq
  next =>
    obtain ⟨_, -, h⟩ := Option.bind_eq_some_iff.1 h
    cases h
    rfl

/-- The text grows by what is seen of each part. -/
theorem text_of_foldlM {parts : List Part} (h : parts.foldlM addPart? p = some q) :
    q.text = p.text ++ parts.flatMap Part.seen := by
  induction parts generalizing p with
  | nil =>
    cases h
    simp
  | cons part parts ih =>
    obtain ⟨next, hnext, h⟩ := Option.bind_eq_some_iff.1 (List.foldlM_cons.symm.trans h)
    rw [ih h]
    cases part with
    | plain text =>
      cases hnext
      simp [Part.seen]
    | tag t => simp [text_of_addTag? hnext, Part.seen]

end Progress

/-- What is shown of a marked text is what is seen of it, up to blanks. -/
theorem ink_shown? {marked s : String} (h : shown? marked = some s) :
    ink s.toList = ink ((parts marked.toList).flatMap Part.seen) := by
  obtain ⟨p, hp, h⟩ := Option.bind_eq_some_iff.1 h
  split at h
  · cases h
    simp [ink_expandTabs, Progress.text_of_foldlM hp]
  · cases h

/-! ## Tags of a style -/

/-- A tag behind a text without brackets and backslashes. -/
theorem firstTag?_append {before rest tag : List Char} (h : IsTag tag)
    (hbracket : '[' ∉ before) (hslash : '\\' ∉ before) :
    firstTag? (before ++ '[' :: (tag ++ ']' :: rest)) = some ⟨before, 0, tag, rest⟩ := by
  induction before with
  | nil =>
    have hopening : opening? ('[' :: (tag ++ ']' :: rest)) = some ⟨[], 0, tag, rest⟩ :=
      opening?_eq_some.2 ⟨rfl, h, rfl⟩
    rw [List.nil_append, firstTag?_cons, hopening, Option.some_or]
  | cons c before ih =>
    rw [List.mem_cons, not_or] at hbracket hslash
    rw [List.cons_append, firstTag?_cons, opening?_cons (Ne.symm hslash.1) (Ne.symm hbracket.1),
      ih hbracket.2 hslash.2]
    rfl

/-- The parts of a text up to a tag, and those behind it with fuel enough. -/
theorem partsWithin_append (before : List Char) {rest tag : List Char} (h : IsTag tag)
    (hbracket : '[' ∉ before) (hslash : '\\' ∉ before)
    (hfuel : (before ++ '[' :: (tag ++ ']' :: rest)).length < fuel) :
    ∃ left, rest.length < left ∧ partsWithin fuel (before ++ '[' :: (tag ++ ']' :: rest)) =
      .plain before :: .plain [] :: .tag (.ofText tag) :: partsWithin left rest := by
  obtain ⟨fuel, rfl⟩ := Nat.exists_eq_add_one.2 (Nat.zero_lt_of_lt hfuel)
  simp only [List.length_append, List.length_cons] at hfuel
  refine ⟨fuel, by omega, ?_⟩
  simp [partsWithin, firstTag?_append h hbracket hslash, Match.part]

theorem partsWithin_of_none (h : firstTag? text = none) (hfuel : text.length < fuel) :
    partsWithin fuel text = [.plain text] := by
  obtain ⟨fuel, rfl⟩ := Nat.exists_eq_add_one.2 (Nat.zero_lt_of_lt hfuel)
  rw [partsWithin, h]

theorem partsWithin_of_untagged {tag : List Char} (h : IsTag tag)
    (htext : Untagged text ('[' :: (tag ++ [']'])))
    (hfuel : (text ++ '[' :: (tag ++ [']'])).length < fuel) :
    partsWithin fuel (text ++ '[' :: (tag ++ [']'])) =
      [.plain text, .plain [], .tag (.ofText tag), .plain []] := by
  obtain ⟨fuel, rfl⟩ := Nat.exists_eq_add_one.2 (Nat.zero_lt_of_lt hfuel)
  simp only [List.length_append, List.length_cons] at hfuel
  have hleft : partsWithin fuel [] = [.plain []] :=
    partsWithin_of_none rfl (show List.length [] < fuel by rw [List.length_nil]; omega)
  rw [partsWithin, firstTag?_of_untagged h htext]
  simp [Match.part, hleft]

/-- The names of the styles of notices. -/
def styleNames : List String := ["green", "yellow", "bold red", "dim"]

/-- The name of a style that a tag opens and another one closes. -/
structure IsStyle (name : List Char) : Prop where
  opens : IsTag name ∧ Tag.ofText name = ⟨name, none⟩
  closes : IsTag ('/' :: name) ∧ Tag.ofText ('/' :: name) = ⟨'/' :: name, none⟩
  head : name.head? ≠ some '/' ∧ name.head? ≠ some '@'
  strip_eq : strip name = name
  normal : Progress.normalName? name = some name
  readable : Progress.isReadable ⟨name, 0, 0⟩ = true

theorem addTag?_open (h : IsStyle name) (p : Progress) :
    p.addTag? (.ofText name) =
      some { p with opened := ⟨⟨name, none⟩, p.text.length⟩ :: p.opened } := by
  rw [h.opens.2, Progress.addTag?]
  split
  next heq => exact absurd (by rw [show name = _ from heq]; rfl) h.head.1
  next => simp [h.normal]

theorem addTag?_close (h : IsStyle name) {p : Progress} {start : Nat} {others : List OpenTag}
    (hopened : p.opened = ⟨⟨name, none⟩, start⟩ :: others) :
    p.addTag? (.ofText ('/' :: name)) =
      some { p with opened := others, spans := ⟨name, start, p.text.length⟩ :: p.spans } := by
  have hne : name.isEmpty = false := by
    obtain ⟨c, inside, rfl, -, -⟩ := h.opens.1
    rfl
  have hhandler : Tag.isHandler ⟨name, none⟩ = false := by
    simp [Tag.isHandler, h.head.2]
  simp [h.closes.2, Progress.addTag?, h.strip_eq, hne, h.normal, hopened, Progress.close, hhandler,
    Tag.style]

/-- A text between two tags of a style and one behind them can be added, and the style can be read. -/
theorem exists_foldlM_styled (h : IsStyle name) (inside behind : List Char) :
    ∃ p, [.plain [], .plain [], .tag (.ofText name), .plain inside, .plain [],
        .tag (.ofText ('/' :: name)), .plain behind].foldlM Progress.addPart? {} = some p ∧
      ∀ s ∈ p.allSpans, Progress.isReadable s = true := by
  have hnil : visible [] = [] := rfl
  refine ⟨⟨visible inside ++ visible behind, [], [⟨name, 0, (visible inside).length⟩]⟩, ?_, ?_⟩
  · simp only [List.foldlM_cons, List.foldlM_nil, Progress.addPart?, addTag?_open h,
      Option.bind_eq_bind, Option.bind_some, hnil, List.append_nil, List.nil_append]
    rw [addTag?_close h rfl]
    rfl
  · simp only [Progress.allSpans, List.map_nil, List.nil_append, List.mem_singleton]
    rintro s rfl
    exact h.readable

/-! ## Plain characters -/

theorem ne_of_heft {c : Char} (h : heft c = 0) :
    c ≠ '\\' ∧ c ≠ '[' ∧ c ≠ ':' ∧ c ≠ '\x07' ∧ c ≠ '\x08' := by
  refine ⟨?_, ?_, ?_, ?_, ?_⟩ <;> rintro rfl <;> revert h <;> decide

theorem firstTag?_cons_of_heft {c : Char} (h : heft c = 0) :
    firstTag? (c :: text) = none ↔ firstTag? text = none := by
  obtain ⟨hslash, hbracket, -⟩ := ne_of_heft h
  rw [firstTag?_cons, opening?_cons hslash hbracket, Option.none_or, Option.map_eq_none_iff]

theorem untagged_cons {c : Char} (h : heft c = 0) {ending : List Char} :
    Untagged (c :: text) ending ↔ Untagged text ending := by
  have hlast : (c :: text).getLast? ≠ some '\\' ↔ text.getLast? ≠ some '\\' := by
    cases text with
    | nil => simpa using (ne_of_heft h).1
    | cons d text => simp
  rw [Untagged, Untagged, firstTag?_cons_of_heft h, hlast]

theorem isPlain_cons {c : Char} (h : heft c = 0) : IsPlain (c :: text) ↔ IsPlain text := by
  obtain ⟨hslash, -, hcolon, hbell, hback⟩ := ne_of_heft h
  have hescape : unescape (c :: text) = c :: unescape text := by
    rw [unescape]
    exact fun _ heq => absurd heq hslash
  have hnames : Emoji.replaceNames (c :: text) = c :: Emoji.replaceNames text := by
    rw [Emoji.replaceNames, List.length_cons, Emoji.replaceWithin]
    · rfl
    · exact fun heq => hcolon heq
  constructor
  · intro h
    exact ⟨(List.cons.inj (hescape.symm.trans h.unescape_eq)).2,
      (List.cons.inj (hnames.symm.trans h.replaceNames_eq)).2,
      fun hc => h.bell_notMem (List.mem_cons_of_mem _ hc),
      fun hc => h.backspace_notMem (List.mem_cons_of_mem _ hc)⟩
  · intro h
    refine ⟨by rw [hescape, h.unescape_eq], by rw [hnames, h.replaceNames_eq], ?_, ?_⟩
    · simpa [Ne.symm hbell] using h.bell_notMem
    · simpa [Ne.symm hback] using h.backspace_notMem

/-! ## Shown texts -/

/-- A text is shown if its parts can be added and no span that they leave is of a style with a numeral
that cannot be read. -/
theorem exists_shown? {marked : String} {p : Progress}
    (h : (parts marked.toList).foldlM Progress.addPart? {} = some p)
    (hspans : ∀ s ∈ p.allSpans, Progress.isReadable s = true) : ∃ s, shown? marked = some s := by
  refine ⟨String.ofList (expandTabs p.text), ?_⟩
  simp only [shown?, h, Option.bind_eq_bind, Option.bind_some]
  exact if_pos (List.all_eq_true.2 fun s hs => by simp [hspans s hs])

theorem isTag_of_all {tag : List Char}
    (h : (tag.head?.any startsTag && tag.tail.all fun d => d != '[' && d != ']') = true) : IsTag tag := by
  cases tag with
  | nil => cases h
  | cons c inside => exact ⟨c, inside, rfl, by simpa using h⟩

theorem isStyle_of_mem {name : String} (h : name ∈ styleNames) : IsStyle name.toList := by
  simp only [styleNames, List.mem_cons, List.not_mem_nil, or_false] at h
  rcases h with rfl | rfl | rfl | rfl
  all_goals exact
    { opens := ⟨isTag_of_all (by decide), rfl⟩
      closes := ⟨isTag_of_all (by decide), rfl⟩
      head := by decide
      strip_eq := by decide
      normal := by decide +kernel
      readable := by decide +kernel }

end Markup

namespace Notice

open Markup

/-- The message of a notice. -/
def text : Notice → String
  | info text | success text | warning text | error text | suggestion text => text

/-- What stands before the message, in a style of its own. -/
def label : Notice → List Char
  | warning _ => "Warning:".toList
  | error _ => "Error:".toList
  | _ => []

/-- The message with what stands in front of it in the same style. -/
def body : Notice → List Char
  | info text | success text => text.toList
  | warning text | error text => ' ' :: text.toList
  | suggestion text => '→' :: ' ' :: text.toList

/-- What ends the style of a message. -/
def ending : Notice → List Char
  | success _ => "[/green]".toList
  | suggestion _ => "[/dim]".toList
  | _ => []

/-- The parts behind the message. -/
def closing : Notice → List Part
  | success _ => [.plain [], .tag (.ofText "/green".toList), .plain []]
  | suggestion _ => [.plain [], .tag (.ofText "/dim".toList), .plain []]
  | _ => []

/-- The parts in front of the message. -/
def front : Notice → List Part
  | info _ => []
  | success _ => [.plain [], .plain [], .tag (.ofText "green".toList)]
  | warning _ =>
    [.plain [], .plain [], .tag (.ofText "yellow".toList), .plain "Warning:".toList, .plain [],
      .tag (.ofText "/yellow".toList)]
  | error _ =>
    [.plain [], .plain [], .tag (.ofText "bold red".toList), .plain "Error:".toList, .plain [],
      .tag (.ofText "/bold red".toList)]
  | suggestion _ => [.plain [], .plain [], .tag (.ofText "dim".toList)]

variable (n : Notice)

theorem toList_plain : n.plain.toList = n.label ++ n.body := by
  cases n with
  | info text | success text => rfl
  | warning text =>
    have hlabel : "Warning: ".toList = "Warning:".toList ++ [' '] := by decide +kernel
    rw [plain, String.toList_append, hlabel, List.append_assoc]
    rfl
  | error text =>
    have hlabel : "Error: ".toList = "Error:".toList ++ [' '] := by decide +kernel
    rw [plain, String.toList_append, hlabel, List.append_assoc]
    rfl
  | suggestion text =>
    have hlabel : "→ ".toList = ['→', ' '] := by decide +kernel
    rw [plain, String.toList_append, hlabel]
    rfl

theorem isEnd_ending : IsEnd n.ending := by
  cases n with
  | success text =>
    exact .inr ⟨"/green".toList, isTag_of_all (by decide), by decide, rfl⟩
  | suggestion text => exact .inr ⟨"/dim".toList, isTag_of_all (by decide), by decide, rfl⟩
  | info text | warning text | error text => exact .inl rfl

theorem seen_front : n.front.flatMap Part.seen = n.label := by
  cases n <;> rfl

/-- A marked text in a style. -/
theorem parts_styled {name marked : String} {rest : List Char} (h : name ∈ styleNames)
    (hmarked : marked.toList = '[' :: (name.toList ++ ']' :: rest)) :
    ∃ fuel, rest.length < fuel ∧ parts marked.toList =
      [.plain [], .plain [], .tag (.ofText name.toList)] ++ partsWithin fuel rest := by
  rw [hmarked, parts]
  exact partsWithin_append [] (isStyle_of_mem h).opens.1 nofun nofun (Nat.lt_succ_self _)

/-- A marked text with a label in a style. -/
theorem parts_labelled {name marked : String} {inside rest : List Char} (h : name ∈ styleNames)
    (hmarked : marked.toList =
      '[' :: (name.toList ++ ']' :: (inside ++ '[' :: ('/' :: name.toList ++ ']' :: rest))))
    (hbracket : '[' ∉ inside) (hslash : '\\' ∉ inside) :
    ∃ fuel, rest.length < fuel ∧ parts marked.toList =
      [.plain [], .plain [], .tag (.ofText name.toList), .plain inside, .plain [],
        .tag (.ofText ('/' :: name.toList))] ++ partsWithin fuel rest := by
  obtain ⟨fuel, hfuel, hopen⟩ := parts_styled h hmarked
  obtain ⟨left, hleft, hclose⟩ :=
    partsWithin_append inside (isStyle_of_mem h).closes.1 hbracket hslash hfuel
  exact ⟨left, hleft, by rw [hopen, hclose]; rfl⟩

/-- A marked notice begins with the parts in front of its message. -/
theorem parts_markup : ∃ fuel, (n.body ++ n.ending).length < fuel ∧
    parts n.markup.toList = n.front ++ partsWithin fuel (n.body ++ n.ending) := by
  cases n with
  | info text =>
    have hmessage : (info text).body ++ (info text).ending = text.toList := List.append_nil _
    rw [hmessage]
    exact ⟨_, Nat.lt_succ_self _, rfl⟩
  | success text =>
    refine parts_styled (by decide) ?_
    have hopen : "[green]".toList = '[' :: ("green".toList ++ [']']) := by decide +kernel
    change ("[green]" ++ text ++ "[/green]").toList = _
    rw [String.toList_append, String.toList_append, hopen]
    simp only [List.cons_append, List.append_assoc, List.nil_append]
    rfl
  | warning text =>
    have hmessage : (warning text).body ++ (warning text).ending = ' ' :: text.toList := List.append_nil _
    rw [hmessage]
    refine parts_labelled (by decide) ?_ (by decide) (by decide)
    have hopen : "[yellow]Warning:[/yellow] ".toList = '[' :: ("yellow".toList ++ ']' ::
        ("Warning:".toList ++ '[' :: ('/' :: "yellow".toList ++ ']' :: [' ']))) := by decide +kernel
    change ("[yellow]Warning:[/yellow] " ++ text).toList = _
    rw [String.toList_append, hopen]
    simp only [List.cons_append, List.append_assoc, List.nil_append]
  | error text =>
    have hmessage : (error text).body ++ (error text).ending = ' ' :: text.toList := List.append_nil _
    rw [hmessage]
    refine parts_labelled (by decide) ?_ (by decide) (by decide)
    have hopen : "[bold red]Error:[/bold red] ".toList = '[' :: ("bold red".toList ++ ']' ::
        ("Error:".toList ++ '[' :: ('/' :: "bold red".toList ++ ']' :: [' ']))) := by decide +kernel
    change ("[bold red]Error:[/bold red] " ++ text).toList = _
    rw [String.toList_append, hopen]
    simp only [List.cons_append, List.append_assoc, List.nil_append]
  | suggestion text =>
    refine parts_styled (by decide) ?_
    have hopen : "[dim]→ ".toList = '[' :: ("dim".toList ++ ']' :: ['→', ' ']) := by decide +kernel
    change ("[dim]→ " ++ text ++ "[/dim]").toList = _
    rw [String.toList_append, String.toList_append, hopen]
    simp only [List.cons_append, List.append_assoc, List.nil_append]
    rfl

/-- No markup applies to the message of a notice. -/
structure IsLiteral : Prop where
  untagged : Untagged n.text.toList n.ending
  isPlain : IsPlain n.text.toList

variable {n}

theorem isLiteral_iff : n.IsLiteral ↔ Untagged n.body n.ending ∧ IsPlain n.body := by
  have hspace : heft ' ' = 0 := by decide
  have harrow : heft '→' = 0 := by decide
  cases n with
  | info text | success text => exact ⟨fun h => ⟨h.1, h.2⟩, fun h => ⟨h.1, h.2⟩⟩
  | warning text | error text =>
    rw [body, untagged_cons hspace, isPlain_cons hspace]
    exact ⟨fun h => ⟨h.1, h.2⟩, fun h => ⟨h.1, h.2⟩⟩
  | suggestion text =>
    rw [body, untagged_cons harrow, untagged_cons hspace, isPlain_cons harrow, isPlain_cons hspace]
    exact ⟨fun h => ⟨h.1, h.2⟩, fun h => ⟨h.1, h.2⟩⟩

/-- What is shown of a notice is the label and what is seen of the message. -/
theorem ink_shown {s : String} (h : shown? n.markup = some s) :
    ∃ fuel, (n.body ++ n.ending).length < fuel ∧
      ink s.toList = ink n.label ++ ink (seen fuel (n.body ++ n.ending)) := by
  obtain ⟨fuel, hfuel, hparts⟩ := n.parts_markup
  refine ⟨fuel, hfuel, ?_⟩
  rw [ink_shown? h, hparts, List.flatMap_append, n.seen_front, ink_append, seen]

/-- A notice that is shown as it is says so: no markup applies to it. -/
theorem isLiteral_of_shown {s : String} (h : shown? n.markup = some s)
    (hink : ink s.toList = ink n.plain.toList) : n.IsLiteral := by
  obtain ⟨fuel, hfuel, hseen⟩ := ink_shown h
  rw [hseen, toList_plain, ink_append, List.append_cancel_left_eq] at hink
  have hweight := congrArg weight hink
  rw [weight_ink, weight_ink] at hweight
  rcases untagged_or_lighter n.isEnd_ending hfuel with ⟨huntagged, heq⟩ | hlt
  · rcases isPlain_or_lighter n.body with hplain | hlt
    · exact isLiteral_iff.2 ⟨huntagged, hplain⟩
    · rw [heq] at hweight
      omega
  · omega

/-- The parts of a literal message: the message and what ends its style. -/
theorem partsWithin_body (h : n.IsLiteral) {fuel : Nat} (hfuel : (n.body ++ n.ending).length < fuel) :
    partsWithin fuel (n.body ++ n.ending) = .plain n.body :: n.closing := by
  obtain ⟨huntagged, -⟩ := isLiteral_iff.1 h
  cases n with
  | info text | warning text | error text =>
    change (_ ++ []).length < fuel at hfuel
    change partsWithin fuel (_ ++ []) = [_]
    rw [List.append_nil] at hfuel ⊢
    exact partsWithin_of_none huntagged.1 hfuel
  | success text =>
    have hstyle := isStyle_of_mem (show "green" ∈ styleNames by decide)
    exact partsWithin_of_untagged hstyle.closes.1 huntagged hfuel
  | suggestion text =>
    have hstyle := isStyle_of_mem (show "dim" ∈ styleNames by decide)
    exact partsWithin_of_untagged hstyle.closes.1 huntagged hfuel

/-- A notice that no markup applies to is shown. -/
theorem exists_shown (h : n.IsLiteral) : ∃ s, shown? n.markup = some s := by
  obtain ⟨fuel, hfuel, hparts⟩ := n.parts_markup
  rw [partsWithin_body h hfuel] at hparts
  suffices hfold : ∃ p, (n.front ++ .plain n.body :: n.closing).foldlM Progress.addPart? {} = some p ∧
      ∀ s ∈ p.allSpans, Progress.isReadable s = true by
    obtain ⟨p, hp, hspans⟩ := hfold
    exact exists_shown? (hparts ▸ hp) hspans
  have hstyle {name : String} (h : name ∈ styleNames) := exists_foldlM_styled (isStyle_of_mem h)
  cases n with
  | info text => exact ⟨_, rfl, nofun⟩
  | success text => exact hstyle (by decide) text.toList []
  | warning text => exact hstyle (by decide) "Warning:".toList (' ' :: text.toList)
  | error text => exact hstyle (by decide) "Error:".toList (' ' :: text.toList)
  | suggestion text => exact hstyle (by decide) ('→' :: ' ' :: text.toList) []

theorem ink_of_isLiteral (h : n.IsLiteral) {s : String} (hs : shown? n.markup = some s) :
    ink s.toList = ink n.plain.toList := by
  obtain ⟨fuel, hfuel, hseen⟩ := ink_shown hs
  have hbody : seen fuel (n.body ++ n.ending) = visible n.body := by
    rw [seen, partsWithin_body h hfuel]
    cases n <;> simp [closing, Part.seen, show visible [] = [] from rfl]
  rw [hseen, hbody, (isLiteral_iff.1 h).2.ink_visible, ← ink_append, ← toList_plain]

end Notice

namespace Console

open Markup

/-- A notice comes to the same with and without colour, up to blanks. -/
def Agrees (c : Console) (n : Notice) : Prop :=
  ∃ coloured plain, { c with styled := true }.notice n = .ok coloured ∧
    { c with styled := false }.notice n = .ok plain ∧
    ink coloured.stderr.toList = ink plain.stderr.toList

theorem notice_of_shown {c : Console} {n : Notice} (hquiet : ¬ (c.quiet = true ∧ n.isEssential = false)) :
    c.notice n = match c.noticeText? n with
      | some text => .ok { stderr := text ++ "\n" }
      | none => .error .unexpected := by
  exact if_neg (by simpa using hquiet)

/-- A notice says the same with and without colour exactly if it is left out in both cases or no markup
applies to its message. -/
theorem agrees_iff (c : Console) (n : Notice) :
    c.Agrees n ↔ (c.quiet = true ∧ n.isEssential = false) ∨ n.IsLiteral := by
  by_cases hquiet : c.quiet = true ∧ n.isEssential = false
  · have hnone (styled : Bool) : { c with styled }.notice n = .ok {} :=
      if_pos (by simp [hquiet.1, hquiet.2])
    exact ⟨fun _ => .inl hquiet, fun _ => ⟨_, _, hnone true, hnone false, rfl⟩⟩
  have hplain : { c with styled := false }.notice n = .ok { stderr := n.plain ++ "\n" } :=
    notice_of_shown hquiet
  have hcoloured : { c with styled := true }.notice n = match shown? n.markup with
      | some text => .ok { stderr := text ++ "\n" }
      | none => .error .unexpected := notice_of_shown hquiet
  have hline (s t : String) :
      ink (s ++ "\n").toList = ink (t ++ "\n").toList ↔ ink s.toList = ink t.toList := by
    rw [String.toList_append, String.toList_append, ink_append, ink_append, List.append_cancel_right_eq]
  rw [or_iff_right hquiet]
  constructor
  · rintro ⟨coloured, plain, hc, hp, hink⟩
    obtain rfl := Except.ok.inj (hplain.symm.trans hp)
    rw [hcoloured] at hc
    split at hc
    next s hs =>
      obtain rfl := Except.ok.inj hc
      exact Notice.isLiteral_of_shown hs ((hline _ _).1 hink)
    next => cases hc
  · intro h
    obtain ⟨s, hs⟩ := Notice.exists_shown h
    rw [hs] at hcoloured
    exact ⟨_, _, hcoloured, hplain, (hline _ _).2 (Notice.ink_of_isLiteral h hs)⟩

/-- A word in brackets is missing from the coloured notice. -/
theorem not_agrees_tag : ¬ Agrees {} (.info "field [tag] is missing") := by
  rw [agrees_iff]
  rintro (⟨hquiet, -⟩ | ⟨⟨htag, -⟩, -⟩)
  · cases hquiet
  · exact absurd htag (by decide +kernel)

end Console

end ApiContract
