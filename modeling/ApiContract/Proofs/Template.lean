import ApiContract.Operation.Basic
import ApiContract.Proofs.Outcome
import ApiContract.Service.Basic

/-!
# Filled templates

A template is written as `Segment`s: literal text without braces, and names in braces. A reader that
reads a name up to its closing brace (`ReadsName`) cuts the written text back into exactly these
segments, however they follow one another (`pieces_written`). So a route gets `:name` and a server
address the default of the variable in place of each name, and what replaces a name is not read
again (`filled_templates`).
-/

namespace ApiContract

open Outcome

namespace Text

/-- A stretch of a template: literal text, or a name that stands in braces. -/
inductive Segment where
  | literal (text : String)
  | name (text : String)

namespace Segment

/-- Literal text has no braces. A name has at least one character, no braces and no line feed. -/
def IsPlain : Segment → Prop
  | literal text => ∀ c ∈ text.toList, c ≠ '\x7b' ∧ c ≠ '\x7d'
  | name text => text ≠ "" ∧ ∀ c ∈ text.toList, c ≠ '\x7b' ∧ c ≠ '\x7d' ∧ c ≠ '\n'

-- Named, so that the characters of the text are tried, and not all the characters there are.
instance : (s : Segment) → Decidable s.IsPlain
  | literal text => List.decidableBAll (fun c => c ≠ '\x7b' ∧ c ≠ '\x7d') text.toList
  | name text =>
    have := List.decidableBAll (fun c => c ≠ '\x7b' ∧ c ≠ '\x7d' ∧ c ≠ '\n') text.toList
    inferInstanceAs (Decidable (text ≠ "" ∧ _))

def written : Segment → String
  | literal text => text
  | name text => "\x7b" ++ text ++ "\x7d"

/-- The segment with what `value` gives in place of a name. -/
def filled (value : String → String) : Segment → String
  | literal text => text
  | name text => value text

/-- The segment with what `value` gives in place of a name, where it may fail. -/
def filledM (value : String → Except Fault String) : Segment → Except Fault String
  | literal text => .ok text
  | name text => value text

def pieces : Segment → List Piece
  | literal text => text.toList.map .literal
  | name text => [.name text.toList]

end Segment

/-- The text of a template. -/
def written (segments : List Segment) : String := String.join (segments.map Segment.written)

/-- The text of a template with what `value` gives in place of each name. -/
def filled (value : String → String) (segments : List Segment) : String :=
  String.join (segments.map (Segment.filled value))

theorem toList_written_cons (s : Segment) (rest : List Segment) :
    (written (s :: rest)).toList = s.written.toList ++ (written rest).toList := by
  simp [written]

/-! ## Names up to their brace -/

/-- The name is read wherever a closing brace follows it, and nothing behind the brace is. -/
def ReadsName (name? : List Char → Option (List Char × List Char)) (name : List Char) : Prop :=
  ∀ rest, name? (name ++ '\x7d' :: rest) = some (name, rest)

/-- What a segment needs of a reader of names: that it starts at no literal character, and reads the
name. -/
def Segment.IsReadBy (name? : List Char → Option (List Char × List Char)) : Segment → Prop
  | literal text => '\x7b' ∉ text.toList
  | name text => ReadsName name? text.toList

variable {name? : List Char → Option (List Char × List Char)} {name : List Char}
variable {segments : List Segment}

theorem takeWhile_closed {p : Char → Bool} (hname : ∀ c ∈ name, p c = true)
    (hclose : p '\x7d' = false) (rest : List Char) :
    (name ++ '\x7d' :: rest).takeWhile p = name := by
  rw [List.takeWhile_append_of_pos hname, List.takeWhile_cons_of_neg (by simp [hclose]),
    List.append_nil]

theorem readsName_anyName? (hne : name ≠ []) (hname : ∀ c ∈ name, c ≠ '\x7d' ∧ c ≠ '\n') :
    ReadsName anyName? name := by
  intro rest
  cases name with
  | nil => exact absurd rfl hne
  | cons c name =>
    simp only [List.mem_cons, forall_eq_or_imp] at hname
    obtain ⟨⟨-, hc⟩, hname⟩ := hname
    have hinside := takeWhile_closed (p := fun d => d != '\x7d' && d != '\n')
      (fun d hd => by simpa using hname d hd) (by decide) rest
    have hc : (c == '\n') = false := by simpa using hc
    rw [List.cons_append, anyName?]
    simp only [hinside, hc, List.drop_left]

theorem readsName_plainName? (hne : name ≠ []) (hname : ∀ c ∈ name, c ≠ '\x7b' ∧ c ≠ '\x7d') :
    ReadsName plainName? name := by
  intro rest
  have hinside := takeWhile_closed (p := fun d => d != '\x7b' && d != '\x7d')
    (fun d hd => by simpa using hname d hd) (by decide) rest
  have hempty : name.isEmpty = false := by simpa using hne
  rw [plainName?]
  simp only [hinside, hempty, List.drop_left]

theorem Segment.IsPlain.isReadBy_anyName? {s : Segment} (h : s.IsPlain) : s.IsReadBy anyName? := by
  cases s with
  | literal text => exact fun hopen => (h _ hopen).1 rfl
  | name text =>
    obtain ⟨hne, hinside⟩ := h
    exact readsName_anyName? (by simpa using hne) fun c hc => (hinside c hc).2

theorem Segment.IsPlain.isReadBy_plainName? {s : Segment} (h : s.IsPlain) :
    s.IsReadBy plainName? := by
  cases s with
  | literal text => exact fun hopen => (h _ hopen).1 rfl
  | name text =>
    obtain ⟨hne, hinside⟩ := h
    refine readsName_plainName? (by simpa using hne) fun c hc => ?_
    exact ⟨(hinside c hc).1, (hinside c hc).2.1⟩

/-! ## Texts cut into their segments -/

theorem piecesWithin_literal {text : List Char} (hopen : '\x7b' ∉ text) (length : Nat)
    (rest : List Char) :
    piecesWithin name? (text.length + length) (text ++ rest) =
      text.map .literal ++ piecesWithin name? length rest := by
  induction text with
  | nil => simp
  | cons c text ih =>
    simp only [List.mem_cons, not_or] at hopen
    have hc : (c == '\x7b') = false := by simpa using Ne.symm hopen.1
    rw [List.length_cons, Nat.add_right_comm, List.cons_append, piecesWithin, hc, ih hopen.2]
    rfl

theorem piecesWithin_name (hname : ReadsName name? name) (length : Nat) (rest : List Char) :
    piecesWithin name? (length + 1) ('\x7b' :: (name ++ '\x7d' :: rest)) =
      .name name :: piecesWithin name? length rest := by
  simp [piecesWithin, hname rest]

theorem pieces_written (hread : ∀ s ∈ segments, s.IsReadBy name?) :
    pieces name? (written segments).toList = segments.flatMap Segment.pieces := by
  -- A name takes one step for all its characters, so steps are left over: any bound is allowed.
  suffices h : ∀ length, (written segments).toList.length ≤ length →
      piecesWithin name? length (written segments).toList = segments.flatMap Segment.pieces from
    h _ (Nat.le_refl _)
  induction segments with
  | nil =>
    intro length _
    cases length <;> rfl
  | cons s rest ih =>
    intro length hlength
    simp only [List.mem_cons, forall_eq_or_imp] at hread
    obtain ⟨hs, hrest⟩ := hread
    rw [toList_written_cons, List.flatMap_cons]
    rw [toList_written_cons, List.length_append] at hlength
    cases s with
    | literal text =>
      obtain ⟨left, rfl⟩ := Nat.exists_eq_add_of_le (Nat.le_of_add_right_le hlength)
      have hleft : (written rest).toList.length ≤ left := Nat.le_of_add_le_add_left hlength
      rw [← ih hrest left hleft]
      exact piecesWithin_literal hs left _
    | name text =>
      have hwritten : (Segment.name text).written.toList ++ (written rest).toList =
          '\x7b' :: (text.toList ++ '\x7d' :: (written rest).toList) := by
        simp [Segment.written]
      have hlong : (written rest).toList.length + 1 ≤ length := by
        have := congrArg List.length hwritten
        simp only [List.length_append, List.length_cons] at this
        omega
      obtain ⟨left, rfl⟩ := Nat.exists_eq_add_of_le' (Nat.le_of_add_left_le hlong)
      rw [hwritten, piecesWithin_name hs, ih hrest left (Nat.le_of_succ_le_succ hlong)]
      rfl

/-- A walk through the pieces of a template ends as the walk through its segments, when it does at
each segment. -/
theorem flatten_mapM_pieces {replace : Piece → Except Fault (List Char)}
    {fill : Segment → Except Fault String}
    (hfill : ∀ s ∈ segments, List.flatten <$> s.pieces.mapM replace = String.toList <$> fill s) :
    List.flatten <$> (segments.flatMap Segment.pieces).mapM replace =
      String.toList <$> String.join <$> segments.mapM fill := by
  induction segments with
  | nil => rfl
  | cons s rest ih =>
    simp only [List.mem_cons, forall_eq_or_imp] at hfill
    obtain ⟨hs, hrest⟩ := hfill
    calc List.flatten <$> ((s :: rest).flatMap Segment.pieces).mapM replace
        = (do return (← List.flatten <$> s.pieces.mapM replace) ++
            (← List.flatten <$> (rest.flatMap Segment.pieces).mapM replace)) := by
          simp
      _ = (do return (← String.toList <$> fill s) ++
            (← String.toList <$> String.join <$> rest.mapM fill)) := by
          rw [hs, ih hrest]
      _ = String.toList <$> String.join <$> (s :: rest).mapM fill := by
          simp

/-- Where not every name has a property, one of them is the first without it. -/
theorem exists_first_name {P : String → Prop} (h : ¬ ∀ name, .name name ∈ segments → P name) :
    ∃ before name after, segments = before ++ .name name :: after ∧
      (∀ other, .name other ∈ before → P other) ∧ ¬ P name := by
  induction segments with
  | nil => exact absurd (fun _ hname => absurd hname List.not_mem_nil) h
  | cons s rest ih =>
    by_cases hs : ∀ name, s = .name name → P name
    · have hrest : ¬ ∀ name, .name name ∈ rest → P name := by
        intro hrest
        refine h fun name hname => ?_
        rcases List.mem_cons.1 hname with rfl | hname
        · exact hs name rfl
        · exact hrest name hname
      obtain ⟨before, name, after, rfl, hbefore, hname⟩ := ih hrest
      refine ⟨s :: before, name, after, rfl, fun other hother => ?_, hname⟩
      rcases List.mem_cons.1 hother with rfl | hother
      · exact hs other rfl
      · exact hbefore other hother
    · obtain ⟨name, rfl, hname⟩ : ∃ name, s = .name name ∧ ¬ P name := by simpa using hs
      exact ⟨[], name, rest, rfl, nofun, hname⟩

end Text

/-! ## Routes -/

namespace Operation

open ApiContract.Text

theorem colonRoute_written {segments : List Segment} (hplain : ∀ s ∈ segments, s.IsPlain) :
    colonRoute (written segments) = filled (":" ++ ·) segments := by
  have hfill (s : Segment) :
      s.pieces.flatMap (Piece.fill (':' :: ·)) = (s.filled (":" ++ ·)).toList := by
    cases s with
    | literal text => simp [Segment.pieces, Segment.filled, List.flatMap_map, Piece.fill]
    | name text => simp [Segment.pieces, Segment.filled, Piece.fill]
  rw [colonRoute, pieces_written fun s hs => (hplain s hs).isReadBy_anyName?, List.flatMap_assoc]
  simp only [hfill]
  apply String.toList_inj.1
  simp [filled, List.flatMap_map]

end Operation

/-! ## Addresses of servers -/

namespace Service

open ApiContract.Text

variable {entries : List (Scalar × Value)} {name : String} {segments : List Segment}

/-- A variable is declared by a mapping, with a default in it. -/
def Declares (entries : List (Scalar × Value)) (name : String) (default : Value) : Prop :=
  ∃ fields, Value.find? name entries = some (.map fields) ∧
    Value.find? "default" fields = some default

theorem variableDefault_map (entries : List (Scalar × Value)) (name : String) :
    variableDefault (.map entries) name =
      match (Value.find? name entries).bind (·.get? "default") with
      | some default => .ok default.display
      | none => uncompilable (.serverAddress (.noDefault name)) serverPath := by
  cases hname : Value.find? name entries with
  | none =>
    simp only [variableDefault, Value.get, hname]
    rfl
  | some declared =>
    simp only [variableDefault, Value.get, hname, bind, Except.bind, Option.bind_some]
    cases declared.get? "default" <;> rfl

theorem declares_iff {default : Value} :
    Declares entries name default ↔
      (Value.find? name entries).bind (·.get? "default") = some default := by
  rw [Option.bind_eq_some_iff]
  constructor
  · rintro ⟨fields, hname, hdefault⟩
    exact ⟨_, hname, hdefault⟩
  · rintro ⟨declared, hname, hdefault⟩
    cases declared with
    | map fields => exact ⟨fields, hname, hdefault⟩
    | _ => cases hdefault

theorem variableDefault_ok {default : Value} (h : Declares entries name default) :
    variableDefault (.map entries) name = .ok default.display := by
  rw [variableDefault_map, declares_iff.1 h]

theorem variableDefault_error (h : ∀ default, ¬ Declares entries name default) :
    variableDefault (.map entries) name =
      uncompilable (.serverAddress (.noDefault name)) serverPath := by
  have hnone : (Value.find? name entries).bind (·.get? "default") = none :=
    Option.eq_none_iff_forall_ne_some.2 fun default hd => h default (declares_iff.2 hd)
  rw [variableDefault_map, hnone]

/-- What stands in an address for a piece of its template. -/
def replacement (values : Value) : Piece → Except Fault (List Char)
  | .literal c => .ok [c]
  | .name name => String.toList <$> variableDefault values (String.ofList name)

theorem expandVariables_eq (url : String) (values : Value) :
    expandVariables url values = String.ofList <$> List.flatten <$>
      (pieces plainName? url.toList).mapM (replacement values) := by
  simp only [expandVariables, Functor.map_map, bind_pure_comp]
  rfl

theorem flatten_replacement (values : Value) (s : Segment) :
    List.flatten <$> s.pieces.mapM (replacement values) =
      String.toList <$> s.filledM (variableDefault values) := by
  cases s with
  | literal text =>
    have hchars : text.toList.mapM (replacement values ∘ Piece.literal) =
        .ok (text.toList.map fun c => [c]) := mapM_eq_map fun _ _ => rfl
    rw [Segment.pieces, List.mapM_map, hchars]
    exact congrArg Except.ok (List.flatMap_singleton' text.toList)
  | name text =>
    simp [Segment.pieces, Segment.filledM, replacement]

theorem expandVariables_written (hplain : ∀ s ∈ segments, s.IsPlain) (values : Value) :
    expandVariables (written segments) values =
      String.join <$> segments.mapM (Segment.filledM (variableDefault values)) := by
  rw [expandVariables_eq, pieces_written fun s hs => (hplain s hs).isReadBy_plainName?,
    flatten_mapM_pieces fun s _ => flatten_replacement values s, Functor.map_map]
  simp only [String.ofList_toList, id_map']

/-- Where every name has a default, all of them are filled in at once. -/
theorem expandVariables_ok (hplain : ∀ s ∈ segments, s.IsPlain) {default : String → Value}
    (hdefault : ∀ name, .name name ∈ segments → Declares entries name (default name)) :
    expandVariables (written segments) (.map entries) =
      .ok (filled (fun name => (default name).display) segments) := by
  have hfilled : ∀ s ∈ segments, s.filledM (variableDefault (.map entries)) =
      .ok (s.filled fun name => (default name).display) := by
    intro s hs
    cases s with
    | literal text => rfl
    | name name => exact variableDefault_ok (hdefault name hs)
  rw [expandVariables_written hplain, mapM_eq_map hfilled]
  rfl

/-- The first name without a default is the one that is reported. -/
theorem expandVariables_error {before after : List Segment}
    (hplain : ∀ s ∈ before ++ .name name :: after, s.IsPlain)
    (hbefore : ∀ other, .name other ∈ before → ∃ default, Declares entries other default)
    (hname : ∀ default, ¬ Declares entries name default) :
    expandVariables (written (before ++ .name name :: after)) (.map entries) =
      uncompilable (.serverAddress (.noDefault name)) serverPath := by
  have hfilled : ∀ s ∈ before, ∃ text, s.filledM (variableDefault (.map entries)) = .ok text := by
    intro s hs
    cases s with
    | literal text => exact ⟨text, rfl⟩
    | name other =>
      obtain ⟨default, hdefault⟩ := hbefore other hs
      exact ⟨_, variableDefault_ok hdefault⟩
  have hfirst : (Segment.name name).filledM (variableDefault (.map entries)) =
      uncompilable (.serverAddress (.noDefault name)) serverPath := variableDefault_error hname
  rw [expandVariables_written hplain, mapM_eq_error hfilled hfirst after]
  rfl

end Service

/-! ## Templates in one pass -/

open Operation Service Text

theorem AddressProblem.message_noDefault (name : String) :
    (noDefault name).message =
      "Server URL variable " ++ (Segment.name name).written ++ " has no default value" := by
  show "Server URL variable \x7b" ++ name ++ "\x7d has no default value" =
    "Server URL variable " ++ ("\x7b" ++ name ++ "\x7d") ++ " has no default value"
  apply String.toList_inj.1
  simp

/-- In a template of literal text without braces and of names without braces and line feeds, each
name is replaced at once and nothing else changes: in a route by `:name`; in a server address by the
default of its variable as it stands, if every name has one. Otherwise the address is refused, and
the first name without a default is reported as it stands in the template. -/
theorem filled_templates {segments : List Segment} (hplain : ∀ s ∈ segments, s.IsPlain)
    (entries : List (Scalar × Value)) :
    colonRoute (written segments) = filled (fun name => ":" ++ name) segments ∧
      (∀ default : String → Value,
        (∀ name, .name name ∈ segments → Declares entries name (default name)) →
        expandVariables (written segments) (.map entries) =
          .ok (filled (fun name => (default name).display) segments)) ∧
      ((¬ ∀ name, .name name ∈ segments → ∃ default, Declares entries name default) →
        ∃ before name after, segments = before ++ .name name :: after ∧
          (∀ other, .name other ∈ before → ∃ default, Declares entries other default) ∧
          (∀ default, ¬ Declares entries name default) ∧
          ∃ problem : AddressProblem,
            expandVariables (written segments) (.map entries) =
              uncompilable (.serverAddress problem) "#/servers/0/url" ∧
            problem.message = "Server URL variable " ++ (Segment.name name).written ++
              " has no default value") := by
  refine ⟨colonRoute_written hplain, fun default => expandVariables_ok hplain, fun hsome => ?_⟩
  obtain ⟨before, name, after, rfl, hbefore, hname⟩ := exists_first_name hsome
  have hname : ∀ default, ¬ Declares entries name default := not_exists.1 hname
  exact ⟨before, name, after, rfl, hbefore, hname, .noDefault name,
    expandVariables_error hplain hbefore hname, AddressProblem.message_noDefault name⟩

/-- An address with two names side by side, one of them used again. -/
def sampleAddress : List Segment :=
  [.literal "https://", .name "host", .name "port", .literal "/", .name "host"]

theorem name_mem_sampleAddress {name : String} :
    .name name ∈ sampleAddress ↔ name = "host" ∨ name = "port" := by
  simp only [sampleAddress, List.mem_cons, reduceCtorEq, Segment.name.injEq, List.not_mem_nil]
  tauto

/-- Variables of which the first has a default that looks like the second one's template. -/
def sampleVariables : List (Scalar × Value) :=
  [(.text "host", .object [("default", .text "\x7bport\x7d")]),
    (.text "port", .object [("default", .int 8443)])]

/-- The default of the host stays as it is; without a variable for the port, it is reported. -/
theorem filled_templates_sampleAddress :
    colonRoute "https://\x7bhost\x7d\x7bport\x7d/\x7bhost\x7d" = "https://:host:port/:host" ∧
      expandVariables "https://\x7bhost\x7d\x7bport\x7d/\x7bhost\x7d" (.map sampleVariables) =
        .ok "https://\x7bport\x7d8443/\x7bport\x7d" ∧
      ∃ problem : AddressProblem,
        expandVariables "https://\x7bhost\x7d\x7bport\x7d/\x7bhost\x7d"
          (.map (sampleVariables.take 1)) =
          uncompilable (.serverAddress problem) "#/servers/0/url" ∧
        problem.message = "Server URL variable \x7bport\x7d has no default value" := by
  have hplain : ∀ s ∈ sampleAddress, s.IsPlain := by decide
  have hhost : Declares sampleVariables "host" (.text "\x7bport\x7d") := ⟨_, rfl, rfl⟩
  have hport : Declares sampleVariables "port" (.int 8443) := ⟨_, rfl, rfl⟩
  have hhost' : Declares (sampleVariables.take 1) "host" (.text "\x7bport\x7d") := ⟨_, rfl, rfl⟩
  have hport' : ∀ default, ¬ Declares (sampleVariables.take 1) "port" default := by
    rintro default ⟨fields, hfields, -⟩
    simp [sampleVariables, Value.find?] at hfields
  obtain ⟨hroute, hfilled, -⟩ := filled_templates hplain sampleVariables
  obtain ⟨-, -, hrefused⟩ := filled_templates hplain (sampleVariables.take 1)
  refine ⟨hroute, hfilled (fun name => if name = "host" then .text "\x7bport\x7d" else .int 8443)
    fun name hname => ?_, ?_⟩
  · rcases name_mem_sampleAddress.1 hname with rfl | rfl
    · exact hhost
    · exact hport
  · have hmissing : ¬ ∀ name, .name name ∈ sampleAddress →
        ∃ default, Declares (sampleVariables.take 1) name default := by
      intro hall
      obtain ⟨default, hdefault⟩ := hall "port" (name_mem_sampleAddress.2 (.inr rfl))
      exact hport' default hdefault
    obtain ⟨before, name, after, hsplit, -, hname, problem, herror, hmessage⟩ := hrefused hmissing
    have hmem : .name name ∈ sampleAddress := hsplit ▸ List.mem_append_cons_self
    rcases name_mem_sampleAddress.1 hmem with rfl | rfl
    · exact absurd hhost' (hname _)
    · exact ⟨problem, herror, hmessage⟩

end ApiContract
