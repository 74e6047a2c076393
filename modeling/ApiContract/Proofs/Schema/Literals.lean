import ApiContract.Proofs.Json.Numbers
import ApiContract.Proofs.Schema.Leaves
import ApiContract.Proofs.Value.Same
import Mathlib.Data.List.Nodup

/-!
# Literals in strings

An enum with other members than texts crosses the wire as strings: a text as it is, everything else as
JSON. Among the latter no two are spelled alike (`scalarText_injective`), but a text may spell another
member, as `"1"` does `1`. So every string stands for one literal only if no text of the enum does so:
`compile_literals`.
-/

namespace ApiContract

open ApiContract.Number

namespace Scalar

/-- A scalar of a JSON document. A number that no double is large enough for is infinite. -/
def FromJson : Scalar → Prop
  | .null | .bool _ | .int _ | .text _ | .float (.infinite _) => True
  | .float (.finite _ mantissa exponent) => Binary64.IsCanonical mantissa exponent
  | .float .nan | .date _ | .timestamp _ | .bytes _ => False

/-- How a scalar stands in a string. -/
def wire : Scalar → String
  | .text s => s
  | s => Json.line (.scalar s)

variable {a b : Scalar}

theorem same_self (h : a.FromJson) : a.same a = true := by
  cases a with
  | null => rfl
  | bool b => simp [same]
  | int i => simp [same, alike, whole?]
  | float x =>
    cases x with
    | nan => cases h
    | infinite negative => simp [same, alike, Binary64.numEq]
    | finite negative m e => simp [same, alike, Binary64.numEq]
  | text s => simp [same, alike, whole?]
  | date d => cases h
  | timestamp t => cases h
  | bytes b => cases h

/-- What is no text is a name, an integer or a finite double. -/
theorem FromJson.cases (h : a.FromJson) (ha : ∀ s, a ≠ .text s) :
    (Json.scalarText a, a) ∈ Json.names ∨ (∃ i, a = .int i) ∨
      ∃ negative m e, a = .float (.finite negative m e) ∧ Binary64.IsCanonical m e := by
  cases a with
  | null => exact .inl (by decide)
  | bool b => exact .inl (by cases b <;> decide)
  | int i => exact .inr (.inl ⟨i, rfl⟩)
  | float x =>
    cases x with
    | nan => cases h
    | infinite negative => exact .inl (by cases negative <;> decide)
    | finite negative m e => exact .inr (.inr ⟨negative, m, e, rfl, h⟩)
  | text s => exact absurd rfl (ha s)
  | date d => cases h
  | timestamp t => cases h
  | bytes b => cases h

/-- No name is read as a number. -/
theorem readNumber_name {text : List Char} (h : (text, a) ∈ Json.names) :
    ∃ rest, Json.readNumber text = Json.fail .valueExpected rest := by
  simp only [Json.names, List.mem_cons, Prod.mk.injEq, List.not_mem_nil, or_false] at h
  obtain ⟨rfl, -⟩ | ⟨rfl, -⟩ | ⟨rfl, -⟩ | ⟨rfl, -⟩ | ⟨rfl, -⟩ | ⟨rfl, -⟩ := h
  all_goals exact ⟨_, rfl⟩

theorem name_unique {text : List Char} (ha : (text, a) ∈ Json.names) (hb : (text, b) ∈ Json.names) :
    a = b := by
  have hnodup : (Json.names.map (·.1)).Nodup := by decide
  exact congrArg Prod.snd (List.inj_on_of_nodup_map hnodup ha hb rfl)

theorem readNumber_int (i : Int) : Json.readNumber (Json.scalarText (.int i)) =
    if (natText i.natAbs).length ≤ numeralLimit then .ok (.int i, []) else .error .longNumeral := by
  have h := Json.readNumber_intText i Json.endsNumber_nil
  rwa [List.append_nil] at h

theorem readNumber_float (negative : Bool) {m e : Nat} (h : Binary64.IsCanonical m e) :
    Json.readNumber (Json.scalarText (.float (.finite negative m e))) =
      .ok (.float (.finite negative m e), []) := by
  have h := Json.readNumber_write Json.floats negative h Json.endsNumber_nil
  rwa [List.append_nil] at h

/-- Scalars that are no texts and are spelled alike are the same. -/
theorem scalarText_injective (ha : a.FromJson) (hb : b.FromJson) (hta : ∀ s, a ≠ .text s)
    (htb : ∀ s, b ≠ .text s) (h : Json.scalarText a = Json.scalarText b) : a = b := by
  have hread := congrArg Json.readNumber h
  obtain hna | ⟨i, rfl⟩ | ⟨na, ma, ea, rfl, hca⟩ := ha.cases hta
  · obtain ⟨rest, hra⟩ := readNumber_name hna
    rw [hra] at hread
    obtain hnb | ⟨j, rfl⟩ | ⟨nb, mb, eb, rfl, hcb⟩ := hb.cases htb
    · exact name_unique (h ▸ hna) hnb
    · rw [readNumber_int] at hread
      split at hread <;> cases hread
    · rw [readNumber_float nb hcb] at hread
      cases hread
  · obtain hnb | ⟨j, rfl⟩ | ⟨nb, mb, eb, rfl, hcb⟩ := hb.cases htb
    · obtain ⟨rest, hrb⟩ := readNumber_name hnb
      rw [hrb, readNumber_int] at hread
      split at hread <;> cases hread
    · exact congrArg Scalar.int (Json.intText_injective h)
    · rw [readNumber_int, readNumber_float nb hcb] at hread
      split at hread <;> cases hread
  · rw [readNumber_float na hca] at hread
    obtain hnb | ⟨j, rfl⟩ | ⟨nb, mb, eb, rfl, hcb⟩ := hb.cases htb
    · obtain ⟨rest, hrb⟩ := readNumber_name hnb
      rw [hrb] at hread
      cases hread
    · rw [readNumber_int] at hread
      split at hread <;> cases hread
    · rw [readNumber_float nb hcb] at hread
      exact congrArg Prod.fst (Except.ok.inj hread)

/-- No text of the list spells another scalar of it. -/
def SpelledApart (scalars : List Scalar) : Prop :=
  ∀ a ∈ scalars, ∀ s, .text s ∈ scalars → a.wire = s → a = .text s

theorem wire_of_ne_text (h : ∀ s, a ≠ .text s) : a.wire = Json.line (.scalar a) := by
  cases a with
  | text s => exact absurd rfl (h s)
  | _ => rfl

theorem line_of_fromJson (h : a.FromJson) (ha : ∀ s, a ≠ .text s) :
    Json.line (.scalar a) = String.ofList (Json.scalarText a) := by
  cases a with
  | text s => exact absurd rfl (ha s)
  | date d => cases h
  | timestamp t => cases h
  | bytes b => cases h
  | _ => rfl

section

variable {scalars : List Scalar}

/-- Where no text spells another scalar, everything is spelled in its own way. -/
theorem wire_inj (hjson : ∀ a ∈ scalars, a.FromJson) (hapart : SpelledApart scalars)
    (ha : a ∈ scalars) (hb : b ∈ scalars) (h : a.wire = b.wire) : a = b := by
  by_cases hta : ∃ s, a = .text s
  · obtain ⟨s, rfl⟩ := hta
    exact (hapart b hb s ha h.symm).symm
  · by_cases htb : ∃ s, b = .text s
    · obtain ⟨s, rfl⟩ := htb
      exact hapart a ha s hb h
    · rw [not_exists] at hta htb
      rw [wire_of_ne_text hta, wire_of_ne_text htb, line_of_fromJson (hjson a ha) hta,
        line_of_fromJson (hjson b hb) htb] at h
      refine scalarText_injective (hjson a ha) (hjson b hb) hta htb ?_
      simpa using congrArg String.toList h

theorem nodup_wire_iff (hjson : ∀ a ∈ scalars, a.FromJson)
    (hdistinct : scalars.Pairwise fun a b => a.same b = false) :
    (scalars.map wire).Nodup ↔ SpelledApart scalars := by
  constructor
  · intro hnodup a ha s hs h
    exact List.inj_on_of_nodup_map hnodup ha hs h
  · intro hapart
    rw [List.Nodup, List.pairwise_map]
    refine hdistinct.imp_of_mem fun {a b} ha hb hsame heq => ?_
    obtain rfl := wire_inj hjson hapart ha hb heq
    rw [same_self (hjson a ha)] at hsame
    cases hsame

theorem existsUnique_wire_iff (hjson : ∀ a ∈ scalars, a.FromJson) :
    (∀ text ∈ scalars.map wire, ∃! a, a ∈ scalars ∧ a.wire = text) ↔ SpelledApart scalars := by
  constructor
  · intro hunique a ha s hs h
    exact (hunique s (List.mem_map.2 ⟨_, hs, rfl⟩)).unique ⟨ha, h⟩ ⟨hs, rfl⟩
  · intro hapart text htext
    obtain ⟨a, ha, rfl⟩ := List.mem_map.1 htext
    exact ⟨a, ⟨ha, rfl⟩, fun b hb => wire_inj hjson hapart hb.1 ha hb.2⟩

end

end Scalar

namespace Schema

open Outcome

variable {scalars : List Scalar} {path : String}

theorem wireText_scalar {a : Scalar} (h : a.FromJson) : wireText (.scalar a) = .ok a.wire := by
  cases a with
  | text s => rfl
  | date d => cases h
  | timestamp t => cases h
  | bytes b => cases h
  | _ => rfl

theorem mapM_wireText (hjson : ∀ a ∈ scalars, a.FromJson) :
    (scalars.map Value.scalar).mapM wireText = .ok (scalars.map Scalar.wire) := by
  rw [List.mapM_map]
  exact mapM_eq_map fun a ha => wireText_scalar (hjson a ha)

theorem texts?_scalars (hmixed : ∃ a ∈ scalars, ∀ s, a ≠ .text s) :
    texts? (scalars.map Value.scalar) = none := by
  induction scalars with
  | nil => simp at hmixed
  | cons b rest ih =>
    by_cases htext : ∃ s, b = .text s
    · obtain ⟨s, rfl⟩ := htext
      have hrest : ∃ a ∈ rest, ∀ s, a ≠ .text s := by simpa using hmixed
      rw [List.map_cons, texts?, ih hrest]
      rfl
    · cases b with
      | text s => exact absurd ⟨s, rfl⟩ htext
      | _ => rfl

/-- An enum of different scalars that are not all texts compiles, in both directions, exactly when its
default is one of them: from strings to those that the scalars are spelled as, which are parsed into
the enum, and to strings to the enum itself. The strings are all different, and each of them stands for
one scalar only, if and only if no text of the enum spells another scalar of it. -/
theorem compile_literals (s : Setting) (style : ArrayStyle) (path : String) (location : Location)
    (notes : Annotations) (hjson : ∀ a ∈ scalars, a.FromJson)
    (hdistinct : scalars.Pairwise fun a b => a.same b = false)
    (hmixed : ∃ a ∈ scalars, ∀ s, a ≠ .text s) :
    let values := scalars.map Value.scalar
    let typed := notes.wrap (enumValidator values)
    (∀ c, (compile s (some ⟨.fromString, location⟩) style path (.enum notes values)).result = .ok c ↔
        (DefaultRule.member values).Passes notes ∧
          c = {
            validator := .transform (.enum (scalars.map Scalar.wire)) .parse .literal none (some typed)
            hasDefault := notes.default.isSome }) ∧
      (∀ c, (compile s (some ⟨.toString, location⟩) style path (.enum notes values)).result = .ok c ↔
        (DefaultRule.member values).Passes notes ∧
          c = {
            validator := .transform typed .stringify .literal none none
            hasDefault := notes.default.isSome }) ∧
      ((scalars.map Scalar.wire).Nodup ↔ Scalar.SpelledApart scalars) ∧
      ((∀ text ∈ scalars.map Scalar.wire, ∃! a, a ∈ scalars ∧ a.wire = text) ↔
        Scalar.SpelledApart scalars) := by
  intro values typed
  have hwire : values.mapM wireText = .ok (scalars.map Scalar.wire) := mapM_wireText hjson
  have htexts : texts? values = none := texts?_scalars hmixed
  refine ⟨fun c => ?_, fun c => ?_, Scalar.nodup_wire_iff hjson hdistinct,
    Scalar.existsUnique_wire_iff hjson⟩
  · rw [compile, Reported.result_lift, compileEnum_ok]
    simp only [htexts, hwire, Except.ok.injEq, exists_eq_left', convertScalar, exists_eq_right]
    exact and_congr_right fun _ => eq_comm
  · rw [compile, Reported.result_lift, compileEnum_ok]
    simp only [htexts, convertScalar, exists_eq_right]
    exact and_congr_right fun _ => eq_comm

/-- One as a number and as a text. -/
def ones : List Scalar := [.int 1, .text "1"]

/-- Nothing, a truth value, a number, a half and two texts. -/
def answers : List Scalar :=
  [.null, .bool true, .int 1, .float (.finite false (Nat.pow 2 52) 1021), .text "one", .text "True"]

theorem compile_literals_ones :
    (compile { document := .object [] } (some ⟨.fromString, .query⟩) .standard "#/s"
        (.enum ⟨none, false, none⟩ (ones.map .scalar))).result =
      .ok {
        validator := .transform (.enum ["1", "1"]) .parse .literal none
          (some (.union [.literal (.int 1), .literal (.text "1")] none)) } ∧
      ¬ (ones.map Scalar.wire).Nodup ∧
      ∀ text ∈ answers.map Scalar.wire, ∃! a, a ∈ answers ∧ a.wire = text := by
  have hpasses : ∀ values, (DefaultRule.member values).Passes ⟨none, false, none⟩ := fun _ => nofun
  have hones : ∀ a ∈ ones, a.FromJson := by simp [ones, Scalar.FromJson]
  have hanswers : ∀ a ∈ answers, a.FromJson := by
    simp [answers, Scalar.FromJson, Binary64.IsCanonical, Binary64.maxExponent]
  obtain ⟨hparse, -, hspelled, -⟩ := compile_literals { document := .object [] } .standard "#/s" .query
    ⟨none, false, none⟩ hones (by decide +kernel) ⟨.int 1, by simp [ones], nofun⟩
  obtain ⟨-, -, hnodup, hunique⟩ := compile_literals { document := .object [] } .standard "#/s" .query
    ⟨none, false, none⟩ hanswers (by decide +kernel) ⟨.null, by simp [answers], nofun⟩
  have hwire : ones.map Scalar.wire = ["1", "1"] := by decide
  refine ⟨(hparse _).2 ⟨hpasses _, ?_⟩, fun h => ?_, ?_⟩
  · rw [hwire]
    rfl
  · have hapart := hspelled.1 h
    exact absurd (hapart (.int 1) (by simp [ones]) "1" (by simp [ones]) (List.cons.inj hwire).1) nofun
  · exact hunique.2 (hnodup.1 (by decide +kernel))

end Schema

end ApiContract
