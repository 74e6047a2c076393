import ApiContract.Proofs.Schema.Equality
import ApiContract.Proofs.Schema.Faults

/-!
# Members of enums

The default of an enum has to be one of its members. The two are compared as values of documents are, where
a boolean inside a list or a mapping counts as a number; only a default or a member that is a boolean
itself is told from a number (`Value.TakenFor`). Where no boolean stands inside of the default or a member,
that is equality in JSON, and the enum compiles exactly when its default is a member: `compile_enumDefault`.
-/

namespace ApiContract

namespace Value

/-- A boolean itself. -/
def IsBoolean (v : Value) : Prop := ∃ b, v = .bool b

/-- A list or a mapping with a boolean somewhere in it. -/
def HoldsBoolean (v : Value) : Prop := ∃ b, v.Part (.bool b) ∧ v ≠ .bool b

/-- Equal where booleans count as numbers, and both or neither a boolean itself. -/
def TakenFor (v w : Value) : Prop := v.EqualBy Scalar.CountsAs w ∧ (v.IsBoolean ↔ w.IsBoolean)

variable {v w : Value}

@[simp] theorem isBoolean_scalar {a : Scalar} :
    (Value.scalar a).IsBoolean ↔ ∃ c, a = .bool c := by simp [IsBoolean]

@[simp] theorem not_isBoolean_list {items : List Value} : ¬ (Value.list items).IsBoolean := nofun

@[simp] theorem not_isBoolean_map {entries : List (Scalar × Value)} :
    ¬ (Value.map entries).IsBoolean := nofun

theorem JsonEqual.takenFor (h : v.JsonEqual w) : v.TakenFor w := by
  refine ⟨h.imp fun a b _ _ hab => (Scalar.jsonEqual_iff.1 hab).1, ?_⟩
  cases h with
  | scalar h => simpa using (Scalar.jsonEqual_iff.1 h).2
  | list => simp
  | map => simp

/-- A boolean that is part of a value without booleans inside is that value. -/
theorem isBoolean_of_part {a : Scalar} (hv : ¬ v.HoldsBoolean) (ha : v.Part (.scalar a))
    (hboolean : ∃ c, a = .bool c) : v.IsBoolean := by
  obtain ⟨c, rfl⟩ := hboolean
  by_contra hne
  exact hv ⟨c, ha, fun heq => hne ⟨c, heq⟩⟩

/-- Without booleans inside, values are taken for each other only if they are equal in JSON. -/
theorem TakenFor.jsonEqual (h : v.TakenFor w) (hv : ¬ v.HoldsBoolean) (hw : ¬ w.HoldsBoolean) :
    v.JsonEqual w := by
  obtain ⟨hequal, hboth⟩ := h
  have hinside (hv' : ¬ v.IsBoolean) (hw' : ¬ w.IsBoolean) : v.JsonEqual w := by
    refine hequal.imp fun a b ha hb hab => Scalar.jsonEqual_iff.2 ⟨hab, iff_of_false ?_ ?_⟩
    · exact fun h => hv' (isBoolean_of_part hv ha h)
    · exact fun h => hw' (isBoolean_of_part hw hb h)
  cases hequal with
  | scalar h => exact .scalar (Scalar.jsonEqual_iff.2 ⟨h, by simpa using hboth⟩)
  | list => exact hinside not_isBoolean_list not_isBoolean_list
  | map => exact hinside not_isBoolean_map not_isBoolean_map

/-! ## Values of documents in JSON -/

theorem areJson_eq_all (items : List Value) : areJson items = items.all isJson := by
  induction items with
  | nil => rfl
  | cons v rest ih => rw [areJson, ih, List.all_cons]

theorem areJsonEntries_eq_all (entries : List (Scalar × Value)) :
    areJsonEntries entries = entries.all fun e => isJsonScalar e.1 && e.2.isJson := by
  induction entries with
  | nil => rfl
  | cons e rest ih => rw [areJsonEntries, ih, List.all_cons]

theorem FromJson.isJson (h : v.FromJson) : v.isJson = true := by
  induction h with
  | @scalar a h =>
    cases a with
    | date | timestamp | bytes => cases h
    | _ => rfl
  | list _ ih => rwa [Value.isJson, areJson_eq_all, List.all_eq_true]
  | object _ _ ih =>
    rw [Value.object, Value.isJson, areJsonEntries_eq_all, List.all_map, List.all_eq_true]
    exact fun e he => ih e he

end Value

namespace DefaultRule

open Value

variable {v w : Value} {values : List Value}

theorem isNumber_of_place {a : Scalar} {p : Int × Int} (h : a.place = some p) :
    isNumber (.scalar a) = true := by
  cases a with
  | int | float => rfl
  | _ => cases h

theorem sameKind_scalar {a b : Scalar} (h : a.CountsAs b) :
    sameKind (.scalar a) (.scalar b) = true ↔ ((∃ c, a = .bool c) ↔ ∃ c, b = .bool c) := by
  rcases h with heq | ⟨p, ha, hb⟩
  · cases a <;> cases b <;> simp_all [sameKind, isNumber, kindName, Scalar.counted]
  · have ha := isNumber_of_place ha
    have hb := isNumber_of_place hb
    cases a <;> cases b <;> simp_all [sameKind, isNumber, kindName, Scalar.counted]

/-- Values that count as equal are of one kind unless one of them alone is a boolean. -/
theorem sameKind_iff (h : v.EqualBy Scalar.CountsAs w) :
    sameKind v w = true ↔ (v.IsBoolean ↔ w.IsBoolean) := by
  cases h with
  | scalar h => simpa using sameKind_scalar h
  | list => simp [sameKind, kindName]
  | map => simp [sameKind, kindName]

theorem accepts_member (hv : v.FromJson) (hvalues : ∀ w ∈ values, w.FromJson) :
    (member values).accepts v = true ↔ ∃ w ∈ values, v.TakenFor w := by
  simp only [member, List.any_eq_true, Bool.and_eq_true]
  refine exists_congr fun w => and_congr_right fun hw => ?_
  rw [alike_iff hv (hvalues w hw), TakenFor]
  exact and_congr_right sameKind_iff

end DefaultRule

namespace Schema

open Outcome

variable {convert : Option Conversion} {path : String} {notes : Annotations} {values : List Value}

/-- An enum of JSON values compiles unless its default is refused. -/
theorem compileEnum_succeeds (hvalues : ∀ v ∈ values, v.isJson = true) :
    (∃ c, compileEnum notes values path convert = .ok c) ↔ (DefaultRule.member values).Passes notes := by
  constructor
  · rintro ⟨c, hc⟩
    exact (compileEnum_ok.1 hc).1
  · intro hpasses
    have hfinish : finish notes path (some (.member values)) (enumValidator values) =
        .ok (notes.wrap (enumValidator values), notes.default.isSome) := finish_ok.2 ⟨hpasses, rfl⟩
    rw [compileEnum, hfinish]
    cases convert with
    | none => exact ⟨_, rfl⟩
    | some convert =>
      cases texts? values with
      | some texts => exact ⟨_, rfl⟩
      | none =>
        obtain ⟨direction, location⟩ := convert
        cases direction with
        | toString => exact ⟨_, rfl⟩
        | fromString =>
          obtain ⟨wire, hwire⟩ := wireTexts_ok.2 hvalues
          refine ⟨_, bind_eq_ok.2 ⟨_, rfl, bind_eq_ok.2 ⟨wire, hwire, rfl⟩⟩⟩

theorem compileEnum_refused {default : Value} (hdefault : notes.default = some default)
    (h : ¬ (DefaultRule.member values).accepts default = true) :
    compileEnum notes values path convert =
      .error (.uncompilable (.wrongDefault default (DefaultRule.member values).expected)
        (Pointer.raw path "default")) := by
  have hfinish (v : Validator) : finish notes path (some (.member values)) v =
      .error (.uncompilable (.wrongDefault default (DefaultRule.member values).expected)
        (Pointer.raw path "default")) := by
    rw [finish, hdefault]
    exact if_neg h
  rw [compileEnum, hfinish]
  rfl

/-- An enum of JSON values with a default compiles, whatever it is compiled for, exactly when the default
is taken for one of the values; otherwise the default is refused at its place. A default that is equal in
JSON to one of the values is never refused, and where no boolean stands inside of the default or of a
value, no other default is taken. -/
theorem compile_enumDefault (s : Setting) (convert : Option Conversion) (style : ArrayStyle)
    (path : String) (notes : Annotations) {default : Value} (hdefault : notes.default = some default)
    (hjson : default.FromJson) (hvalues : ∀ v ∈ values, v.FromJson) :
    let compiled := (compile s convert style path (.enum notes values)).result
    let refused := Fault.uncompilable (.wrongDefault default "one of the enum values")
      (Pointer.raw path "default")
    ((∃ c, compiled = .ok c) ↔ ∃ v ∈ values, default.TakenFor v) ∧
      (compiled = .error refused ↔ ¬ ∃ v ∈ values, default.TakenFor v) ∧
      ((∃ v ∈ values, default.JsonEqual v) → ∃ c, compiled = .ok c) ∧
      (¬ default.HoldsBoolean → (∀ v ∈ values, ¬ v.HoldsBoolean) →
        ((∃ c, compiled = .ok c) ↔ ∃ v ∈ values, default.JsonEqual v)) := by
  intro compiled refused
  have hcompiled : compiled = compileEnum notes values path convert := by
    simp only [compiled, compile, Reported.result_lift]
  have hok : (∃ c, compiled = .ok c) ↔ ∃ v ∈ values, default.TakenFor v := by
    rw [hcompiled, compileEnum_succeeds fun v hv => (hvalues v hv).isJson,
      ← DefaultRule.accepts_member hjson hvalues, DefaultRule.Passes, hdefault]
    simp
  have herror (h : ¬ ∃ v ∈ values, default.TakenFor v) : compiled = .error refused := by
    rw [hcompiled]
    exact compileEnum_refused hdefault (mt (DefaultRule.accepts_member hjson hvalues).1 h)
  have hequal : (∃ v ∈ values, default.JsonEqual v) → ∃ c, compiled = .ok c := by
    rintro ⟨v, hv, h⟩
    exact hok.2 ⟨v, hv, h.takenFor⟩
  refine ⟨hok, ⟨fun h htaken => ?_, herror⟩, hequal, fun hplain hplains => ⟨fun h => ?_, hequal⟩⟩
  · obtain ⟨c, hc⟩ := hok.2 htaken
    cases hc.symm.trans h
  · obtain ⟨v, hv, htaken⟩ := hok.1 h
    exact ⟨v, hv, htaken.jsonEqual hplain (hplains v hv)⟩

/-- The list of `true` is taken for the list of `1`, which it is not in JSON; `1` is equal to `1.0`, and
`true` is refused where `1` is the only value. -/
theorem compile_enumDefault_ones :
    let compiled (default value : Value) := (compile { document := .object [] } none .standard "#/s"
      (.enum ⟨some default, false, none⟩ [value])).result
    (∃ c, compiled (.list [.bool true]) (.list [.int 1]) = .ok c) ∧
      ¬ (Value.list [.bool true]).JsonEqual (.list [.int 1]) ∧
      (∃ c, compiled (.int 1) (.float (.finite false (Nat.pow 2 52) 1022)) = .ok c) ∧
      compiled (.bool true) (.int 1) =
        .error (.uncompilable (.wrongDefault (.bool true) "one of the enum values") "#/s/default") := by
  intro compiled
  let s : Setting := { document := .object [] }
  let notes (default : Value) : Annotations := ⟨some default, false, none⟩
  have hone : (Value.int 1).FromJson := .scalar trivial
  have htrue : (Value.bool true).FromJson := .scalar trivial
  have hfloat : (Scalar.float (.finite false (Nat.pow 2 52) 1022)).FromJson := by
    simp [Scalar.FromJson, Number.Binary64.IsCanonical, Number.Binary64.maxExponent]
  refine ⟨?_, fun h => ?_, ?_, ?_⟩
  · refine (compile_enumDefault s none .standard "#/s" (notes (.list [.bool true])) rfl
      (.list (List.forall_mem_singleton.2 htrue))
      (List.forall_mem_singleton.2 (.list (List.forall_mem_singleton.2 hone)))).1.2
      ⟨_, List.mem_singleton_self _, .list rfl fun i v w hv hw => ?_, by simp⟩
    cases i with
    | zero =>
      cases hv
      cases hw
      exact .scalar (.inl rfl)
    | succ i => cases hv
  · obtain ⟨-, hitems⟩ := Value.equalBy_list.1 h
    have hscalar := Value.equalBy_scalar.1 (hitems 0 _ _ rfl rfl)
    cases (Scalar.jsonEqual_of_no_place (.inl rfl)).1 hscalar
  · refine (compile_enumDefault s none .standard "#/s" (notes (.int 1)) rfl hone
      (List.forall_mem_singleton.2 (.scalar hfloat))).2.2.1
      ⟨_, List.mem_singleton_self _, .scalar ((Scalar.int_jsonEqual_float hfloat).2 ?_)⟩
    decide +kernel
  · refine (compile_enumDefault s none .standard "#/s" (notes (.bool true)) rfl htrue
      (List.forall_mem_singleton.2 hone)).2.1.2 ?_
    rintro ⟨v, hv, -, hboth⟩
    obtain rfl := List.mem_singleton.1 hv
    simp at hboth

end Schema

end ApiContract
