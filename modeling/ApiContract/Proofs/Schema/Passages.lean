import ApiContract.Proofs.Schema.Kept

/-!
# Transforms and dates in passages

What compiles on a side has transforms in the direction of its crossing only, all of them well formed
(`keeps_crosses`). Where values cross the wire, native dates stand inside transforms of their kind
(`keeps_wrapsDates`); in the shape of the wire there are none (`keeps_dateless`).
-/

namespace ApiContract

/-- What is parsed comes from strings, and what is written goes to them. -/
def Direction.transform : Direction → TransformDirection
  | .fromString => .parse
  | .toString => .stringify

namespace Validator

/-- Every transform within the validator is one of the crossing. -/
def Crosses (crossing : Crossing) (v : Validator) : Prop :=
  ∀ t, v.Transforms t → crossing.direction?.map Direction.transform = some t.direction ∧ t.WellFormed

/-- Every native date within the validator stands inside a transform of its kind, and nowhere on the side
of the strings. -/
def WrapsDates (v : Validator) : Prop :=
  ∀ around p kind, (primitive p).Occurs around v → p.type.dateKind? = some kind →
    (∃ e ∈ around, e.kind = kind) ∧ ∀ e ∈ around, e.typed = true

/-- No native date stands within the validator. -/
def Dateless (v : Validator) : Prop := ∀ p, (primitive p).Within v → p.type.dateKind? = none

theorem transforms_wrap {notes : Annotations} {v : Validator} {t : Transform} :
    (notes.wrap v).Transforms t ↔ v.Transforms t :=
  Annotations.wrap_iff (P := fun v => v.Transforms t) (fun _ => transforms_nullable) fun _ _ =>
    transforms_default

theorem occurs_wrap {notes : Annotations} {v : Validator} {p : Primitive} {around : List Enclosure} :
    (primitive p).Occurs around (notes.wrap v) ↔ (primitive p).Occurs around v :=
  Annotations.wrap_iff (P := fun v => (primitive p).Occurs around v)
    (fun _ => occurs_nullable nofun) fun _ _ => occurs_default nofun

variable {crossing : Crossing} {typed wire : Validator} {kind : TransformKind} {direction : Direction}

theorem crosses_convertScalar (hdirection : crossing.direction? = some direction)
    (hkind : kind ≠ .join) (hwire : wire.IsOrdinary) (hleaf : wire.children = [])
    (htyped : typed.Crosses crossing) :
    (Schema.convertScalar typed wire kind direction).Crosses crossing := by
  intro t ht
  have hwire : ¬ wire.Transforms t := by simp [transforms_iff hwire.ne_transform, hleaf]
  cases direction with
  | fromString =>
    rcases transforms_transform.1 ht with rfl | hbase | ⟨_, ⟨⟩, hchecked⟩
    · exact ⟨by rw [hdirection]; rfl, fun _ => ⟨rfl, rfl⟩, nofun, by simpa using hkind⟩
    · exact absurd hbase hwire
    · exact htyped t hchecked
  | toString =>
    rcases transforms_transform.1 ht with rfl | hbase | ⟨_, ⟨⟩, _⟩
    · exact ⟨by rw [hdirection]; rfl, nofun, fun _ => rfl, by simpa using hkind⟩
    · exact htyped t hbase

theorem keeps_crosses (crossing : Crossing) : crossing.Keeps (Crosses crossing) where
  parts v hv := by
    simp only [Crosses, transforms_iff hv.ne_transform]
    constructor
    · exact fun h w hw t ht => h t ⟨w, hw, ht⟩
    · rintro h t ⟨w, hw, ht⟩
      exact h w hw t ht
  native _ isDate t ht := absurd ht not_transforms_primitive
  passage typed wire kind direction := crosses_convertScalar
  date notes wire isDate direction hdirection hwire hleaf := by
    refine crosses_convertScalar hdirection (by cases isDate <;> nofun) hwire hleaf fun t ht => ?_
    exact absurd (transforms_wrap.1 ht) not_transforms_primitive
  join v delimiter hdirection hv t ht := by
    rcases transforms_transform.1 ht with rfl | hbase | ⟨_, ⟨⟩, _⟩
    · exact ⟨by rw [hdirection]; rfl, nofun, fun _ => rfl, by simp⟩
    · exact hv t hbase

/-- Whatever stands in the passage of a scalar stands on its typed side. -/
theorem occurs_convertScalar {around : List Enclosure} {p : Primitive} {k : TransformKind}
    (hp : p.type.dateKind? = some k) (hwire : wire.IsOrdinary) (hleaf : wire.children = [])
    (h : (primitive p).Occurs around (Schema.convertScalar typed wire kind direction)) :
    ∃ inside, around = ⟨kind, true⟩ :: inside ∧ (primitive p).Occurs inside typed := by
  cases direction with
  | fromString =>
    refine occurs_parse h primitive_ne_transform fun inside hw => ?_
    rw [occurs_iff hwire (hwire.ne_date hp), hleaf] at hw
    simp at hw
  | toString => exact occurs_stringify h primitive_ne_transform

theorem keeps_wrapsDates (hcrossing : crossing ≠ .handler) : crossing.Keeps WrapsDates where
  parts v hv := by
    constructor
    · intro h w hw around p kind hp hkind
      exact h around p kind ((occurs_iff hv (hv.ne_date hkind)).2 ⟨w, hw, hp⟩) hkind
    · intro h around p kind hp hkind
      obtain ⟨w, hw, hp⟩ := (occurs_iff hv (hv.ne_date hkind)).1 hp
      exact h w hw around p kind hp hkind
  native hhandler := absurd hhandler hcrossing
  passage typed wire kind direction _ _ hwire hleaf htyped around p k hp hdate := by
    obtain ⟨inside, rfl, htypedp⟩ := occurs_convertScalar hdate hwire hleaf hp
    obtain ⟨⟨e, he, hkind⟩, hall⟩ := htyped inside p k htypedp hdate
    exact ⟨⟨e, List.mem_cons_of_mem _ he, hkind⟩, List.forall_mem_cons.2 ⟨rfl, hall⟩⟩
  date notes wire isDate direction _ hwire hleaf around p k hp hdate := by
    obtain ⟨inside, rfl, hnative⟩ := occurs_convertScalar hdate hwire hleaf hp
    obtain ⟨rfl, rfl⟩ := occurs_primitive.1 (occurs_wrap.1 hnative)
    refine ⟨⟨_, List.mem_cons_self, ?_⟩, by simp⟩
    cases isDate <;> exact Option.some.inj hdate
  join v delimiter _ hv around p k hp hdate := by
    obtain ⟨inside, rfl, hvp⟩ := occurs_stringify hp primitive_ne_transform
    obtain ⟨⟨e, he, hkind⟩, hall⟩ := hv inside p k hvp hdate
    exact ⟨⟨e, List.mem_cons_of_mem _ he, hkind⟩, List.forall_mem_cons.2 ⟨rfl, hall⟩⟩

/-- In the shape of the wire nothing passes to or from strings. -/
theorem keeps_dateless : Crossing.Keeps .request Dateless where
  parts v hv := by
    constructor
    · exact fun h w hw p hp => h p (.child hw hp)
    · intro h p hp
      rcases within_iff.1 hp with rfl | ⟨w, hw, hp⟩
      · exact hv
      · exact h w hw p hp
  native := nofun
  passage := nofun
  date := nofun
  join := nofun

end Validator

end ApiContract
