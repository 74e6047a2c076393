import ApiContract.Contract.Basic
import ApiContract.Proofs.Schema.References
import ApiContract.Proofs.Value.Proper
import Mathlib.Data.List.Flatten

/-!
# The declarations of component schemas

Each component schema gives one declaration for every side, under its key between the prefix and the
suffix of the side (`names_compileComponents`). In a proper document no two of these names are the same
(`nodup_names_compileComponents`), and in every mode the sides of requests and of responses are among
those declared (`mem_sidesOf`), so that a name that a reference gives is declared when its key is one of
a component (`declaredName_mem_names`).
-/

namespace ApiContract

namespace Contract

open Outcome

variable {document : Value} {options : Options} {ds : List Declaration}

/-! ## When components compile -/

/-- The settings in which component schemas are compiled for one side. -/
def componentSetting (document : Value) (namePrefix : String) (side : Side) : Setting :=
  { document, crossing := side.crossing, namePrefix, suffix := side.suffix }

/-- Where the component schema of a name stands. -/
def componentPlace (name : String) : String := Pointer.child "#/components/schemas" name

theorem compileDeclaration_ok {namePrefix name path : String} {schema : Schema} {side : Side}
    {d : Declaration} :
    (compileDeclaration document namePrefix name schema path side).result = .ok d ↔
      ∃ c, (schema.compile (componentSetting document namePrefix side) none .standard path).result =
          .ok c ∧ c.hasDefault = false ∧
        { name := (componentSetting document namePrefix side).declarationName name,
          validator := c.validator, dependsOn := c.dependsOn, source := some path } = d := by
  simp only [compileDeclaration, Schema.compileValue, Reported.result_bind, Reported.result_lift,
    Reported.result_pure, bind_eq_ok, Schema.requireValue_ok, componentSetting]
  simp [and_assoc]

theorem compileComponent_ok {key : Scalar} {raw : Value} :
    (compileComponent document options key raw).result = .ok ds ↔
      ∃ name schema, key = .text name ∧ Schema.read raw (componentPlace name) 0 = .ok schema ∧
        List.Forall₂ (fun side d =>
            (compileDeclaration document options.namePrefix name schema (componentPlace name)
              side).result = .ok d)
          (sidesOf options.mode) ds := by
  simp only [compileComponent, Reported.result_bind, Reported.result_lift, Reported.result_mapM,
    bind_eq_ok, mapM_eq_ok, componentPlace]
  cases key <;> simp [Scalar.asText]

theorem compileComponents_ok :
    (compileComponents document options).result = .ok ds ↔
      ∃ components blocks, Service.componentsOf document "schemas" = .ok components ∧
        List.Forall₂ (fun e block => (compileComponent document options e.1 e.2).result = .ok block)
          components blocks ∧
        blocks.flatten = ds := by
  simp only [compileComponents, Reported.result_bind, Reported.result_lift, Reported.result_pure,
    Reported.result_mapM, bind_eq_ok, mapM_eq_ok, Except.ok.injEq, exists_and_left]

/-- A declaration is that of a component schema on one of the sides. -/
theorem component_of_mem (h : (compileComponents document options).result = .ok ds)
    {d : Declaration} (hd : d ∈ ds) :
    ∃ components name raw schema side,
      Service.componentsOf document "schemas" = .ok components ∧
        (Scalar.text name, raw) ∈ components ∧
        Schema.read raw (componentPlace name) 0 = .ok schema ∧ side ∈ sidesOf options.mode ∧
        (compileDeclaration document options.namePrefix name schema (componentPlace name)
          side).result = .ok d := by
  obtain ⟨components, blocks, hcomponents, hblocks, rfl⟩ := compileComponents_ok.1 h
  obtain ⟨block, hblock, hd⟩ := List.mem_flatten.1 hd
  obtain ⟨⟨key, raw⟩, he, hblock⟩ := hblocks.exists_left hblock
  obtain ⟨name, schema, rfl, hschema, hsides⟩ := compileComponent_ok.1 hblock
  obtain ⟨side, hside, hd⟩ := hsides.exists_left hd
  exact ⟨components, name, raw, schema, side, hcomponents, he, hschema, hside, hd⟩

/-- A component schema has a declaration on each side. -/
theorem exists_declaration (h : (compileComponents document options).result = .ok ds)
    {components : List (Scalar × Value)} {name : String} {raw : Value} {schema : Schema} {side : Side}
    (hcomponents : Service.componentsOf document "schemas" = .ok components)
    (he : (Scalar.text name, raw) ∈ components)
    (hschema : Schema.read raw (componentPlace name) 0 = .ok schema)
    (hside : side ∈ sidesOf options.mode) :
    ∃ d ∈ ds, (compileDeclaration document options.namePrefix name schema (componentPlace name)
      side).result = .ok d := by
  obtain ⟨components', blocks, hcomponents', hblocks, rfl⟩ := compileComponents_ok.1 h
  obtain rfl := Except.ok.inj (hcomponents.symm.trans hcomponents')
  obtain ⟨block, hmem, hblock⟩ := hblocks.exists_right he
  obtain ⟨name', schema', hname, hschema', hsides⟩ := compileComponent_ok.1 hblock
  obtain rfl : name = name' := by simpa using hname
  obtain rfl := Except.ok.inj (hschema.symm.trans hschema')
  obtain ⟨d, hd, hcompiled⟩ := hsides.exists_right hside
  exact ⟨d, List.mem_flatten.2 ⟨block, hmem, hd⟩, hcompiled⟩

/-! ## Their names -/

/-- The keys of the component schemas. -/
def componentNames (document : Value) : List String :=
  match Service.componentsOf document "schemas" with
  | .ok components => (components.map (·.1)).filterMap fun
    | .text name => some name
    | _ => none
  | .error _ => []

/-- The name of the declaration of a component schema on a side. -/
def declaredName (namePrefix : String) (side : Side) (name : String) : String :=
  namePrefix ++ name ++ side.suffix

theorem headings_compileComponent {name : String} {raw : Value}
    (h : (compileComponent document options (.text name) raw).result = .ok ds) :
    ds.map (fun d => (d.name, d.source)) = (sidesOf options.mode).map fun side =>
      (declaredName options.namePrefix side name, some (componentPlace name)) := by
  obtain ⟨name', schema, hname, -, hsides⟩ := compileComponent_ok.1 h
  obtain rfl : name = name' := by simpa using hname
  refine (hsides.map_eq fun side d hd => ?_).symm
  obtain ⟨c, -, -, rfl⟩ := compileDeclaration_ok.1 hd
  rfl

/-- The names and the sources of the declarations, in document order. -/
theorem headings_compileComponents (h : (compileComponents document options).result = .ok ds) :
    ds.map (fun d => (d.name, d.source)) = (componentNames document).flatMap fun name =>
      (sidesOf options.mode).map fun side =>
        (declaredName options.namePrefix side name, some (componentPlace name)) := by
  obtain ⟨components, blocks, hcomponents, hblocks, rfl⟩ := compileComponents_ok.1 h
  simp only [componentNames, hcomponents]
  clear hcomponents h
  induction hblocks with
  | nil => rfl
  | @cons e block _ _ hblock _ ih =>
    obtain ⟨key, raw⟩ := e
    obtain ⟨name, schema, rfl, -, -⟩ := compileComponent_ok.1 hblock
    simp only [List.flatten_cons, List.map_append, headings_compileComponent hblock, ih,
      List.map_cons, List.filterMap_cons, List.flatMap_cons]

theorem names_compileComponents (h : (compileComponents document options).result = .ok ds) :
    ds.map (·.name) = (componentNames document).flatMap fun name =>
      (sidesOf options.mode).map fun side => declaredName options.namePrefix side name := by
  have hnames := congrArg (List.map Prod.fst) (headings_compileComponents h)
  simpa only [List.map_map, List.map_flatMap, Function.comp_def] using hnames

/-- The requests and the responses of every mode are on sides for which components are compiled. -/
theorem mem_sidesOf (mode : Mode) :
    Side.of mode .request ∈ sidesOf mode ∧ Side.of mode .response ∈ sidesOf mode := by
  cases mode <;> decide

theorem length_suffix (mode : Mode) : ∀ side ∈ sidesOf mode, ∀ side' ∈ sidesOf mode,
    side.suffix.toList.length = side'.suffix.toList.length := by
  cases mode <;> decide

theorem nodup_sidesOf (mode : Mode) : (sidesOf mode).Nodup := by cases mode <;> decide

theorem eq_of_suffix_eq (mode : Mode) : ∀ side ∈ sidesOf mode, ∀ side' ∈ sidesOf mode,
    side.suffix = side'.suffix → side = side' := by
  cases mode <;> decide

/-- Prefixes are the same and suffixes of the sides of one mode as long as each other, so that the name
of a declaration tells its component and its side. -/
theorem declaredName_inj {mode : Mode} {namePrefix a b : String} {side side' : Side}
    (hside : side ∈ sidesOf mode) (hside' : side' ∈ sidesOf mode)
    (h : declaredName namePrefix side a = declaredName namePrefix side' b) :
    a = b ∧ side.suffix = side'.suffix := by
  have hlength : side.suffix.toList.length = side'.suffix.toList.length :=
    length_suffix mode side hside side' hside'
  have h : namePrefix.toList ++ a.toList ++ side.suffix.toList =
      namePrefix.toList ++ b.toList ++ side'.suffix.toList := by
    simpa [declaredName] using congrArg String.toList h
  obtain ⟨h, hsuffix⟩ := List.append_inj' h hlength
  exact ⟨String.ext (List.append_cancel_left h), String.ext hsuffix⟩

theorem nodup_keys_componentsOf {part : String} {components : List (Scalar × Value)}
    (hp : document.Proper) (h : Service.componentsOf document part = .ok components) :
    (components.map (·.1)).Nodup := by
  simp only [Service.componentsOf, bind_eq_ok] at h
  obtain ⟨all, hall, found, hfound, hcomponents⟩ := h
  have hp : (if all.isVacant then Value.map [] else all).Proper := by
    split
    · exact .map List.nodup_nil (by simp)
    · exact hp.getOrNull hall
  exact ((hp.getOrNull hfound).entriesOrNone hcomponents).1

theorem nodup_componentNames (h : document.Proper) : (componentNames document).Nodup := by
  unfold componentNames
  split
  next components hcomponents =>
    refine (nodup_keys_componentsOf h hcomponents).filterMap ?_
    intro a b name ha hb
    cases a <;> simp only [Option.mem_def, Option.some.injEq, reduceCtorEq] at ha
    cases b <;> simp only [Option.mem_def, Option.some.injEq, reduceCtorEq] at hb
    rw [ha, hb]
  next => exact List.nodup_nil

theorem nodup_names_compileComponents (hp : document.Proper)
    (h : (compileComponents document options).result = .ok ds) : (ds.map (·.name)).Nodup := by
  rw [names_compileComponents h, List.nodup_flatMap]
  constructor
  · intro name _
    refine List.Nodup.map_on ?_ (nodup_sidesOf options.mode)
    intro side hside side' hside' heq
    exact eq_of_suffix_eq options.mode side hside side' hside' (declaredName_inj hside hside' heq).2
  · refine (nodup_componentNames hp).imp fun hne => ?_
    show List.Disjoint _ _
    rw [List.disjoint_left]
    intro declared ha hb
    obtain ⟨side, hside, rfl⟩ := List.mem_map.1 ha
    obtain ⟨side', hside', heq⟩ := List.mem_map.1 hb
    exact hne (declaredName_inj hside' hside heq).1.symm

/-- The name that a reference gives on a side is declared when it leads to a component schema. -/
theorem declaredName_mem_names (h : (compileComponents document options).result = .ok ds)
    {side : Side} (hside : side ∈ sidesOf options.mode) {name : String} :
    declaredName options.namePrefix side name ∈ ds.map (·.name) ↔ name ∈ componentNames document := by
  rw [names_compileComponents h, List.mem_flatMap]
  constructor
  · rintro ⟨other, hother, hmem⟩
    obtain ⟨side', hside', heq⟩ := List.mem_map.1 hmem
    exact (declaredName_inj hside' hside heq).1 ▸ hother
  · exact fun hname => ⟨name, hname, List.mem_map_of_mem hside⟩

end Contract

end ApiContract
