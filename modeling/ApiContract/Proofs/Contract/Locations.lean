import ApiContract.Proofs.Contract.Components
import ApiContract.Proofs.Schema.Diagnostics

/-!
# Pointers of locations

Every location in a document has a pointer, in which the keys and positions on the way to it are escaped
one by one. Followed from the root, it leads back to the value at the location (`Reaches.find`). The
pointer of a component schema is read as a reference to the key under which the schema stands
(`componentKey?_componentPlace`), so that a reference to the source of a declaration gives the name of
that declaration: `pointers_resolve`.
-/

namespace ApiContract

open Outcome Number Pointer

namespace Pointer

/-- A step into a value: to a key of a mapping, or to a position in a list. -/
inductive Step where
  | key (name : String)
  | position (index : Nat)
  deriving DecidableEq, Repr

/-- What stands in a pointer for a step, before it is escaped. -/
def Step.segment : Step → String
  | key name => name
  | position index => intString index

/-- The pointer of a location. -/
def ofSteps (steps : List Step) : String := steps.foldl (fun path step => child path step.segment) "#"

end Pointer

namespace Value

/-- The steps lead from the document to a value in it. -/
inductive Reaches (document : Value) : List Step → Value → Prop where
  | root : Reaches document [] document
  | key {steps : List Step} {name : String} {entries : List (Scalar × Value)} {v : Value}
    (map : Reaches document steps (.map entries)) (member : (Scalar.text name, v) ∈ entries) :
    Reaches document (steps ++ [.key name]) v
  | position {steps : List Step} {index : Nat} {items : List Value} {v : Value}
    (list : Reaches document steps (.list items)) (found : items[index]? = some v) :
    Reaches document (steps ++ [.position index]) v

variable {document v : Value} {steps : List Step}

theorem Reaches.part (h : document.Reaches steps v) : document.Part v := by
  induction h with
  | root => exact .self
  | key _ member ih => exact ih.entry member
  | position _ found ih => exact ih.item (List.mem_of_getElem? found)

end Value

namespace Pointer

variable {document v : Value} {steps : List Step} {path : String}

theorem ofSteps_append (steps : List Step) (step : Step) :
    ofSteps (steps ++ [step]) = child (ofSteps steps) step.segment := by
  simp [ofSteps]

theorem isLocal_ofSteps (steps : List Step) : isLocal (ofSteps steps) = true := by
  induction steps using List.reverseRecOn with
  | nil => rfl
  | append_singleton steps step ih =>
    rw [ofSteps_append]
    exact isLocal_raw ih

/-- A numeral stands in a pointer as it is. -/
theorem child_intString (index : Nat) : child path (intString index) = item path index := by
  have hplain : escapeChars (natText index) = natText index := by
    have hdigits : ∀ c ∈ natText index, c.isDigit = true := fun c => isDigit_of_mem_natText
    generalize natText index = text at hdigits
    fun_induction escapeChars text with
    | case1 => rfl
    | case2 => exact absurd (hdigits '~' List.mem_cons_self) (by decide)
    | case3 => exact absurd (hdigits '/' List.mem_cons_self) (by decide)
    | case4 c rest _ _ ih => rw [ih fun d hd => hdigits d (List.mem_cons_of_mem _ hd)]
  have htext : (intString index).toList = natText index := by simp [intString, intText]
  exact (raw_eq_child (by rw [escape, htext, hplain]; rfl)).symm

end Pointer

namespace Value

variable {document v w : Value} {steps : List Step} {name key : String}
  {entries : List (Scalar × Value)}

/-- The pointer of a location leads to the value that is there. -/
theorem Reaches.find (h : document.Reaches steps v) (hproper : document.Proper)
    (hnumbered : document.Numbered) : Pointer.find document (ofSteps steps) = .ok v := by
  induction h with
  | root => rfl
  | @key steps name entries v map member ih =>
    have hkeys : (entries.map (·.1)).Nodup := (proper_map.1 (map.part.proper hproper)).1
    rw [ofSteps_append, Step.segment, find_child (isLocal_ofSteps steps) ih, step,
      find?_of_mem hkeys member]
  | @position steps index items v list found ih =>
    obtain ⟨hshort, -⟩ := numbered_list.1 (list.part.numbered hnumbered)
    have hlt : index < items.length := (List.getElem?_eq_some_iff.1 found).1
    rw [ofSteps_append, Step.segment, child_intString]
    exact find_item (isLocal_ofSteps steps) ih found (length_natText_le hlt hshort)

theorem Reaches.getOrNull (h : document.Reaches steps v) (hget : v.getOrNull key = .ok w)
    (hw : w.isNull = false) : document.Reaches (steps ++ [.key key]) w := by
  obtain ⟨found, hfound, hdefault⟩ := bind_eq_ok.1 hget
  cases v with
  | map entries =>
    cases hfind : find? key entries with
    | none =>
      obtain rfl : none = found := by simpa [Value.get, hfind] using hfound
      obtain rfl : Value.null = w := by simpa [pure_eq_ok] using hdefault
      cases hw
    | some u =>
      obtain rfl : some u = found := by simpa [Value.get, hfind] using hfound
      obtain rfl : u = w := by simpa [pure_eq_ok] using hdefault
      exact h.key (mem_of_find? hfind)
  | scalar | list | set | endless => cases hfound

/-- A component stands at its name in the part of the components that it belongs to. -/
theorem reaches_component {part : String} {components : List (Scalar × Value)}
    (h : Service.componentsOf document part = .ok components)
    (hmem : (Scalar.text name, v) ∈ components) :
    document.Reaches [.key "components", .key part, .key name] v := by
  simp only [Service.componentsOf, bind_eq_ok] at h
  obtain ⟨stated, hstated, declared, hdeclared, hentries⟩ := h
  split at hdeclared
  next =>
    cases hdeclared
    cases hentries
    cases hmem
  next =>
    have hparts : document.Reaches [.key "components"] stated :=
      Reaches.root.getOrNull hstated (isNull_of_isSome_entries? (isSome_entries?_of_getOrNull hdeclared))
    unfold entriesOrNone at hentries
    split at hentries
    next =>
      cases hentries
      cases hmem
    next =>
      have hpart := hparts.getOrNull hdeclared (isNull_of_entries hentries)
      cases declared with
      | map entries =>
        obtain rfl : entries = components := by simpa [Value.entries] using hentries
        exact hpart.key hmem
      | scalar | list | set | endless => cases hentries

end Value

namespace Schema

/-- The pointer of a component schema is read as the key that the schema stands under. -/
theorem componentKey?_componentPlace (name : String) :
    componentKey? (Contract.componentPlace name) = some name := by
  have hsegment : componentPath.toList.isPrefixOf? (Contract.componentPlace name).toList =
      some (escape name).toList := by
    rw [List.isPrefixOf?_eq_some_iff_append_eq]
    simp [Contract.componentPlace, child, raw, componentPath]
  rw [componentKey?, hsegment, Option.map_some, String.ofList_toList, unescape_escape]

end Schema

namespace Contract

variable {document : Value}

/-- The location of a component schema. -/
def componentSteps (name : String) : List Step := [.key "components", .key "schemas", .key name]

theorem ofSteps_componentSteps (name : String) : ofSteps (componentSteps name) = componentPlace name :=
  rfl

/-- The pointer of every location in a document leads back to the value there. The pointer of a component
schema, as a reference, gives the name that is made of the key under which the schema stands, and this is
the name of every declaration that has the pointer as its source. -/
theorem pointers_resolve (hproper : document.Proper) (hnumbered : document.Numbered) :
    (∀ steps v, document.Reaches steps v → Pointer.find document (ofSteps steps) = .ok v) ∧
      (∀ name raw, document.Reaches (componentSteps name) raw →
        ∀ s : Setting, s.document = document → ∀ convert style path notes,
          (Schema.compile s convert style path (.ref notes (ofSteps (componentSteps name)))).result =
            .ok { validator := .ref (s.declarationName name), dependsOn := [s.declarationName name] }) ∧
      ∀ options ds, (compileComponents document options).result = .ok ds → ∀ d ∈ ds,
        ∃ name raw, ∃ side ∈ sidesOf options.mode, document.Reaches (componentSteps name) raw ∧
          d.source = some (ofSteps (componentSteps name)) ∧
          d.name = (componentSetting document options.namePrefix side).declarationName name := by
  have hfind (steps v) (h : document.Reaches steps v) := h.find hproper hnumbered
  refine ⟨hfind, ?_, ?_⟩
  · rintro name raw hraw s rfl convert style path notes
    have hplace := hfind _ _ hraw
    rw [ofSteps_componentSteps] at hplace ⊢
    exact Schema.compile_ref_ok.2 ⟨name, raw, Schema.componentKey?_componentPlace name, hplace, rfl⟩
  · intro options ds hds d hd
    obtain ⟨components, name, raw, schema, side, hcomponents, hmem, -, hside, hdeclared⟩ :=
      component_of_mem hds hd
    obtain ⟨c, -, -, rfl⟩ := compileDeclaration_ok.1 hdeclared
    exact ⟨name, raw, side, hside, Value.reaches_component hcomponents hmem, rfl, rfl⟩

/-- A document with keys that have to be escaped, that look escaped already and that are empty, and with
a reference to one of them. -/
def awkward : Value :=
  .object [("openapi", .text "3.1.0"), ("components", .object [("schemas", .object [
    ("", .object [("type", .text "boolean")]),
    ("~1/~0", .object [("$ref", .text "#/components/schemas/a~01~1b")]),
    ("a~1/b", .object [("enum", .list [.text "x", .object [("~", .int 1)]])])])])]

/-- The way to the number in the last enum. -/
def awkwardSteps : List Step := componentSteps "a~1/b" ++ [.key "enum", .position 1, .key "~"]

/-- The escapes in a key that looks escaped are escaped again, and an empty key leaves an empty segment.
The reference names the declaration of its target. -/
theorem pointers_resolve_awkward :
    awkward.Proper ∧ awkward.Numbered ∧
      (awkward.Reaches awkwardSteps (.int 1) ∧
        ofSteps awkwardSteps = "#/components/schemas/a~01~1b/enum/1/~0" ∧
        Pointer.find awkward (ofSteps awkwardSteps) = .ok (.int 1)) ∧
      (ofSteps (componentSteps "") = "#/components/schemas/" ∧
        Pointer.find awkward (ofSteps (componentSteps "")) =
          .ok (.object [("type", .text "boolean")])) ∧
      (Schema.compile { document := awkward } none .standard "#"
          (.ref ⟨none, false, none⟩ "#/components/schemas/a~01~1b")).result =
        .ok { validator := .ref "a~1/b", dependsOn := ["a~1/b"] } ∧
      ∃ ds, (compileComponents awkward {}).result = .ok ds ∧
        ∃ d ∈ ds, ∃ name, d.source = some (ofSteps (componentSteps name)) ∧ d.name = "" ++ name ++ "" := by
  have hproper : awkward.Proper := by simp [awkward]
  have hnumbered : awkward.Numbered := by
    simp [awkward, natText, numeralLimit, Nat.toDigits, Nat.toDigitsCore]
  obtain ⟨hfind, href, hdeclared⟩ := pointers_resolve hproper hnumbered
  have hschemas : awkward.Reaches [.key "components", .key "schemas"] _ :=
    (Value.Reaches.root.key (.tail _ (.head _))).key (.head _)
  have hempty : awkward.Reaches (componentSteps "") (.object [("type", .text "boolean")]) :=
    hschemas.key (.head _)
  have htarget : awkward.Reaches (componentSteps "a~1/b") _ :=
    hschemas.key (.tail _ (.tail _ (.head _)))
  have hsecond : awkward.Reaches (componentSteps "a~1/b" ++ [.key "enum"] ++ [.position 1]) _ :=
    .position (htarget.key (.head _)) rfl
  have hnumber : awkward.Reaches awkwardSteps (.int 1) := hsecond.key (.head _)
  refine ⟨hproper, hnumbered, ⟨hnumber, by decide +kernel, hfind _ _ hnumber⟩,
    ⟨by decide +kernel, hfind _ _ hempty⟩, ?_, ?_⟩
  · exact href _ _ htarget { document := awkward } rfl none .standard "#" ⟨none, false, none⟩
  · obtain ⟨ds, hds, d, hd⟩ : ∃ ds, (compileComponents awkward {}).result = .ok ds ∧ ∃ d, d ∈ ds :=
      ⟨_, rfl, _, .head _⟩
    obtain ⟨name, -, side, hside, -, hsource, hname⟩ := hdeclared {} ds hds d hd
    obtain rfl := List.mem_singleton.1 hside
    exact ⟨ds, hds, d, hd, name, hsource, hname⟩

end Contract

end ApiContract
