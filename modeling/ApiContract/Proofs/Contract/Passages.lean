import ApiContract.Proofs.Contract.Closure
import ApiContract.Proofs.Operation.Assembly
import ApiContract.Proofs.Schema.Passages

/-!
# Strings and dates in contracts

A client writes what it sends and parses what it receives, and a server the other way round; nothing else
is transformed (`compile_directions`). A native date never crosses the wire: where values cross it,
every native date stands on the typed side of a transform of its kind, and in the shape of the wire there
is none (`compile_dates`).
-/

namespace ApiContract

/-- The direction of the transforms of a request or of a response; where nothing crosses the wire there
is none. -/
def Mode.direction? : Mode → Use → Option TransformDirection
  | .client, .request | .server, .response => some .stringify
  | .client, .response | .server, .request => some .parse
  | _, _ => none

/-- What the passages of a side keep passes to what an operation puts together on it. -/
theorem Crossing.Keeps.assembles {s : Setting} {side : Side} {Q : Validator → Prop}
    (hQ : s.crossing.Keeps Q) (hcrossing : side.crossing = s.crossing)
    (hside : side.direction = side.crossing.direction?) : Operation.Assembles s side Q Q := by
  -- A conversion has the direction of its side.
  have hconvert (location : Location) : ∀ x ∈ Operation.conversionAt side location,
      s.crossing.direction? = some x.direction := by
    intro x hx
    obtain ⟨direction, hdirection, rfl⟩ := Option.map_eq_some_iff.1 hx
    rw [← hcrossing, ← hside]
    exact hdirection
  exact {
    schema := fun schema _ _ hc => Schema.keeps_compile hQ schema rfl (by simp) hc
    value := fun _ _ _ location _ _ hc => Schema.keeps_compileValue hQ rfl (hconvert location) hc
    repeated := fun _ _ _ location _ hc => Schema.keeps_compileRepeated hQ rfl (hconvert location) hc
    field := fun _ => id
    object := fun _ => hQ.object.2
    literal := fun _ => hQ.leaf trivial rfl
    noContent := hQ.leaf trivial rfl
    union := fun _ => hQ.union.2
    both := fun _ _ hv hw => (Validator.andAlso_iff fun _ => hQ.intersection).2 ⟨hv, hw⟩ }

namespace Contract

open Outcome

variable {document : Value} {options : Options} {contract : Contract}

/-- A validator of requests or of responses: that of an operation, or that of a declaration whose name
ends as the names of its side do. -/
inductive Describes (contract : Contract) : Use → Validator → Prop where
  | request {id : String} {o : Operation} (member : (id, o) ∈ contract.operations) :
    Describes contract .request o.request
  | response {id : String} {o : Operation} (member : (id, o) ∈ contract.operations) :
    Describes contract .response o.response
  | requestDeclaration {d : Declaration} {key : String} (member : d ∈ contract.declarations)
    (name : d.name = key ++ "__Req") : Describes contract .request d.validator
  | responseDeclaration {d : Declaration} {key : String} (member : d ∈ contract.declarations)
    (name : d.name = key ++ "__Res") : Describes contract .response d.validator

/-- What the passages of all sides keep, every declaration has on its side, every request and every
response. -/
theorem keeps_compile {Q : Crossing → Validator → Prop}
    (hQ : ∀ side ∈ sidesOf options.mode, side.crossing.Keeps (Q side.crossing))
    (h : (compile document options).result = .ok contract) :
    (∀ d ∈ contract.declarations, ∃ side ∈ sidesOf options.mode, ∃ key,
        d.name = declaredName options.namePrefix side key ∧ Q side.crossing d.validator) ∧
      ∀ e ∈ contract.operations, Q (Side.of options.mode .request).crossing e.2.request ∧
        Q (Side.of options.mode .response).crossing e.2.response := by
  obtain ⟨_, -, _, -, compiled, hcompiled, ds, hds, operations, hoperations, rfl⟩ := compile_ok.1 h
  constructor
  · intro d hd
    obtain ⟨_, key, _, schema, side, -, -, -, hside, hdeclared⟩ :=
      component_of_mem hcompiled (Declaration.mem_of_order hds hd)
    obtain ⟨c, hc, -, rfl⟩ := compileDeclaration_ok.1 hdeclared
    exact ⟨side, hside, key, rfl, Schema.keeps_compile (hQ side hside) schema rfl (by simp) hc⟩
  · rintro ⟨id, o⟩ ho
    obtain ⟨_, _, -, -, hsites⟩ := compileOperations_ok hoperations
    obtain ⟨site, -, _, _, -, -, -, hcompiled⟩ := hsites.exists_left ho
    obtain ⟨hrequest, hresponse⟩ := Operation.compile_ok hcompiled
    obtain ⟨hreq, hres⟩ := mem_sidesOf options.mode
    exact ⟨((hQ _ hreq).assembles rfl (Side.direction_of _ _)).of_request hrequest,
      ((hQ _ hres).assembles rfl (Side.direction_of _ _)).of_response hresponse⟩

/-- Everything in a contract is compiled on one of the sides. -/
theorem exists_side_of_holds {Q : Crossing → Validator → Prop}
    (hQ : ∀ side ∈ sidesOf options.mode, side.crossing.Keeps (Q side.crossing))
    (h : (compile document options).result = .ok contract) {v : Validator} (hv : contract.Holds v) :
    ∃ side ∈ sidesOf options.mode, Q side.crossing v := by
  obtain ⟨hdeclarations, hoperations⟩ := keeps_compile hQ h
  obtain ⟨hrequest, hresponse⟩ := mem_sidesOf options.mode
  cases hv with
  | declaration member =>
    obtain ⟨side, hside, -, -, hd⟩ := hdeclarations _ member
    exact ⟨side, hside, hd⟩
  | request member => exact ⟨_, hrequest, (hoperations _ member).1⟩
  | response member => exact ⟨_, hresponse, (hoperations _ member).2⟩

/-! ## Directions -/

theorem crossing_of_use (mode : Mode) (use : Use) (huse : use ≠ .unknown) :
    (Side.of mode use).crossing.direction?.map Direction.transform = mode.direction? use := by
  cases use with
  | unknown => exact absurd rfl huse
  | request => cases mode <;> rfl
  | response => cases mode <;> rfl

theorem direction?_of_not_isDirectional {mode : Mode} (h : mode.isDirectional = false) :
    ∀ side ∈ sidesOf mode, side.crossing.direction? = none := by
  revert h
  cases mode <;> decide

theorem crossing_ne_handler {mode : Mode} (h : mode.isDirectional = true) :
    ∀ side ∈ sidesOf mode, side.crossing ≠ .handler := by
  revert h
  cases mode <;> decide

/-- Endings of one length, of names that are the same, are the same. -/
theorem suffix_eq {a b s t : String} (h : a ++ s = b ++ t)
    (hlength : s.toList.length = t.toList.length) : s = t := by
  have h : a.toList ++ s.toList = b.toList ++ t.toList := by
    simpa using congrArg String.toList h
  exact String.ext (List.append_inj' h hlength).2

/-- Where the two sides of an exchange are compiled apart, the ending of a name tells the side. -/
theorem crossing_of_suffix {mode : Mode} {side : Side} {namePrefix key rest : String} (use : Use)
    (hside : side ∈ sidesOf mode) (huse : use ≠ .unknown)
    (hname : declaredName namePrefix side key = rest ++ (Side.of .client use).suffix) :
    side.crossing.direction?.map Direction.transform = mode.direction? use := by
  have hsuffix : side.suffix.toList.length = (Side.of .client use).suffix.toList.length →
      side.suffix = (Side.of .client use).suffix := suffix_eq hname
  revert hsuffix
  clear hname
  revert side
  cases use with
  | unknown => exact absurd rfl huse
  | request => cases mode <;> decide
  | response => cases mode <;> decide

/-- A client writes requests and parses responses, a server parses requests and writes responses, and in
the other modes nothing is transformed. Every transform is well formed. -/
theorem compile_directions (h : (compile document options).result = .ok contract) :
    (options.mode.isDirectional = false → ∀ v t, contract.Holds v → ¬ v.Transforms t) ∧
      (∀ use v t, contract.Describes use v → v.Transforms t →
        options.mode.direction? use = some t.direction) ∧
      ∀ v t, contract.Holds v → v.Transforms t → t.WellFormed := by
  obtain ⟨hdeclarations, hoperations⟩ := keeps_compile (Q := Validator.Crosses)
    (fun side _ => Validator.keeps_crosses side.crossing) h
  have hall {v : Validator} (hv : contract.Holds v) : ∃ side ∈ sidesOf options.mode,
      v.Crosses side.crossing :=
    exists_side_of_holds (fun side _ => Validator.keeps_crosses side.crossing) h hv
  refine ⟨?_, ?_, ?_⟩
  · intro hmode v t hv ht
    obtain ⟨side, hside, hcrosses⟩ := hall hv
    have hdirection := (hcrosses t ht).1
    rw [direction?_of_not_isDirectional hmode side hside] at hdirection
    cases hdirection
  · intro use v t hv ht
    cases hv with
    | request member =>
      exact (crossing_of_use options.mode .request nofun).symm.trans ((hoperations _ member).1 t ht).1
    | response member =>
      exact (crossing_of_use options.mode .response nofun).symm.trans ((hoperations _ member).2 t ht).1
    | requestDeclaration member name =>
      obtain ⟨side, hside, key, hname, hd⟩ := hdeclarations _ member
      have huse := crossing_of_suffix .request hside nofun (hname.symm.trans name)
      exact huse.symm.trans (hd t ht).1
    | responseDeclaration member name =>
      obtain ⟨side, hside, key, hname, hd⟩ := hdeclarations _ member
      have huse := crossing_of_suffix .response hside nofun (hname.symm.trans name)
      exact huse.symm.trans (hd t ht).1
  · intro v t hv ht
    obtain ⟨side, -, hcrosses⟩ := hall hv
    exact (hcrosses t ht).2

/-- A day, as a schema. -/
def daySchema : Value := .object [("type", .text "string"), ("format", .text "date")]

/-- A document with an operation that takes a day and answers with one. -/
def visits : Value :=
  .object [("openapi", .text "3.0.3"), ("paths", .object [("/visits", .object [("get", .object [
    ("parameters", .list [.object [("name", .text "day"), ("in", .text "query"),
      ("schema", daySchema)]]),
    ("responses", .object [("200", .object [("content", .object [("application/json",
      .object [("schema", daySchema)])])])])])])])]

/-- What a client has to send there. -/
def visitRequest : Validator :=
  .object [("query", .object
    [("day", .optional (.transform (.type .date) .stringify .date none none))] .closed)] .closed

/-- What a client has to expect. -/
def visitResponse : Validator :=
  .object [("statusCode", .literal (.int 200)),
    ("body", .transform (.primitive { type := .string, pattern := some Schema.datePattern }) .parse
      .date none (some (.type .date)))] .closed

theorem compile_visits :
    ∃ contract, (compile visits ⟨.client, ""⟩).result = .ok contract ∧
      contract.operations.map (fun e => (e.2.request, e.2.response)) =
        [(visitRequest, visitResponse)] := by
  have hoperations : (compile visits ⟨.client, ""⟩).result.toOption.map
      (·.operations.map fun e => (e.2.request, e.2.response)) =
        some [(visitRequest, visitResponse)] := rfl
  cases h : (compile visits ⟨.client, ""⟩).result with
  | error fault => simp [h, Except.toOption] at hoperations
  | ok contract => exact ⟨contract, rfl, by simpa [h, Except.toOption] using hoperations⟩

/-- A client writes the day of the request and parses the one of the response. -/
theorem directions_visits :
    ∃ contract, (compile visits ⟨.client, ""⟩).result = .ok contract ∧
      contract.operations.map (fun e => (e.2.request, e.2.response)) = [(visitRequest, visitResponse)] ∧
      (∀ use v t, contract.Describes use v → v.Transforms t →
        Mode.client.direction? use = some t.direction) ∧
      ∀ v t, contract.Holds v → v.Transforms t → t.WellFormed := by
  obtain ⟨contract, h, hoperations⟩ := compile_visits
  exact ⟨contract, h, hoperations, (compile_directions h).2⟩

/-! ## Dates -/

/-- Where values cross the wire, every native date stands inside a transform of its kind, and on the
typed side of all transforms around it. In the shape of the wire there is no native date. -/
theorem compile_dates (h : (compile document options).result = .ok contract) :
    (options.mode.isDirectional = true → ∀ v p kind around, contract.Holds v →
        (Validator.primitive p).Occurs around v → p.type.dateKind? = some kind →
        (∃ e ∈ around, e.kind = kind) ∧ ∀ e ∈ around, e.typed = true) ∧
      (options.mode = .request → ∀ v p, contract.Holds v → (Validator.primitive p).Within v →
        p.type.dateKind? = none) := by
  constructor
  · intro hmode v p kind around hv hp hdate
    have hkeeps : ∀ side ∈ sidesOf options.mode, side.crossing.Keeps Validator.WrapsDates :=
      fun side hside => Validator.keeps_wrapsDates (crossing_ne_handler hmode side hside)
    obtain ⟨_, -, hwraps⟩ := exists_side_of_holds (Q := fun _ => Validator.WrapsDates) hkeeps h hv
    exact hwraps around p kind hp hdate
  · intro hmode v p hv hp
    have hkeeps : ∀ side ∈ sidesOf options.mode, side.crossing.Keeps Validator.Dateless := by
      rw [hmode]
      rintro side hside
      obtain rfl := List.mem_singleton.1 hside
      exact Validator.keeps_dateless
    obtain ⟨_, -, hdateless⟩ := exists_side_of_holds (Q := fun _ => Validator.Dateless) hkeeps h hv
    exact hdateless p hp

/-- The native date in the request is written, and nothing around it takes it for a string. -/
theorem dates_visits :
    ∃ contract, (compile visits ⟨.client, ""⟩).result = .ok contract ∧ contract.Holds visitRequest ∧
      (Validator.type .date).Within visitRequest ∧
      ∀ around, (Validator.type .date).Occurs around visitRequest →
        (∃ e ∈ around, e.kind = .date) ∧ ∀ e ∈ around, e.typed = true := by
  obtain ⟨contract, h, hoperations⟩ := compile_visits
  have hholds : contract.Holds visitRequest := by
    obtain ⟨⟨id, o⟩, ho, heq⟩ := List.mem_map.1 (hoperations ▸ List.mem_singleton_self _)
    exact (Prod.mk.inj heq).1 ▸ .request ho
  have hwithin : (Validator.type .date).Within visitRequest :=
    .child (.head _) (.child (.head _) (.child (.head _) (.child (.head _) .self)))
  refine ⟨contract, h, hholds, hwithin, fun around hp => ?_⟩
  exact (compile_dates h).1 rfl visitRequest _ .date around hholds hp rfl

end Contract

end ApiContract
