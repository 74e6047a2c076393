import ApiContract.Proofs.Operation.Response

/-!
# The groups of a request

Parameters of the path and of the operation are merged in two steps. A parameter of the path of which
the operation has the name and the location itself is left out before anything of it is compiled; of the
others a later one takes the place of an earlier one, and names of headers are compared in lower case.
Together the two say that the last parameter of the operation at a place decides, or else the last one of
the path (`decisive`), and that nothing else of a request depends on parameters: `compile_groups`.
-/

namespace ApiContract

/-! ## Texts among keys -/

theorem Scalar.alike_text {a : Scalar} {text : String} :
    a.alike (.text text) = true ↔ a = .text text := by
  cases a with
  | text => simp [alike, whole?]
  | float x => cases hx : x.toInt? <;> simp [alike, whole?, hx]
  | null | bool | int | date | timestamp | bytes => simp [alike, whole?]

theorem Scalar.text_alike {a : Scalar} {text : String} :
    (Scalar.text text).alike a = true ↔ a = .text text := by
  cases a with
  | text => simpa [alike, whole?] using eq_comm
  | float x => cases hx : x.toInt? <;> simp [alike, whole?, hx]
  | null | bool | int | date | timestamp | bytes => simp [alike, whole?]

namespace Operation

open Outcome

variable {ν : Type}

/-- Where all keys are texts after an insertion, they were so before, and it was one of texts. -/
theorem named_of_insertBy {key : Scalar} {v : ν} {entries : List (Scalar × ν)}
    {named : List (String × ν)}
    (h : insertBy Scalar.alike key v entries = named.map fun e => (Scalar.text e.1, e.2)) :
    ∃ name earlier, key = .text name ∧ entries = earlier.map (fun e => (Scalar.text e.1, e.2)) ∧
      named = insertEntry name v earlier := by
  induction entries generalizing named with
  | nil =>
    obtain ⟨⟨name, w⟩, rfl, heq⟩ := List.map_eq_singleton_iff.1 h.symm
    cases heq
    exact ⟨name, [], rfl, rfl, rfl⟩
  | cons e rest ih =>
    obtain ⟨k, w⟩ := e
    by_cases hsame : k.alike key = true
    · simp only [insertBy, hsame, ↓reduceIte] at h
      obtain ⟨first, named, rfl, hfirst, rfl⟩ := List.map_eq_cons_iff.1 h.symm
      obtain ⟨rfl, rfl⟩ := Prod.mk.inj hfirst
      refine ⟨first.1, (first.1, w) :: named, Scalar.text_alike.1 hsame, rfl, ?_⟩
      simp [insertEntry, insertBy]
    · simp only [insertBy, hsame, Bool.false_eq_true, ↓reduceIte] at h
      obtain ⟨⟨other, w⟩, named, rfl, ⟨⟩, hrest⟩ := List.map_eq_cons_iff.1 h.symm
      obtain ⟨name, earlier, rfl, rfl, rfl⟩ := ih hrest.symm
      refine ⟨name, (other, w) :: earlier, rfl, rfl, ?_⟩
      have hother : other ≠ name := fun heq => hsame (Scalar.text_alike.2 (by rw [heq]))
      simp [insertEntry, insertBy, hother]

theorem groupAt_append_singleton (location : Location) (xs : List (Location × Scalar × ν))
    (e : Location × Scalar × ν) :
    groupAt location (xs ++ [e]) =
      if e.1 = location then insertBy Scalar.alike e.2.1 e.2.2 (groupAt location xs)
      else groupAt location xs := by
  unfold groupAt
  by_cases h : e.1 = location <;> simp [h]

/-- In a group of named parameters the last one of a name stays. -/
theorem mem_of_groupAt {location : Location} {compiled : List (Location × Scalar × ν)}
    {named : List (String × ν)}
    (h : groupAt location compiled = named.map fun e => (Scalar.text e.1, e.2)) :
    (named.map (·.1)).Nodup ∧ ∀ key v, (key, v) ∈ named ↔
      compiled.reverse.find? (fun e => e.1 == location && e.2.1 == .text key) =
        some (location, .text key, v) := by
  induction compiled using List.reverseRecOn generalizing named with
  | nil =>
    obtain rfl : named = [] := List.map_eq_nil_iff.1 h.symm
    simp
  | append_singleton xs e ih =>
    obtain ⟨found, k, w⟩ := e
    rw [groupAt_append_singleton] at h
    simp only [List.reverse_append, List.reverse_cons, List.reverse_nil, List.nil_append,
      List.cons_append, List.find?_cons]
    by_cases hfound : found = location
    · rw [if_pos hfound] at h
      obtain ⟨name, earlier, rfl, hearlier, rfl⟩ := named_of_insertBy h
      obtain ⟨hnodup, hmem⟩ := ih hearlier
      refine ⟨nodup_insertBy (by simp) hnodup, fun key v => ?_⟩
      rw [mem_insertEntry hnodup, hmem]
      by_cases hkey : name = key
      · subst hkey hfound
        simp [eq_comm]
      · have hother : (Scalar.text name == Scalar.text key) = false := by simpa using hkey
        simp [hfound, hother, Ne.symm hkey]
    · rw [if_neg hfound] at h
      have hother : (found == location) = false := beq_false_of_ne hfound
      simpa only [hother, Bool.false_and] using ih h

/-! ## Places -/

/-- The key of a name among the parameters of a location. -/
def keyAt (location : Location) (name : String) : String :=
  if location = .header then Text.lowerString name else name

/-- Where a parameter stands in a request: its location, and its key there. -/
def Parameter.place? (p : Parameter) : Option (Location × String) :=
  match p.identity with
  | .ok (.text name, .text location) =>
    (Location.ofName? location).map fun location => (location, keyAt location name)
  | _ => none

/-- The last one of the parameters at a place. -/
def lastAt (place : Location × String) (parameters : List Parameter) : Option Parameter :=
  parameters.reverse.find? (·.place? == some place)

/-- The parameter that decides what stands at a place. -/
def decisive (ofPath ofOperation : List Parameter) (place : Location × String) : Option Parameter :=
  (lastAt place ofOperation).or (lastAt place ofPath)

theorem isSome_lastAt {place : Location × String} {parameters : List Parameter} :
    (lastAt place parameters).isSome ↔ ∃ p ∈ parameters, p.place? = some place := by
  simp [lastAt]

theorem lastAt_append (place : Location × String) (xs ys : List Parameter) :
    lastAt place (xs ++ ys) = (lastAt place ys).or (lastAt place xs) := by
  rw [lastAt, List.reverse_append, List.find?_append]
  rfl

theorem scalarOf_of_groupKey {location : Location} {name : Value} {key : Scalar}
    (h : groupKey location name = .ok key) : ∃ a, name = .scalar a := by
  cases name with
  | scalar a => exact ⟨a, rfl⟩
  | list | map | set | endless => cases location <;> cases h

theorem locationOf?_eq_some {v : Value} {location : Location} (h : locationOf? v = some location) :
    ∃ text, v = .text text ∧ Location.ofName? text = some location := by
  unfold locationOf? at h
  split at h
  next text => exact ⟨text, rfl, h⟩
  next => cases h

/-- A parameter that is read is known by a scalar and by the name of its location. -/
theorem identity_of_read {p : Parameter} {location : Location} {key : Scalar} {schema : Schema}
    (h : p.read = .ok (location, key, schema)) :
    ∃ name text, p.identity = .ok (name, .text text) ∧ Location.ofName? text = some location ∧
      groupKey location (.scalar name) = .ok key := by
  simp only [Parameter.read, bind_eq_ok] at h
  obtain ⟨stated, hstated, place, hplace, h⟩ := h
  split at h
  next => cases h
  next found hfound =>
    simp only [bind_eq_ok, pure_eq_ok, Prod.mk.injEq] at h
    obtain ⟨_, -, _, -, _, hkey, rfl, rfl, -⟩ := h
    obtain ⟨text, rfl, hlocation⟩ := locationOf?_eq_some hfound
    obtain ⟨name, hname⟩ := scalarOf_of_groupKey hkey
    refine ⟨name, text, ?_, hlocation, hname ▸ hkey⟩
    simp only [Value.getOrNull, bind_eq_ok, pure_eq_ok] at hplace
    obtain ⟨_ | _, hin, hplace⟩ := hplace
    · cases hplace
    · obtain rfl : _ = Value.text text := hplace
      simp only [Parameter.identity, bind_eq_ok, pure_eq_ok]
      exact ⟨stated, hstated, name, by rw [hname]; rfl, _, hin, _, rfl, rfl⟩

/-- A parameter that is read stands at the place that it names. -/
theorem place?_of_read {p : Parameter} {found location : Location} {key : Scalar} {name : String}
    {schema : Schema} (h : p.read = .ok (found, key, schema)) :
    p.place? = some (location, name) ↔ found = location ∧ key = .text name := by
  obtain ⟨stated, text, hidentity, hfound, hkey⟩ := identity_of_read h
  unfold Parameter.place?
  rw [hidentity]
  cases stated with
  | text stated =>
    obtain rfl : Scalar.text (keyAt found stated) = key := by
      cases found <;> simpa [groupKey, scalarOf, keyAt] using hkey
    simp [hfound]
  | null | bool | int | float | date | timestamp | bytes =>
    have hother : key ≠ .text name := by
      rintro rfl
      cases found <;> cases hkey
    simp [hother]

/-! ## Merging -/

/-- The first parameter has the name and the location of the second one. -/
def Parameter.overrides (q p : Parameter) : Bool :=
  match q.identity, p.identity with
  | .ok (n, l), .ok (name, location) => n.alike name && l.alike location
  | _, _ => false

theorem Parameter.place?_of_overrides {q p : Parameter} {place : Location × String}
    (h : q.overrides p = true) (hp : p.place? = some place) : q.place? = some place := by
  unfold Parameter.overrides at h
  split at h
  next n l name location hq hp' =>
    simp only [Bool.and_eq_true] at h
    rw [← hp]
    unfold Parameter.place? at hp ⊢
    rw [hp'] at hp ⊢
    split at hp
    next heq =>
      cases heq
      rw [hq, Scalar.alike_text.1 h.1, Scalar.alike_text.1 h.2]
    next => cases hp
  next => cases h

theorem any_overrides {ofOperation : List Parameter} {own : List (Scalar × Scalar)} {p : Parameter}
    {name location : Scalar} (hown : ofOperation.mapM Parameter.identity = .ok own)
    (hp : p.identity = .ok (name, location)) :
    ofOperation.any (·.overrides p) =
      own.any fun (n, l) => n.alike name && l.alike location :=
  (mapM_eq_ok.1 hown).any_eq fun q i hq => by rw [Parameter.overrides, hq, hp]

/-- What is merged: the parameters of the path but those that the operation has itself, and then those
of the operation. -/
theorem mergeParameters_ok {ofPath ofOperation merged : List Parameter}
    (h : mergeParameters ofPath ofOperation = .ok merged) :
    merged = ofPath.filter (fun p => !ofOperation.any (·.overrides p)) ++ ofOperation := by
  simp only [mergeParameters, bind_eq_ok, filterMapM_eq_ok, pure_eq_ok] at h
  obtain ⟨own, hown, _, ⟨kept, hkept, rfl⟩, rfl⟩ := h
  congr 1
  induction hkept with
  | nil => rfl
  | @cons p found ofPath _ hp _ ih =>
    obtain ⟨⟨name, location⟩, hidentity, hfound⟩ := hp
    rw [List.filter_cons, any_overrides hown hidentity, ← ih]
    subst hfound
    cases own.any (fun (n, l) => n.alike name && l.alike location) <;> simp

/-- In what is merged the same parameter comes last at a place as decides there. -/
theorem lastAt_merged {ofPath ofOperation merged : List Parameter} (place : Location × String)
    (h : mergeParameters ofPath ofOperation = .ok merged) :
    lastAt place merged = decisive ofPath ofOperation place := by
  rw [mergeParameters_ok h, lastAt_append, decisive]
  cases hown : lastAt place ofOperation with
  | some q => rfl
  | none =>
    -- No parameter at this place was left out, since one of the operation would stand there.
    have hkept : ∀ p ∈ ofPath, p.place? = some place → ofOperation.any (·.overrides p) = false := by
      intro p _ hp
      rw [List.any_eq_false]
      intro q hq hoverrides
      have hplace := Parameter.place?_of_overrides hoverrides hp
      simpa [hown] using isSome_lastAt.2 ⟨q, hq, hplace⟩
    unfold lastAt
    rw [← List.filter_reverse, List.find?_filter]
    rw [← List.head?_filter, ← List.head?_filter]
    refine congrArg List.head? (List.filter_congr fun p hp => ?_)
    by_cases hplace : p.place? = some place
    · simp [hplace, hkept p (List.mem_reverse.1 hp) hplace]
    · simp [hplace]

/-- The lists differ in parameters that are overridden alone, and not in what these are known by. -/
def SameButOverridden (ofOperation : List Parameter) : List Parameter → List Parameter → Prop :=
  List.Forall₂ fun p p' =>
    p' = p ∨ p'.identity = p.identity ∧ ofOperation.any (·.overrides p) = true

theorem mergeParameters_congr {ofPath ofPath' ofOperation : List Parameter}
    (h : SameButOverridden ofOperation ofPath ofPath') :
    mergeParameters ofPath' ofOperation = mergeParameters ofPath ofOperation := by
  unfold mergeParameters
  refine bind_congr_of_ok fun own hown => ?_
  refine congrArg (· >>= _) ?_
  induction h with
  | nil => rfl
  | @cons p p' _ _ hp _ ih =>
    rw [List.filterMapM_cons, List.filterMapM_cons, ih]
    refine congrArg (· >>= _) ?_
    obtain rfl | ⟨hidentity, hoverridden⟩ := hp
    · rfl
    rw [hidentity]
    refine bind_congr_of_ok fun (name, location) hname => ?_
    rw [any_overrides hown hname] at hoverridden
    simp only [hoverridden, ↓reduceIte]

/-! ## Groups -/

/-- The object of the groups that have keys, if there is one. -/
def groupsObject (group : Location → List (String × Validator)) : Option Validator :=
  let fields := groupNames.filterMap fun (location, name) =>
    if (group location).isEmpty then none
    else some (name, Validator.object (group location) .closed)
  if fields.isEmpty then none else some (.object fields .closed)

theorem named_of_groupField {compiled : List (Location × Scalar × Validator)}
    {g : Location × String} {field : Option (String × Validator)}
    (h : groupField compiled g = .ok field) :
    ∃ named : List (String × Validator),
      groupAt g.1 compiled = named.map (fun e => (Scalar.text e.1, e.2)) ∧
        (if named.isEmpty then none else some (g.2, Validator.object named .closed)) = field := by
  unfold groupField at h
  split at h
  next hempty =>
    exact ⟨[], List.isEmpty_iff.1 hempty, Except.ok.inj h⟩
  next hgroup =>
    obtain ⟨v, hv, rfl⟩ := map_eq_ok.1 h
    obtain ⟨named, hnamed, rfl⟩ := closedObject_ok.1 hv
    refine ⟨named, hnamed, if_neg ?_⟩
    simpa [hnamed] using hgroup

theorem parameterObject_groups {compiled : List (Location × Scalar × Validator)}
    {parameters : Option Validator} (h : parameterObject compiled = .ok parameters) :
    ∃ group : Location → List (String × Validator),
      (∀ location, groupAt location compiled =
        (group location).map fun e => (Scalar.text e.1, e.2)) ∧
      parameters = groupsObject group := by
  obtain ⟨fields, hfields, rfl⟩ := parameterObject_ok.1 h
  obtain _ | ⟨hheaders, _ | ⟨hparams, _ | ⟨hquery, ⟨⟩⟩⟩⟩ := hfields
  obtain ⟨named₁, hnamed₁, rfl⟩ := named_of_groupField hheaders
  obtain ⟨named₂, hnamed₂, rfl⟩ := named_of_groupField hparams
  obtain ⟨named₃, hnamed₃, rfl⟩ := named_of_groupField hquery
  refine ⟨fun | .header => named₁ | .path => named₂ | .query => named₃, ?_, rfl⟩
  rintro (_ | _ | _)
  exacts [hnamed₂, hnamed₃, hnamed₁]

/-- The entries of a group are those of the parameters that decide at its location. -/
structure IsGroup (s : Setting) (side : Side) (ofPath ofOperation : List Parameter)
    (location : Location) (group : List (String × Validator)) : Prop where
  nodup : (group.map (·.1)).Nodup
  /-- The keys are those of all parameters of the location, which of them decides or not. -/
  mem_keys : ∀ key, key ∈ group.map (·.1) ↔
    ∃ p ∈ ofPath ++ ofOperation, p.place? = some (location, key)
  mem : ∀ key v, (key, v) ∈ group ↔ ∃ p, decisive ofPath ofOperation (location, key) = some p ∧
    (compileParameter s side p).result = .ok (location, .text key, v)

theorem isSome_decisive {ofPath ofOperation : List Parameter} {place : Location × String} :
    (decisive ofPath ofOperation place).isSome ↔
      ∃ p ∈ ofPath ++ ofOperation, p.place? = some place := by
  rw [decisive, ← lastAt_append, isSome_lastAt]

theorem isGroup_of_merged {s : Setting} {side : Side} {ofPath ofOperation merged : List Parameter}
    {compiled : List (Location × Scalar × Validator)} {location : Location}
    {group : List (String × Validator)} (hmerged : mergeParameters ofPath ofOperation = .ok merged)
    (hcompiled : List.Forall₂ (fun p r => (compileParameter s side p).result = .ok r) merged compiled)
    (hgroup : groupAt location compiled = group.map fun e => (Scalar.text e.1, e.2)) :
    IsGroup s side ofPath ofOperation location group := by
  obtain ⟨hnodup, hmem⟩ := mem_of_groupAt hgroup
  have hfind (key : String) :
      Option.Rel (fun p r => (compileParameter s side p).result = .ok r)
        (decisive ofPath ofOperation (location, key))
        (compiled.reverse.find? fun e => e.1 == location && e.2.1 == .text key) := by
    rw [← lastAt_merged _ hmerged]
    refine (List.forall₂_reverse_iff.2 hcompiled).rel_find? fun p r hr => ?_
    obtain ⟨found, k, v⟩ := r
    obtain ⟨schema, _, _, _, hread, -⟩ := compileParameter_ok hr
    rw [Bool.eq_iff_iff]
    simpa using place?_of_read hread
  have hvalue (key : String) (v : Validator) : (key, v) ∈ group ↔
      ∃ p, decisive ofPath ofOperation (location, key) = some p ∧
        (compileParameter s side p).result = .ok (location, .text key, v) := by
    rw [hmem]
    have hrel := hfind key
    generalize decisive ofPath ofOperation (location, key) = p at hrel ⊢
    generalize compiled.reverse.find? _ = r at hrel ⊢
    cases hrel with
    | none => simp
    | some hp => simp [hp]
  refine ⟨hnodup, fun key => ?_, hvalue⟩
  rw [← isSome_decisive]
  constructor
  · intro hkey
    obtain ⟨⟨key, v⟩, hv, rfl⟩ := List.mem_map.1 hkey
    obtain ⟨p, hp, -⟩ := (hvalue key v).1 hv
    exact Option.isSome_iff_exists.2 ⟨p, hp⟩
  · intro hdecisive
    obtain ⟨p, hp⟩ := Option.isSome_iff_exists.1 hdecisive
    have hrel := hfind key
    cases hfound : compiled.reverse.find? fun e => e.1 == location && e.2.1 == .text key with
    | none => simp [hp, hfound] at hrel
    | some r =>
      obtain ⟨found, k, v⟩ := r
      obtain ⟨rfl, rfl⟩ : found = location ∧ k = .text key := by simpa using List.find?_some hfound
      exact List.mem_map.2 ⟨(key, v), (hmem key v).2 hfound, rfl⟩

/-! ## The request -/

/-- The parameters that an operation has itself. -/
def ownParameters (document operation : Value) (path : String) : Except Fault (List Parameter) := do
  resolveParameters document (← operation.getOrNull "parameters") path

variable {document operation pathParameters pathParameters' : Value} {method route : String}
  {mode : Mode} {namePrefix path : String} {ofPath ofPath' ofOperation : List Parameter}

theorem requestParameters_eq :
    requestParameters document operation path pathParameters = (do
      let ofPath ← resolveParameters document pathParameters (Pointer.parent path)
      mergeParameters ofPath (← ownParameters document operation path)) := by
  simp only [requestParameters, ownParameters, bind_assoc]

theorem compileRequest_eq :
    compileRequest mode namePrefix document operation path pathParameters = (do
      let parameters ← requestParameters document operation path pathParameters
      let s := sideSetting document namePrefix (Side.of mode .request) .request
      let compiled ← parameters.mapM (compileParameter s (Side.of mode .request))
      let groups ← parameterObject compiled
      return joinRequest groups (← compileBody s operation path)) := by
  simp only [compileRequest, requestParameters, Reported.lift_bind, bind_assoc]

/-- Parameters that the operation has itself do not matter, whatever they are. -/
theorem compile_eq_of_overridden
    (hofPath : resolveParameters document pathParameters (Pointer.parent path) = .ok ofPath)
    (hofPath' : resolveParameters document pathParameters' (Pointer.parent path) = .ok ofPath')
    (hofOperation : ownParameters document operation path = .ok ofOperation)
    (h : SameButOverridden ofOperation ofPath ofPath') :
    compile document operation method route mode namePrefix path pathParameters' =
      compile document operation method route mode namePrefix path pathParameters := by
  have hmerged : requestParameters document operation path pathParameters' =
      requestParameters document operation path pathParameters := by
    rw [requestParameters_eq, requestParameters_eq, hofPath, hofPath', hofOperation]
    exact mergeParameters_congr h
  rw [compile, compile, compileRequest_eq, compileRequest_eq, hmerged]

/-- The groups of a request that compiles, and the body beside them. At each place of a group stands what
the last parameter of the operation there compiles to, or else the last one of the path; each place that a
parameter names is there. Parameters of the path that the operation has itself do not matter: with any
others of the same names and locations in their place, valid or not, the same is compiled. -/
theorem compile_groups {o : Operation}
    (h : (compile document operation method route mode namePrefix path pathParameters).result =
      .ok o) :
    ∃ ofPath ofOperation group body,
      resolveParameters document pathParameters (Pointer.parent path) = .ok ofPath ∧
      ownParameters document operation path = .ok ofOperation ∧
      (compileBody (sideSetting document namePrefix (Side.of mode .request) .request) operation
        path).result = .ok body ∧
      o.request = joinRequest (groupsObject group) body ∧
      (∀ location, IsGroup (sideSetting document namePrefix (Side.of mode .request) .request)
        (Side.of mode .request) ofPath ofOperation location (group location)) ∧
      ∀ pathParameters' ofPath',
        resolveParameters document pathParameters' (Pointer.parent path) = .ok ofPath' →
        SameButOverridden ofOperation ofPath ofPath' →
        compile document operation method route mode namePrefix path pathParameters' =
          compile document operation method route mode namePrefix path pathParameters := by
  obtain ⟨parameters, compiled, _, body, hparameters, hcompiled, hgroups, hbody, hrequest⟩ :=
    compileRequest_ok (compile_ok h).1
  obtain ⟨group, hgroup, rfl⟩ := parameterObject_groups hgroups
  simp only [requestParameters_eq, bind_eq_ok] at hparameters
  obtain ⟨ofPath, hofPath, ofOperation, hofOperation, hmerged⟩ := hparameters
  refine ⟨ofPath, ofOperation, group, body, hofPath, hofOperation, hbody, hrequest, ?_, ?_⟩
  · exact fun location => isGroup_of_merged hmerged hcompiled (hgroup location)
  · exact fun _ _ hofPath' hsame => compile_eq_of_overridden hofPath hofPath' hofOperation hsame

/-- A parameter of a type. -/
def typedParameter (name location type : String) : Value :=
  .object [("name", .text name), ("in", .text location), ("schema", .object [("type", .text type)])]

/-- A search that has one parameter of its path itself, and another one up to letter case. -/
def search : Value :=
  .object [
    ("parameters", .list [typedParameter "X-Trace" "header" "boolean",
      typedParameter "term" "query" "string"]),
    ("responses", .object [("204", .object [("description", .text "Nothing found")])])]

/-- The parameters of its path, with a term of this type. -/
def searchPath (type : String) : Value :=
  .list [typedParameter "x-trace" "header" "string", typedParameter "limit" "query" "integer",
    typedParameter "term" "query" type]

def searchRequest : Validator :=
  .object [("headers", .object [("x-trace", .optional (.type .boolean))] .closed),
    ("query", .object [("limit", .optional (.type .integer)), ("term", .optional (.type .string))]
      .closed)] .closed

/-- The trace of the operation takes the place of the one of the path, and the term of the path may be of
a type that there is not. -/
theorem groups_search :
    ∃ o, (compile (.object []) search "get" "/search" .handler "" "#/paths/~1search/get"
        (searchPath "string")).result = .ok o ∧
      o.request = searchRequest ∧
      compile (.object []) search "get" "/search" .handler "" "#/paths/~1search/get"
          (searchPath "phrase") =
        compile (.object []) search "get" "/search" .handler "" "#/paths/~1search/get"
          (searchPath "string") := by
  have hrequest : (compile (.object []) search "get" "/search" .handler "" "#/paths/~1search/get"
      (searchPath "string")).result.toOption.map (·.request) = some searchRequest := rfl
  obtain ⟨o, h, hrequest⟩ := eq_ok_of_toOption hrequest
  obtain ⟨_, _, _, _, hofPath, hofOperation, -, -, -, hsame⟩ := compile_groups h
  cases hofPath
  cases hofOperation
  refine ⟨o, h, hrequest, hsame _ _ rfl ?_⟩
  exact .cons (.inl rfl) (.cons (.inl rfl) (.cons (.inr ⟨rfl, by decide⟩) .nil))

end Operation

end ApiContract
