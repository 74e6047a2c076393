import ApiContract.Json.Writer
import ApiContract.Mode
import ApiContract.Pointer
import ApiContract.Schema.Basic
import ApiContract.Validator.Basic
import ApiContract.Value.Alike

/-!
# Compiling schemas

`Schema.compile` turns a schema into a `Compiled` validator, with the names of the declarations it
refers to. Every scalar is built in one order: type and constraints, `nullable`, `default`, and then
the passage to or from strings, which therefore sees the constrained type. `Schema.compileValue` adds
what is required of a value that must or need not be there.
-/

namespace ApiContract

/-- The settings of one compilation of schemas. -/
structure Setting where
  document : Value
  crossing : Crossing := .handler
  namePrefix : String := ""
  suffix : String := ""
  use : Use := .unknown

/-- The name of the declaration of a component schema. -/
def Setting.declarationName (s : Setting) (schema : String) : String :=
  s.namePrefix ++ schema ++ s.suffix

/-- A compiled schema: the names that its validator refers to, and whether it has a default for an
absent value. -/
structure Compiled where
  validator : Validator
  dependsOn : List String := []
  hasDefault : Bool := false

/-- What a default has to be. -/
structure DefaultRule where
  accepts : Value → Bool
  expected : String

namespace DefaultRule

def isNumber : Value → Bool
  | .int _ | .float _ => true
  | _ => false

def boolean : DefaultRule where
  accepts | .bool _ => true | _ => false
  expected := "a boolean"

def integer : DefaultRule where
  accepts | .int _ => true | _ => false
  expected := "an integer"

def number : DefaultRule := ⟨isNumber, "a number"⟩

def string : DefaultRule := ⟨Value.isText, "a string"⟩

def date : DefaultRule := ⟨Value.isText, "a date string"⟩

def array : DefaultRule where
  accepts | .list _ => true | _ => false
  expected := "an array"

def object : DefaultRule where
  accepts | .map _ => true | _ => false
  expected := "an object"

/-- Whether two values are of one kind; all numbers are. -/
def sameKind (a b : Value) : Bool := (isNumber a && isNumber b) || a.kindName == b.kindName

/-- One of the values of an enum. -/
def member (values : List Value) : DefaultRule where
  accepts v := values.any fun w => v.alike w && sameKind v w
  expected := "one of the enum values"

end DefaultRule

namespace Schema

def datePattern : String := "^\\d\x7b4\x7d-\\d\x7b2\x7d-\\d\x7b2\x7d$"

def dateTimePattern : String :=
  "^\\d\x7b4\x7d-\\d\\d-\\d\\dT\\d\\d:\\d\\d:\\d\\d(\\.\\d+)?(([+-]\\d\\d:\\d\\d)|Z)$"

def numberPattern : String := "^-?\\d+(\\.\\d+)?([eE][+-]?\\d+)?$"

def integerPattern : String := "^-?\\d+$"

/-- Where references to schemas lead. -/
def componentPath : String := "#/components/schemas/"

/-- A validator with `nullable` and then `default` applied to it. -/
def finish (notes : Annotations) (path : String) (rule : Option DefaultRule) (v : Validator) :
    Except Fault (Validator × Bool) :=
  let v := if notes.nullable then .nullable v else v
  match notes.default with
  | none => .ok (v, false)
  | some default =>
    match rule with
    | some rule =>
      if rule.accepts default then .ok (.default v default, true)
      else uncompilable (.wrongDefault default rule.expected) (Pointer.raw path "default")
    | none => .ok (.default v default, true)

/-- A constrained validator wrapped into its passage to or from strings. -/
def convertScalar (typed wire : Validator) (kind : TransformKind) : Direction → Validator
  | .fromString => .transform wire .parse kind none (some typed)
  | .toString => .transform typed .stringify kind none none

/-! ## References and enums -/

def compileRef (s : Setting) (target path : String) : Except Fault Compiled := do
  let place := Pointer.raw path "$ref"
  if !Pointer.isLocal target then
    uncompilable (.foreignReference (.external (.text target))) place
  else
    match componentPath.toList.isPrefixOf? target.toList with
    | none => uncompilable (.foreignReference (.notASchema target)) place
    | some segment =>
      let _ ← Pointer.follow s.document target path
      let name := s.declarationName (Pointer.unescape (String.ofList segment))
      return { validator := .ref name, dependsOn := [name] }

/-- The text of a list of strings only. -/
def texts? : List Value → Option (List String)
  | [] => some []
  | .text s :: rest => (texts? rest).map (s :: ·)
  | _ => none

/-- How a literal stands in a string. -/
def wireText (v : Value) : Except Fault String :=
  match v with
  | .text s => .ok s
  | v => if v.isJson then .ok (Json.line v) else .error .unexpected

/-- The validator of a list of values. -/
def enumValidator (values : List Value) : Validator :=
  match texts? values, values with
  | _, [] => .never
  | some texts, _ => .enum texts
  | none, [v] => .literal v
  | none, values => .union (values.map .literal) none

def compileEnum (notes : Annotations) (values : List Value) (path : String)
    (convert : Option Conversion) : Except Fault Compiled := do
  let (v, hasDefault) ← finish notes path (some (.member values)) (enumValidator values)
  match convert, texts? values with
  | some convert, none =>
    match convert.direction with
    | .fromString =>
      let wire ← values.mapM wireText
      return { validator := convertScalar v (.enum wire) .literal .fromString, hasDefault }
    | .toString => return { validator := v.transform .stringify .literal none none, hasDefault }
  | _, _ => return { validator := v, hasDefault }

/-! ## Scalars -/

/-- A binary payload; one that is sent may be a stream. -/
def binaryBase (use : Use) : Validator :=
  match use with
  | .response => .union [.binary .buffer, .binary .stream] none
  | _ => .binary .buffer

def compileBinary (s : Setting) (notes : Annotations) (scalar : ScalarSchema) (format path : String)
    (convert : Option Conversion) : Except Fault Compiled := do
  let constraints :=
    [(scalar.minLength.isSome, "minLength"), (scalar.maxLength.isSome, "maxLength"),
      (scalar.pattern.isSome, "pattern"), (notes.default.isSome, "default")]
  match constraints.find? (·.1) with
  | some (_, keyword) => uncompilable (.constraint keyword format) (Pointer.raw path keyword)
  | none =>
    match convert with
    | some convert => uncompilable (.conversion (.binary format convert.location.name)) path
    | none =>
      let (v, _) ← finish notes path none (binaryBase s.use)
      return { validator := v }

/-- The way a date crosses the boundary to strings: a conversion decides before the crossing of its
side. -/
def dateDirection (s : Setting) (convert : Option Conversion) : Option Direction :=
  match convert, s.crossing with
  | some convert, _ => some convert.direction
  | none, .parse => some .fromString
  | none, .stringify => some .toString
  | none, _ => none

def nativeDate (isDate : Bool) : Validator := .type (if isDate then .date else .datetime)

/-- A date as a string. -/
def wireDate (scalar : ScalarSchema) (isDate : Bool) : Validator :=
  .primitive {
    type := .string, pattern := some (if isDate then datePattern else dateTimePattern),
    minLength := scalar.minLength, maxLength := scalar.maxLength }

def dateKind (isDate : Bool) : TransformKind := if isDate then .date else .dateTime

def compileDate (s : Setting) (notes : Annotations) (scalar : ScalarSchema) (isDate : Bool)
    (path : String) (convert : Option Conversion) : Except Fault Compiled := do
  match dateDirection s convert with
  | none =>
    let base := if s.crossing = .handler then nativeDate isDate else wireDate scalar isDate
    let (v, hasDefault) ← finish notes path (some .date) base
    return { validator := v, hasDefault }
  | some direction =>
    let (typed, hasDefault) ← finish notes path (some .date) (nativeDate isDate)
    return {
      validator := convertScalar typed (wireDate scalar isDate) (dateKind isDate) direction,
      hasDefault }

/-- The named check of a format. -/
def checkOfFormat? (format : String) : Option StringCheck :=
  [("uuid", StringCheck.uuid), ("email", .email), ("uri", .uri)].lookup format

def stringBase (scalar : ScalarSchema) : Validator :=
  .primitive {
    type := .string, check := scalar.format.bind checkOfFormat?, minLength := scalar.minLength,
    maxLength := scalar.maxLength, pattern := scalar.pattern }

/-- A string that is on the wire what it is in memory. -/
def compilePlainString (notes : Annotations) (scalar : ScalarSchema) (path : String) :
    Reported Compiled := do
  match scalar.format, scalar.format.bind checkOfFormat? with
  | some format, none => Reported.warn (.unknownFormat format path)
  | _, _ => pure ()
  let (v, hasDefault) ← finish notes path (some .string) (stringBase scalar)
  return { validator := v, hasDefault }

def compileString (s : Setting) (notes : Annotations) (scalar : ScalarSchema) (path : String)
    (convert : Option Conversion) : Reported Compiled :=
  match scalar.format with
  | some "byte" => liftM (compileBinary s notes scalar "byte" path convert)
  | some "binary" => liftM (compileBinary s notes scalar "binary" path convert)
  | some "date" => liftM (compileDate s notes scalar true path convert)
  | some "date-time" => liftM (compileDate s notes scalar false path convert)
  | _ => compilePlainString notes scalar path

/-- A scalar that is parsed from a string of its own form. -/
def compileTyped (notes : Annotations) (path : String) (convert : Option Conversion)
    (base wire : Validator) (rule : DefaultRule) (kind : TransformKind) : Except Fault Compiled := do
  let (v, hasDefault) ← finish notes path (some rule) base
  match convert with
  | none => return { validator := v, hasDefault }
  | some convert => return { validator := convertScalar v wire kind convert.direction, hasDefault }

def compileScalar (s : Setting) (notes : Annotations) (scalar : ScalarSchema) (path : String)
    (convert : Option Conversion) : Reported Compiled :=
  match scalar.type with
  | .string => compileString s notes scalar path convert
  | .null => liftM <| do
    if convert.isSome then uncompilable (.conversion .null) path
    else
      let (v, hasDefault) ← finish notes path none (.type .null)
      return { validator := v, hasDefault }
  | .boolean =>
    liftM (compileTyped notes path convert (.type .boolean) (.enum ["true", "false"]) .boolean
      .boolean)
  | .integer =>
    liftM (compileTyped notes path convert
      (.primitive { type := .integer, minimum := scalar.minimum, maximum := scalar.maximum })
      (.primitive { type := .string, pattern := some integerPattern }) .integer .integer)
  | .number =>
    liftM (compileTyped notes path convert
      (.primitive { type := .number, minimum := scalar.minimum, maximum := scalar.maximum })
      (.primitive { type := .string, pattern := some numberPattern }) .number .number)

/-! ## Required values -/

/-- What is required of a value that must be there, and of one that may be absent. -/
def requireValue (required : Bool) (path : String) (c : Compiled) : Except Fault Compiled :=
  if required then if c.hasDefault then uncompilable .requiredWithDefault path else .ok c
  else if c.hasDefault then .ok c
  else .ok { c with validator := .optional c.validator }

/-! ## Containers -/

/-- Names without repetition. -/
def unite (names : List (List String)) : List String := names.flatten.eraseDups

/-- A composition of compiled branches; a single branch keeps its default. -/
def composeBranches (notes : Annotations) (path : String) (branches : List Compiled)
    (combine : List Validator → Option Validator) (keyword : String) : Except Fault Compiled := do
  match combine (branches.map (·.validator)) with
  | none => uncompilable (.emptyComposition keyword) (Pointer.raw path keyword)
  | some v =>
    let (v, ownDefault) ← finish notes path none v
    let branchDefault := branches.length == 1 && branches.any (·.hasDefault)
    return {
      validator := v, dependsOn := unite (branches.map (·.dependsOn)),
      hasDefault := branchDefault || ownDefault }

/-- The branches of a `oneOf`; more than one make a union with a discriminator. -/
def alternatives (discriminator : Option String) : List Validator → Option Validator
  | [] => none
  | [v] => some v
  | variants => some (.union variants discriminator)

/-- A finished array, which may be joined into one string. -/
def finishArray (notes : Annotations) (path : String) (item : Compiled) : Except Fault Compiled := do
  let (v, hasDefault) ← finish notes path (some .array) (.array item.validator)
  return { validator := v, dependsOn := item.dependsOn, hasDefault }

/-- An array that is written to a string is joined unless each item is written apart. -/
def joinArray (path : String) (convert : Option Conversion) (style : ArrayStyle) (c : Compiled) :
    Except Fault Compiled :=
  if convert.isSome && !style.explode then
    match style.delimiter? with
    | none => uncompilable (.style style.style) path
    | some delimiter =>
      .ok { c with validator := .transform c.validator .stringify .join (some delimiter) none }
  else .ok c

/-- The first required name that is no property. -/
def danglingName? (required : List String) (properties : List (String × Schema)) : Option String :=
  required.find? fun name => !(properties.any (·.1 == name))

/-- The validator of an object: fields, and how keys that are not listed are treated. -/
def objectValidator (fields : List (String × Validator)) (hasProperties : Bool)
    (extra : ExtraKeys Validator) : Validator :=
  match extra with
  | .unstated => .object fields (if hasProperties then .closed else .open)
  | .allowed allow => .object fields (if allow then .open else .closed)
  | .typed value => .intersection [.object fields .typed, .record value]

mutual

/-- The validator of a schema at `path`, with the passage to or from strings that `convert` asks
for. -/
def compile (s : Setting) (convert : Option Conversion) (style : ArrayStyle) (path : String) :
    Schema → Reported Compiled
  | .ref _ target => liftM (compileRef s target path)
  | .oneOf notes variants discriminator => do
    let branches ← compileBranches s convert style (Pointer.raw path "oneOf") 0 variants
    composeBranches notes path branches (alternatives discriminator) "oneOf"
  | .anyOf notes variants => do
    let branches ← compileBranches s convert style (Pointer.raw path "anyOf") 0 variants
    composeBranches notes path branches Validator.unionOf? "anyOf"
  | .allOf notes variants => do
    let branches ← compileBranches s convert style (Pointer.raw path "allOf") 0 variants
    composeBranches notes path branches Validator.intersectionOf? "allOf"
  | .enum notes values => liftM (compileEnum notes values path convert)
  | .scalar notes fields => compileScalar s notes fields path convert
  | .array notes items => do
    if convert.any (·.direction == .fromString) then
      Reported.fail (.uncompilable (.conversion .array) path)
    else
      let place := Pointer.raw path "items"
      let item ← compile s convert .standard place items
      let item ← requireValue true place item
      let c ← finishArray notes path item
      joinArray path convert style c
  | .object notes properties required extra => do
    if convert.isSome then Reported.fail (.uncompilable (.conversion .object) path)
    else
      match danglingName? required (properties.getD []) with
      | some name => Reported.fail (.uncompilable (.danglingRequired name) path)
      | none =>
        let fields ←
          match properties with
          | none => pure []
          | some properties => compileProperties s (Pointer.raw path "properties") required properties
        let (extra, dependsOn) ← compileExtra s (Pointer.raw path "additionalProperties") extra
        let v := objectValidator (fields.map fun (name, c) => (name, c.validator))
          properties.isSome extra
        let (v, hasDefault) ← finish notes path (some .object) v
        return {
          validator := v, dependsOn := unite (fields.map (·.2.dependsOn) ++ [dependsOn]),
          hasDefault }

/-- The branches of a composition at `path`, from position `index` on. -/
def compileBranches (s : Setting) (convert : Option Conversion) (style : ArrayStyle) (path : String)
    (index : Nat) : List Schema → Reported (List Compiled)
  | [] => pure []
  | schema :: rest => do
    let first ← compile s convert style (Pointer.item path index) schema
    let others ← compileBranches s convert style path (index + 1) rest
    return first :: others

/-- The properties of an object, each of which has to be there if it is required. -/
def compileProperties (s : Setting) (path : String) (required : List String) :
    List (String × Schema) → Reported (List (String × Compiled))
  | [] => pure []
  | (name, schema) :: rest => do
    let place := Pointer.child path name
    let c ← compile s none .standard place schema
    let c ← requireValue (required.contains name) place c
    let others ← compileProperties s path required rest
    return (name, c) :: others

/-- What is checked of keys that are not listed, with the names it refers to. -/
def compileExtra (s : Setting) (path : String) :
    ExtraKeys Schema → Reported (ExtraKeys Validator × List String)
  | .unstated => pure (.unstated, [])
  | .allowed allow => pure (.allowed allow, [])
  | .typed schema => do
    let c ← compile s none .standard path schema
    return (.typed c.validator, c.dependsOn)

end

/-- The validator of a value that must be there or may be absent. -/
def compileValue (s : Setting) (required : Bool) (path : String) (schema : Schema)
    (convert : Option Conversion := none) (style : ArrayStyle := .standard) : Reported Compiled := do
  requireValue required path (← schema.compile s convert style path)

/-- A query array whose items arrive as strings of their own: only they are parsed. -/
def compileRepeated (s : Setting) (required : Bool) (path : String) (schema : Schema)
    (convert : Option Conversion) : Reported Compiled :=
  match schema with
  | .array notes items => do
    let item ← items.compileValue s true (Pointer.raw path "items") convert
    requireValue required path (← finishArray notes path item)
  | _ => .fail .unexpected

end Schema

end ApiContract
