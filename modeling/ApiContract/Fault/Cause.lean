import ApiContract.Value.Display

/-!
# Causes of compile errors

A `Cause` says why a document cannot be compiled, without the place; `Cause.message` words it.
-/

namespace ApiContract

/-- What is wrong with the version marker of a document. -/
inductive VersionProblem where
  | swagger (version : Value)
  | noMarker
  | unsupported (version : String)

/-- References that leave the document or the schemas in it. -/
inductive ForeignReference where
  | external (target : Value)
  | notASchema (target : String)

/-- Why a pointer into the document leads nowhere. -/
inductive BrokenReference where
  | notAPointer
  | noSuchKey (key : String)
  | noSuchIndex (segment : String)
  | notAContainer (kind : String)

/-- Schemas of a shape that is not known. -/
inductive SchemaProblem where
  | notAMapping (kind : String)
  | notAList (keyword : String)
  | severalTypes (types : List Value)
  | unknownType (type : Value)

/-- Values that cannot cross the boundary to strings. -/
inductive ConversionProblem where
  | null
  | binary (format location : String)
  | array
  | object

/-- Where a schema has to stand and does not. -/
inductive MissingSchema where
  | items
  | parameter (name : String)
  | requestBody (contentType : String)
  | requestContent
  | responses
  | response (status contentType : String)
  | header (name : String)

/-- What is wrong with the address of a server. -/
inductive AddressProblem where
  | noDefault (name : String)
  | invalid (url reason : String)

/-- Why a document cannot be compiled. -/
inductive Cause where
  | version (problem : VersionProblem)
  | foreignReference (problem : ForeignReference)
  | brokenReference (ref : String) (problem : BrokenReference)
  | schema (problem : SchemaProblem)
  | tooDeep (limit : Nat)
  | emptyComposition (keyword : String)
  | danglingRequired (name : String)
  | requiredWithDefault
  | wrongDefault (default : Value) (expected : String)
  | constraint (keyword format : String)
  | conversion (problem : ConversionProblem)
  | style (name : String)
  | missingSchema (place : MissingSchema)
  | parameterLocation (location name : Value)
  | duplicateOperation (id : String)
  | serverAddress (problem : AddressProblem)
  | cycle (names : List String)

def VersionProblem.message : VersionProblem → String
  | swagger version =>
    "Swagger " ++ version.display ++
      " documents are not supported; convert to OpenAPI 3 first (https://converter.swagger.io)"
  | noMarker => "No 'openapi' version marker; expected an OpenAPI 3.x document"
  | unsupported version => "OpenAPI " ++ version ++ " is not supported; only 3.x documents compile"

def ForeignReference.message : ForeignReference → String
  | external target => "External $ref not supported: " ++ target.display
  | notASchema target =>
    "$ref has invalid value " ++ target ++ ", only #/components/schemas/* is supported"

def BrokenReference.message (ref : String) : BrokenReference → String
  | notAPointer => "Invalid JSON pointer in $ref '" ++ ref ++ "'"
  | noSuchKey key => "Cannot resolve $ref '" ++ ref ++ "': key '" ++ key ++ "' not found"
  | noSuchIndex segment =>
    "Cannot resolve $ref '" ++ ref ++ "': invalid array index '" ++ segment ++ "'"
  | notAContainer kind => "Cannot resolve $ref '" ++ ref ++ "': cannot navigate into " ++ kind

def SchemaProblem.message : SchemaProblem → String
  | notAMapping kind => "Schema must be an object, got " ++ kind
  | notAList keyword => keyword ++ " must be a list"
  | severalTypes types =>
    "Multiple types " ++ (Value.list types).quote ++ " are not supported, use oneOf instead"
  | unknownType type => "Unsupported schema type " ++ type.display

def ConversionProblem.message : ConversionProblem → String
  | null => "null values cannot be converted to or from a wire string"
  | binary format location =>
    "Format " ++ format ++ " cannot be used for " ++ location ++ " parameters"
  | array => "Arrays cannot be parsed from a single wire string"
  | object => "Objects cannot be converted to or from a wire string"

def MissingSchema.message : MissingSchema → String
  | items => "Array schema must declare items"
  | parameter name => "Schema not defined for parameter " ++ name
  | requestBody contentType => "requestBody schema must be defined for " ++ contentType
  | requestContent => "requestBody must declare at least one content type"
  | responses => "responses must be defined"
  | response status contentType =>
    "Schema must be set for " ++ status ++ " " ++ contentType ++ " response"
  | header name => "Schema must be set for header " ++ name

def AddressProblem.message : AddressProblem → String
  | noDefault name => "Server URL variable \x7b" ++ name ++ "\x7d has no default value"
  | invalid url reason =>
    "Server URL " ++ quoteText url ++ " is not a valid address: " ++ reason

/-- The names of a cycle in order, with the first one repeated at the end. -/
def cycleText (names : List String) : String := " -> ".intercalate (names ++ names.take 1)

def Cause.message : Cause → String
  | version problem => problem.message
  | foreignReference problem => problem.message
  | brokenReference ref problem => problem.message ref
  | schema problem => problem.message
  | tooDeep limit => "Schema nesting deeper than " ++ toString limit ++ " levels"
  | emptyComposition keyword => keyword ++ " must contain at least one value"
  | danglingRequired name =>
    "Field " ++ name ++ " is declared as required, but not listed in properties"
  | requiredWithDefault =>
    "Value must be either required (forced to be provided by user) or have a default value, not both"
  | wrongDefault default expected => "Default value " ++ default.quote ++ " must be " ++ expected
  | constraint keyword format =>
    "Setting \"" ++ keyword ++ "\" is not available for format: " ++ format
  | conversion problem => problem.message
  | style name => "Unsupported style " ++ quoteText name ++ " for non-exploded array"
  | missingSchema place => place.message
  | parameterLocation location name =>
    "Invalid parameter \"in\" value " ++ location.quote ++ " for " ++ name.display
  | duplicateOperation id => "Duplicate operationId " ++ quoteText id
  | serverAddress problem => problem.message
  | cycle names => "Circular dependency between declarations: " ++ cycleText names

end ApiContract
