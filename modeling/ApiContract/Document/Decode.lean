import ApiContract.Schema.Reader
import ApiContract.Yaml.Reader

/-!
# Decoding documents

`Document.decode` reads a text as a document, which has to be a mapping. Without a known format JSON is
tried before YAML, since its messages are the more precise ones. The values in it may be nested to any
depth, since no limit of a call stack is modelled.
-/

namespace ApiContract

namespace Format

def all : List Format := [json, yaml]

/-- How often a node of YAML that holds itself is copied. What is looked up lies less deep: a pointer in
the text has a slash in front of each name, which may be written as an escape, and below it are the levels
of a schema and of the record around that. -/
def copiesIn (text : List Char) : Nat := text.countP (fun c => c == '/' || c == '\\') + 3 * maxDepth

/-- The value of a text, or why the format does not decode it. -/
def read (format : Format) (text : List Char) : Except Fault (Except DecodeProblem Value) :=
  match format with
  | json =>
    match Json.read text with
    | .ok v => .ok (.ok v)
    | .error (.problem problem rest) => .ok (.error (.json problem (Json.Place.of text rest)))
    | .error .longNumeral => .error .unexpected
  | yaml =>
    match Yaml.read (copiesIn text) text with
    | .ok v => .ok (.ok v)
    | .error .malformed => .ok (.error .yaml)
    | .error .noValue => .error .unexpected

end Format

namespace Document

def asMapping (v : Value) : Except Fault Value :=
  match v with
  | .map entries => .ok (.map entries)
  | v => .error (.unreadable (.root v))

/-- The document in the first of the formats that decodes the text; `before` holds the problems of
those already tried, last first. -/
def decodeIn (text : List Char) (before : List DecodeProblem) : List Format → Except Fault Value
  | [] => .error (.unreadable (.undecodable before.reverse))
  | format :: others => do
    match ← format.read text with
    | .ok v => asMapping v
    | .error problem => decodeIn text (problem :: before) others

/-- The document that a text holds. -/
def decode (format : Option Format) (text : String) : Except Fault Value :=
  match format with
  | some .json => do
    match ← Format.json.read text.toList with
    | .ok v => asMapping v
    | .error problem => .error (.unreadable (.invalidJson problem))
  | some .yaml => decodeIn text.toList [] [.yaml]
  | none => decodeIn text.toList [] Format.all

end Document

end ApiContract
