import ApiContract.Document.Charset
import ApiContract.Document.Decode
import ApiContract.Files.Directory
import ApiContract.Text.Occurrence

/-!
# Where documents come from

A document is read from standard input, from the network or from a file. `Document.load` finds it by its
source: a single dash, a URL, or the name of a file. The format is known from the type of a reply or the
ending of a file name, if at all.
-/

namespace ApiContract

open ApiContract.Text

/-- What comes back for a request. -/
inductive Reply where
  | answer (status : Nat) (headers : List (String × String)) (body : String)
  | failure (reason : String)

/-- Everything that a document can be read from. -/
structure Sources where
  directory : Directory
  stdin : String
  reply : Reply

/-- The text with a line feed for every line end. -/
def unixLines : List Char → List Char
  | '\r' :: '\n' :: rest => '\n' :: unixLines rest
  | '\r' :: rest => '\n' :: unixLines rest
  | c :: rest => c :: unixLines rest
  | [] => []

/-- The text of a file. -/
def textOfBytes (bytes : List UInt8) : Except Fault String :=
  match String.fromUTF8? ⟨bytes.toArray⟩ with
  | some text => .ok (String.ofList (unixLines text.toList))
  | none => .error .unexpected

namespace Document

def unreadable {α : Type} (problem : SourceProblem) : Except Fault α := .error (.unreadable problem)

/-- The format that a type of content names. -/
def formatOfContentType (type : String) : Option Format :=
  let names (word : String) : Bool := occursIn word.toList (lower type.toList)
  if names "json" then some .json
  else if names "yaml" ∨ names "yml" then some .yaml
  else none

/-- The format that the ending of a file name stands for. -/
def formatOfSuffix (suffix : String) : Option Format :=
  [(".json", Format.json), (".yaml", .yaml), (".yml", .yaml)].lookup suffix

/-- The value of a header, whose name is written in any case; several values are listed. -/
def header (name : String) (headers : List (String × String)) : String :=
  ", ".intercalate ((headers.filter fun h => lowerString h.1 == name).map (·.2))

def loadInput (stdin : String) : Except Fault Value :=
  if isAllBlank stdin.toList then unreadable .noInput else decode none stdin

def loadReply (url : String) : Reply → Except Fault Value
  | .failure reason => unreadable (.fetchFailed url reason)
  | .answer status headers body =>
    if 200 ≤ status ∧ status ≤ 299 then
      let type := header "content-type" headers
      decode (formatOfContentType type) ((Charset.ofContentType type).decode body)
    else unreadable (.httpStatus status url)

def loadFile (directory : Directory) (f : FileName) : Except Fault Value := do
  match directory.read f with
  | .refused => .error .unexpected
  | .missing => unreadable (.notFound f.text)
  | .found bytes =>
    let text ← textOfBytes bytes
    if isAllBlank text.toList then unreadable (.empty f.text)
    else decode (formatOfSuffix f.suffix) text

def isUrl (source : String) : Bool :=
  "http://".isPrefixOf source || "https://".isPrefixOf source

/-- The document at a source. -/
def load (sources : Sources) (source : String) : Except Fault Value :=
  if source = "-" then loadInput sources.stdin
  else if isUrl source then loadReply source sources.reply
  else loadFile sources.directory (.ofText source)

end Document

end ApiContract
