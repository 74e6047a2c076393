import ApiContract.Fault.Cause
import ApiContract.Fault.Rejection
import ApiContract.Json.Reader

/-!
# Faults and warnings

`Fault` is everything that can go wrong, from the reading of a document to its compilation. A
computation that may warn before it ends is `Reported`: its warnings stand beside its result and are
kept when it fails.
-/

namespace ApiContract

/-- Formats in which a document is decoded. -/
inductive Format where
  | json
  | yaml
  deriving DecidableEq, Repr

def Format.title : Format → String
  | json => "JSON"
  | yaml => "YAML"

/-- Why a format did not decode a text. -/
inductive DecodeProblem where
  | json (problem : Json.Problem) (place : Json.Place)
  | yaml

def DecodeProblem.message : DecodeProblem → String
  | json problem place => problem.message ++ ": " ++ place.text
  | yaml => "<yaml>"

def DecodeProblem.format : DecodeProblem → Format
  | json _ _ => .json
  | yaml => .yaml

/-- Why no document could be read. -/
inductive SourceProblem where
  | noInput
  | httpStatus (status : Nat) (url : String)
  | fetchFailed (url reason : String)
  | notFound (path : String)
  | empty (path : String)
  | invalidJson (problem : DecodeProblem)
  | undecodable (problems : List DecodeProblem)
  | root (value : Value)

def SourceProblem.message : SourceProblem → String
  | noInput => "No input on stdin; pipe a document or pass a path"
  | httpStatus status url => "HTTP " ++ toString status ++ " while downloading " ++ url
  | fetchFailed url reason => "Failed to fetch " ++ url ++ ": " ++ reason
  | notFound path => "Document not found: " ++ path
  | empty path => "Document is empty: " ++ path
  | invalidJson problem => "Invalid JSON: " ++ problem.message
  | undecodable problems =>
    "Could not decode document as " ++ " or ".intercalate (problems.map (·.format.title)) ++
      String.join (problems.map fun p => "\n  " ++ p.format.title ++ ": " ++ p.message)
  | root value =>
    "Document root must be a JSON/YAML object, found " ++
      (if value.isNull then "an empty document" else value.kindName)

/-- What is wrong with the settings of a compilation. -/
inductive SettingsProblem where
  | unknownMode (mode source : String)
  | malformedFile (problem : DecodeProblem)
  /-- The settings file holds a value that was rejected. -/
  | rejectedFile (rejection : Rejection) (given : Value)

/-- The modes as they are listed to the user. -/
def modeChoices : String := "handler, request, server, client"

/-- The message about settings; `file` stands for the path of the settings file. -/
def SettingsProblem.message (file : String) : SettingsProblem → String
  | unknownMode mode source =>
    "Unknown compile mode '" ++ mode ++ "' from " ++ source ++ " (expected one of: " ++
      modeChoices ++ ")"
  | malformedFile problem => "Invalid project config at " ++ file ++ ": " ++ problem.message
  | rejectedFile rejection _ => "Invalid project config at " ++ file ++ ": " ++ rejection.message

/-- Everything that ends a computation early. -/
inductive Fault where
  /-- The document does not compile, for a cause at a place in it. -/
  | uncompilable (cause : Cause) (path : String)
  /-- A record was given fields of the wrong type. -/
  | rejected (rejection : Rejection)
  /-- A value has a shape that nothing provides for. -/
  | unexpected
  /-- No document could be read. -/
  | unreadable (problem : SourceProblem)
  /-- The settings are wrong. -/
  | settings (problem : SettingsProblem)

/-- Something worth telling that does not stop the compilation. -/
inductive Warning where
  | unknownFormat (format path : String)
  | severalServers (count : Nat) (first : Value)

def Warning.message : Warning → String
  | unknownFormat format path =>
    "Unknown schema format " ++ quoteText format ++ " at " ++ path ++ "/format, ignoring"
  | severalServers count first =>
    toString count ++ " servers declared at #/servers, using the first one (" ++ first.display ++ ")"

/-- A result together with the warnings that came before it. -/
structure Reported (α : Type) where
  warnings : List Warning
  result : Except Fault α

namespace Reported

variable {α β : Type}

protected def bind (x : Reported α) (f : α → Reported β) : Reported β :=
  match x.result with
  | .error fault => ⟨x.warnings, .error fault⟩
  | .ok a => ⟨x.warnings ++ (f a).warnings, (f a).result⟩

instance : Monad Reported where
  pure a := ⟨[], .ok a⟩
  bind := Reported.bind

instance : LawfulMonad Reported := LawfulMonad.mk' Reported
  (by intro α ⟨w, r⟩; cases r <;> simp [Functor.map, Reported.bind])
  (by intro α β a f; simp [bind, pure, Reported.bind])
  (by
    intro α β γ ⟨w, r⟩ f g
    cases r with
    | error fault => rfl
    | ok a =>
      simp only [bind, Reported.bind]
      cases (f a).result <;> simp)

instance : MonadLift (Except Fault) Reported where
  monadLift r := ⟨[], r⟩

def warn (w : Warning) : Reported Unit := ⟨[w], .ok ()⟩

def fail (fault : Fault) : Reported α := ⟨[], .error fault⟩

@[simp] theorem result_pure (a : α) : (pure a : Reported α).result = .ok a := rfl

@[simp] theorem result_fail (fault : Fault) : (fail fault : Reported α).result = .error fault := rfl

@[simp] theorem result_warn (w : Warning) : (warn w).result = .ok () := rfl

@[simp] theorem result_lift (r : Except Fault α) : (liftM r : Reported α).result = r := rfl

@[simp] theorem result_bind (x : Reported α) (f : α → Reported β) :
    (x >>= f).result = x.result >>= fun a => (f a).result := by
  show (Reported.bind x f).result = _
  unfold Reported.bind
  cases x.result <;> rfl

end Reported

/-- Ends a compilation at `path`. -/
def uncompilable {α : Type} (cause : Cause) (path : String) : Except Fault α :=
  .error (.uncompilable cause path)

namespace Checked

/-- The value, or the rejection of the record it was to be part of. -/
def accept {α : Type} (record : String) : Checked α → Except Fault α
  | .ok a => .ok a
  | .issues found => .error (.rejected ⟨record, found⟩)

end Checked

namespace Value

/-- The value at a text key of something that has to be a mapping. -/
def get (key : String) (v : Value) : Except Fault (Option Value) :=
  match v with
  | .map entries => .ok (find? key entries)
  | _ => .error .unexpected

/-- The value at a text key, where no value is null. -/
def getOrNull (key : String) (v : Value) : Except Fault Value := do
  return (← v.get key).getD .null

def entries (v : Value) : Except Fault (List (Scalar × Value)) :=
  match v with
  | .map entries => .ok entries
  | _ => .error .unexpected

def members (v : Value) : Except Fault (List Value) :=
  match v.members? with
  | some members => .ok members
  | none => .error .unexpected

/-- The entries of a mapping that may be left out. -/
def entriesOrNone (v : Value) : Except Fault (List (Scalar × Value)) :=
  if v.isVacant then .ok [] else v.entries

/-- The members of a value that may be left out. -/
def membersOrNone (v : Value) : Except Fault (List Value) :=
  if v.isVacant then .ok [] else v.members

end Value

/-- A key that has to be a text. -/
def Scalar.asText : Scalar → Except Fault String
  | .text s => .ok s
  | _ => .error .unexpected

end ApiContract
