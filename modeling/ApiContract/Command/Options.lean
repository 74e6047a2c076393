/-!
# Options of a command line

`OptionSpec.read` takes the options out of a list of arguments. A long option may carry its value behind
an equals sign; short ones may be written together, and what follows one that takes a value is its value.
Two dashes end the options.
-/

namespace ApiContract

/-- An option: its spellings, and whether it takes a value. -/
structure OptionSpec (κ : Type) where
  key : κ
  names : List String
  takesValue : Bool

/-- Options with their values in the order given, and the arguments that are left. -/
structure Arguments (κ : Type) where
  options : List (κ × String)
  rest : List String

namespace Arguments

variable {κ : Type}

/-- The value of an option; the last one given counts. -/
def value? [BEq κ] (key : κ) (a : Arguments κ) : Option String := a.options.reverse.lookup key

def has [BEq κ] (key : κ) (a : Arguments κ) : Bool := (a.value? key).isSome

end Arguments

namespace OptionSpec

variable {κ : Type}

def find? (specs : List (OptionSpec κ)) (name : String) : Option (OptionSpec κ) :=
  specs.find? (·.names.contains name)

/-- The options written together behind one dash. One that takes a value and has no more letters
behind it is returned open, to take the next argument. -/
def letters? (specs : List (OptionSpec κ)) :
    List Char → Option (List (κ × String) × Option κ)
  | [] => some ([], none)
  | letter :: more => do
    let spec ← find? specs (String.ofList ['-', letter])
    if spec.takesValue then
      if more.isEmpty then return ([], some spec.key)
      else return ([(spec.key, String.ofList more)], none)
    else
      let (others, last) ← letters? specs more
      return ((spec.key, "") :: others, last)

/-- A long option, which is returned open if its value is the next argument. -/
def long? (specs : List (OptionSpec κ)) (arg : List Char) :
    Option (List (κ × String) × Option κ) := do
  let name := arg.takeWhile (· != '=')
  let spec ← find? specs (String.ofList name)
  match arg.drop name.length, spec.takesValue with
  | [], true => return ([], some spec.key)
  | [], false => return ([(spec.key, "")], none)
  | _ :: value, true => return ([(spec.key, String.ofList value)], none)
  | _ :: _, false => none

/-- The options of one argument that starts with a dash. -/
def ofArgument? (specs : List (OptionSpec κ)) (arg : List Char) :
    Option (List (κ × String) × Option κ) :=
  match arg with
  | '-' :: '-' :: _ => long? specs arg
  | _ => letters? specs (arg.drop 1)

def isOption (arg : String) : Bool :=
  match arg.toList with
  | '-' :: _ :: _ => true
  | _ => false

/-- The options among arguments. Where other arguments may not stand between them, the first of those
ends the options. -/
def read (specs : List (OptionSpec κ)) (mixed : Bool) : List String → Option (Arguments κ)
  | [] => some ⟨[], []⟩
  | "--" :: rest => some ⟨[], rest⟩
  | arg :: rest =>
    if isOption arg then
      match ofArgument? specs arg.toList, rest with
      | none, _ => none
      | some (found, none), rest => do
        let others ← read specs mixed rest
        return { others with options := found ++ others.options }
      | some (_, some _), [] => none
      | some (found, some key), value :: rest => do
        let others ← read specs mixed rest
        return { others with options := found ++ (key, value) :: others.options }
    else if mixed then do
      let others ← read specs mixed rest
      return { others with rest := arg :: others.rest }
    else some ⟨[], arg :: rest⟩

end OptionSpec

end ApiContract
