import ApiContract.Main
import ApiContract.Proofs.Contract.Closure
import ApiContract.Proofs.Contract.Dereferenced
import ApiContract.Proofs.Contract.Emission
import ApiContract.Proofs.Contract.Mirror
import ApiContract.Proofs.Contract.Passages
import ApiContract.Proofs.Contract.Prefix
import ApiContract.Proofs.Document.Proper
import ApiContract.Proofs.Schema.Meaning
import ApiContract.Proofs.Declaration.Cyclic
import ApiContract.Proofs.Contract.Sides
import ApiContract.Proofs.Schema.Absence
import ApiContract.Proofs.Schema.Crossings
import ApiContract.Proofs.Schema.Wire
import ApiContract.Proofs.Schema.Split
import ApiContract.Proofs.Number.Numeral
import ApiContract.Proofs.Pointer.Steps
import ApiContract.Proofs.Unplaced
import ApiContract.Proofs.Pointer.Survey
import ApiContract.Proofs.Schema.Survey
import ApiContract.Proofs.Operation.Survey
import ApiContract.Proofs.Contract.Survey
import ApiContract.Proofs.Contract.Diagnostics
import ApiContract.Proofs.Operation.Variants
import ApiContract.Proofs.Contract.Optionals
import ApiContract.Proofs.Contract.Walk
import ApiContract.Proofs.Schema.Diagnostics
import ApiContract.Proofs.Schema.Positions
import ApiContract.Proofs.Schema.Precedence
import ApiContract.Proofs.Schema.Separate
import ApiContract.Proofs.Schema.Depth
import ApiContract.Proofs.Schema.Defaults
import ApiContract.Proofs.Operation.Alone
import ApiContract.Proofs.Declaration.Stable
import ApiContract.Proofs.Schema.Literals
import ApiContract.Proofs.Files.Replace
import ApiContract.Proofs.Contract.Locations
import ApiContract.Proofs.Validator.Record
import ApiContract.Proofs.Json.Values
import ApiContract.Proofs.Settings
import ApiContract.Proofs.Command.Compile
import ApiContract.Proofs.Operation.Flat
import ApiContract.Proofs.Schema.TypeList
import ApiContract.Proofs.Schema.Members
import ApiContract.Proofs.Template
