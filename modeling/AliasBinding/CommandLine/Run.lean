import AliasBinding.CommandLine.Request
import AliasBinding.FileAccess

/-!
# Running a request

The script is generated, rendered, and written to the output file or else to the standard
output.  What there is to say besides goes to the standard error output, one diagnostic to a
line: a warning when there is no module, and the error that ends the run, whose exit code is
then one.
-/

namespace AliasBinding.CommandLine

/-- How grave a diagnostic is. -/
inductive Severity where
  | warning
  | error
  deriving DecidableEq, Repr

/-- Something to say on the standard error output. -/
structure Diagnostic where
  severity : Severity
  summary : String
  detail? : Option String
  deriving DecidableEq, Repr

namespace Diagnostic

/-- The line without the detail. -/
def headline (d : Diagnostic) : String :=
  (match d.severity with | .warning => "warning: " | .error => "error: ") ++ d.summary

/-- The line of a diagnostic, ended. -/
def text (d : Diagnostic) : String :=
  d.headline ++ (match d.detail? with | some detail => ": " ++ detail | none => "") ++ "\n"

end Diagnostic

/-- What a run leaves behind besides files. -/
structure Outcome where
  exitCode : Nat
  /-- The standard output. -/
  output : String
  diagnostics : List Diagnostic
  deriving DecidableEq, Repr

/-- The outcome of a run that ends with an error, after what was said before. -/
def failure (said : List Diagnostic) (summary : String) (detail? : Option String) : Outcome :=
  ⟨1, "", said ++ [⟨.error, summary, detail?⟩]⟩

/-- The warning for a script that is empty. -/
def emptinessWarning (module : String) (s : Script) : List Diagnostic :=
  if s.isEmpty then
    [⟨.warning, "module not found: " ++ module ++ "; nothing generated", none⟩]
  else []

/-- Runs a request. -/
def run {m : Type → Type} [Monad m] (files : FileAccess m) (r : Request) : m Outcome := do
  match ← generate files.collaborators r.style r.module r.verify with
  | .error e => return failure [] e.summary e.detail?
  | .ok script =>
    let said := emptinessWarning r.module script
    let text := script.render r.format
    match r.output? with
    | none => return ⟨0, text, said⟩
    | some path =>
      match ← files.writeText path text with
      | .ok () => return ⟨0, "", said⟩
      | .error detail => return failure said ("failed to write " ++ path) (some detail)

end AliasBinding.CommandLine
