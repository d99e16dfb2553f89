import AliasBinding.Declaration.Style
import AliasBinding.Script.Format
import AliasBinding.Text.Identifier

/-!
# Requests

What a command line asks for, and the errors of one that asks for nothing that can be done.
The values of options are checked one by one: a format by its name, an indentation as a number
up to sixteen, the context as an identifier that is not reserved, a path as not empty.
-/

namespace AliasBinding.CommandLine

/-- A request to generate the script of a module. -/
structure Request where
  module : String
  verify : Bool
  format : Format
  qualify : Bool
  indent : Nat
  context : String
  output? : Option String
  deriving DecidableEq, Repr

/-- The style that a request asks for. -/
def Request.style (r : Request) : Style :=
  (((default : Style).withQualify r.qualify).withIndent r.indent).withContext r.context

/-- Where a value goes: the module, or an option. -/
inductive Slot where
  | module
  | format
  | indent
  | context
  | output
  deriving DecidableEq, Repr

/-- An option without a value. -/
inductive Switch where
  | verify
  | noQualify
  deriving DecidableEq, Repr

/-- Why a command line makes no request. -/
inductive UsageError where
  /-- Help is asked for. -/
  | help
  /-- There is no command. -/
  | noCommand
  | unknownCommand (word : String)
  | noModule
  | unknownArgument (argument : String)
  /-- An option is given twice. -/
  | repeated (option : String)
  /-- A value that is missing, empty or none of those that there are. -/
  | badChoice (option : String)
  /-- A value that is out of range. -/
  | badValue (option : String)
  /-- A value for an option that takes none. -/
  | needlessValue (option : String)
  deriving DecidableEq, Repr

namespace UsageError

/-- Whether the error is only that help is asked for. -/
def isHelp : UsageError → Bool
  | .help => true
  | _ => false

/-- The exit code. -/
def exitCode (e : UsageError) : Nat := if e.isHelp then 0 else 2

/-- The wording of the error. -/
def message : UsageError → String
  | .help | .noCommand => "generate MODULE [options]"
  | .unknownCommand word => "unrecognized command `" ++ word ++ "`"
  | .noModule => "MODULE is required"
  | .unknownArgument argument => "unexpected argument `" ++ argument ++ "`"
  | .repeated option => "`" ++ option ++ "` cannot be used more than once"
  | .badChoice option => "a valid value is required for `" ++ option ++ "`"
  | .badValue option => "the value for `" ++ option ++ "` is out of range"
  | .needlessValue option => "`" ++ option ++ "` takes no value"

end UsageError

namespace Slot

/-- The name of a slot. -/
def name : Slot → String
  | .module => "MODULE"
  | .format => "--format"
  | .indent => "--indent"
  | .context => "--context"
  | .output => "--output"

end Slot

namespace Switch

/-- The name of a switch. -/
def name : Switch → String
  | .verify => "--verify"
  | .noQualify => "--no-qualify"

end Switch

/-- The number that decimal digits write, at least one. -/
def numberOfDigits? (digits : List Char) : Option Nat :=
  if digits != [] && digits.all Char.isDigit then
    some (digits.foldl (fun n c => 10 * n + (c.toNat - 48)) 0)
  else none

/-- The number that `s` writes, with or without a sign. -/
def integer? (s : String) : Option Int :=
  match s.toList with
  | '-' :: digits => (numberOfDigits? digits).map fun n => -(n : Int)
  | '+' :: digits => (numberOfDigits? digits).map fun n => (n : Int)
  | digits => (numberOfDigits? digits).map fun n => (n : Int)

/-- The width of indentation that `s` writes. -/
def indentWidth? (s : String) : Option Nat :=
  match integer? s with
  | some n => if 0 ≤ n ∧ n ≤ Style.maxIndent then some n.toNat else none
  | none => none

/-- Whether `s` can name the script context. -/
def isContextName (s : String) : Bool := Text.isIdentifier s && !Text.isReserved s

end AliasBinding.CommandLine
