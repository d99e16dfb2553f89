import AliasBinding.Json.Printer
import AliasBinding.Script

/-!
# Formats of a script

A script is written as a whole script file, as the bare source of the declarations, or as a
JSON object.  In a script file the references come first, then the namespaces, and an empty
line parts them from the source if there is both.
-/

namespace AliasBinding

/-- A format in which a script is written. -/
inductive Format where
  | script
  | source
  | json
  deriving DecidableEq, Repr, Inhabited

namespace Format

/-- The format of the given name. -/
def ofName? : String → Option Format
  | "script" => some .script
  | "source" => some .source
  | "json" => some .json
  | _ => none

end Format

namespace Script

/-- The script as a script file. -/
def toScriptFile (s : Script) : String :=
  let head := s.referenceLines ++ s.usings
  head ++ (if head != "" && s.source != "" then "\n" else "") ++ s.source

/-- The script as a JSON object, on a line that is ended. -/
def toJsonText (s : Script) : String :=
  Json.printBlock "\x7b" "\x7d" 0 [
    Json.printMember "source" (Json.printString s.source),
    Json.printMember "namespaces" (Json.printStrings 1 s.namespaces.toList),
    Json.printMember "references" (Json.printStrings 1 s.references)] ++ "\n"

/-- The script in the given format. -/
def render (s : Script) : Format → String
  | .script => s.toScriptFile
  | .source => s.source
  | .json => s.toJsonText

end Script

end AliasBinding
