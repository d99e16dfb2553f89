import AliasBinding.NameSet

/-!
# Scripts

What is generated for a module: the source of the declarations, the namespaces that they need,
and the modules that they refer to.
-/

namespace AliasBinding

/-- A generated script. -/
structure Script where
  source : String
  namespaces : NameSet
  /-- The paths of the modules that the script refers to. -/
  references : List String
  deriving DecidableEq

namespace Script

/-- The script for a module that does not exist. -/
def empty : Script := ⟨"", .empty, []⟩

/-- Whether nothing was generated. -/
def isEmpty (s : Script) : Bool :=
  s.source == "" && s.namespaces.isEmpty && s.references.isEmpty

/-- The line that brings a namespace into scope. -/
def usingLine (ns : String) : String := "using " ++ ns ++ ";\n"

/-- The lines that bring the namespaces into scope. -/
def usings (s : Script) : String := String.join (s.namespaces.toList.map usingLine)

/-- A path inside the quotes of a reference, where only quotes are escaped. -/
def quotePath (path : String) : String :=
  String.ofList (path.toList.flatMap fun c => if c = '"' then ['\\', '"'] else [c])

/-- The line that refers to a module. -/
def referenceLine (path : String) : String := "#r \"" ++ quotePath path ++ "\"\n"

/-- The lines that refer to the modules. -/
def referenceLines (s : Script) : String := String.join (s.references.map referenceLine)

end Script

end AliasBinding
