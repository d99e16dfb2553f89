import AliasBinding.Alias
import AliasBinding.Text.Literal
import AliasBinding.Declaration.Draft

/-!
# The obsolete attribute

An obsolete alias is declared under an attribute line.  It carries the message, if there is
one, and says so when any use is an error.
-/

namespace AliasBinding.Obsolete

/-- The arguments of the attribute. -/
def arguments (o : Obsolete) : List String :=
  match o.message?, o.isError with
  | none, false => []
  | some message, false => [Text.stringLiteral message]
  | some message, true => [Text.stringLiteral message, "true"]
  | none, true => ["null", "true"]

/-- The attribute. -/
def attributeText (o : Obsolete) : String :=
  match o.arguments with
  | [] => "[System.Obsolete]"
  | arguments => "[System.Obsolete(" ++ ", ".intercalate arguments ++ ")]"

/-- The attribute line of an alias that is obsolete, and nothing for one that is not. -/
def attributeLine : Option Obsolete → Draft Unit
  | some o => Draft.line 0 o.attributeText
  | none => pure ()

end AliasBinding.Obsolete
