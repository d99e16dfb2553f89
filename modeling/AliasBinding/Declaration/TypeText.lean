import AliasBinding.TypeExpr
import AliasBinding.Text.Identifier
import AliasBinding.Declaration.Error

/-!
# The text of a type

A built-in type with a keyword is written as the keyword.  Any other named type is written
with its namespace, if names are qualified, and with its type arguments; a nested name is
dotted, and the count of type arguments at the end of each part is left out.  An array adds
its dimensions in brackets and a nullable type a question mark; the by-reference mark is not
part of the text.
-/

namespace AliasBinding

/-- The texts with a comma and a space between them. -/
def commaList (texts : List String) : String := ", ".intercalate texts

namespace TypeExpr

/-- The characters of a name in a declaration: parts that `+` joins are joined by dots, and
each part ends before its first backtick.  The flag says that the end of a part is being
left out. -/
def dotted : List Char → Bool → List Char
  | [], _ => []
  | c :: rest, dropping =>
    if c = '+' then '.' :: dotted rest false
    else if dropping || c = '\x60' then dotted rest true
    else c :: dotted rest false

/-- The name in front of the type arguments. -/
def path (qualify : Bool) (ns : Option String) (name : String) : String :=
  let own := String.ofList (dotted name.toList false)
  match ns with
  | some ns => if qualify && ns != "" then ns ++ "." ++ own else own
  | none => own

/-- The dimensions of an array of a rank above zero. -/
def dimensions (rank : UInt8) : String :=
  String.ofList ('[' :: (List.replicate (rank.toNat - 1) ',' ++ [']']))

mutual

/-- The text of a type. -/
def text (qualify : Bool) : TypeExpr → Except DeclarationError String
  | .named ns name arguments isValue =>
    if name = "" then .error (.invalidType .emptyName)
    else
      match keyword? (.named ns name arguments isValue) with
      | some keyword => .ok keyword
      | none => do
        let texts ← texts qualify arguments
        if texts.isEmpty then return path qualify ns name
        return path qualify ns name ++ "<" ++ commaList texts ++ ">"
  | .parameter name =>
    if name = "" then .error (.invalidType .emptyParameterName) else .ok (Text.escaped name)
  | .array element rank =>
    if rank = 0 then .error (.invalidType .noDimensions)
    else return (← element.text qualify) ++ dimensions rank
  | .nullable inner => return (← inner.text qualify) ++ "?"
  | .byRef inner => inner.text qualify

/-- The texts of a list of types. -/
def texts (qualify : Bool) : List TypeExpr → Except DeclarationError (List String)
  | [] => .ok []
  | t :: rest => return (← t.text qualify) :: (← texts qualify rest)

end

end TypeExpr

end AliasBinding
