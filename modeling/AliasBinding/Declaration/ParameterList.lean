import AliasBinding.Alias
import AliasBinding.Text.Decimal
import AliasBinding.Text.Literal
import AliasBinding.Declaration.Style
import AliasBinding.Declaration.TypeText

/-!
# Parameter lists and argument lists

A parameter is written with the keyword for how it is passed, its type, its name and its
default.  Only a parameter passed by value, or by reference for reading, may have a default.
The argument list that forwards the parameters repeats the keywords a call needs.
-/

namespace AliasBinding

namespace Passing

/-- The keyword in front of a parameter, if there is one. -/
def keyword? : Passing → Option String
  | .value => none
  | .receiver => some "this"
  | .reference => some "ref"
  | .output => some "out"
  | .input => some "in"
  | .rest => some "params"

/-- The keyword in front of an argument, if there is one. -/
def callKeyword? : Passing → Option String
  | .reference => some "ref"
  | .output => some "out"
  | .input => some "in"
  | .value | .receiver | .rest => none

/-- Whether a parameter passed this way may have a default. -/
def allowsDefault : Passing → Bool
  | .value | .input => true
  | .receiver | .reference | .output | .rest => false

end Passing

/-- A keyword with the space after it, or nothing. -/
def leading : Option String → String
  | some keyword => keyword ++ " "
  | none => ""

/-- A name in a declaration, which has to be an identifier. -/
def declaredName (name : String) : Except DeclarationError String :=
  if Text.isIdentifier name then .ok (Text.escaped name) else .error (.invalidName name)

namespace TypeExpr

/-- Whether an integer needs a cast to be a constant of the type: it is a value type, but not
a built-in one. -/
def needsCast : TypeExpr → Bool
  | t@(.named _ _ _ true) => t.systemName?.isNone
  | _ => false

/-- The suffix of a real constant of the type. -/
def realSuffix (t : TypeExpr) : String :=
  match t.systemName? with
  | some "Single" => "f"
  | some "Decimal" => "m"
  | _ => ""

end TypeExpr

namespace Constant

/-- The text of a real constant, which has a point in any case. -/
def realText (x : Float) : String :=
  let digits := Text.decimal x
  if digits.toList.contains '.' then digits else digits ++ ".0"

/-- The text of an integer constant of the given type: a negative one is bracketed after a
cast, lest it read as a subtraction. -/
def integerText (qualify : Bool) (type : TypeExpr) (n : Int64) :
    Except DeclarationError String :=
  if type.needsCast then do
    let cast ← type.text qualify
    if n < 0 then return "(" ++ cast ++ ")(" ++ toString n.toInt ++ ")"
    return "(" ++ cast ++ ")" ++ toString n.toInt
  else .ok (toString n.toInt)

/-- The text of a constant as the default of the parameter `name` of the given type. -/
def text (qualify : Bool) (name : String) (type : TypeExpr) :
    Constant → Except DeclarationError String
  | .null => .ok "null"
  | .bool b => .ok (if b then "true" else "false")
  | .integer n => integerText qualify type.underlying n
  | .float x =>
    if Text.isFinite x then .ok (realText x ++ type.underlying.realSuffix)
    else .error (.invalidParameter name .notFinite)
  | .string s => .ok (Text.stringLiteral s)
  | .char c => .ok (Text.charLiteral c)
  | .zero => return "default(" ++ (← type.text qualify) ++ ")"

end Constant

namespace Parameter

/-- The default of a parameter with the sign in front of it, or nothing. -/
def defaultText (qualify : Bool) (p : Parameter) : Except DeclarationError String :=
  match p.default? with
  | none => .ok ""
  | some c =>
    if p.passing.allowsDefault then return " = " ++ (← c.text qualify p.name p.type)
    else .error (.invalidParameter p.name .unexpectedDefault)

/-- The parameter in a parameter list. -/
def text (qualify : Bool) (p : Parameter) : Except DeclarationError String := do
  let name ← declaredName p.name
  let type ← p.type.text qualify
  let default ← p.defaultText qualify
  return leading p.passing.keyword? ++ type ++ " " ++ name ++ default

/-- The argument that forwards the parameter. -/
def argument (p : Parameter) : Except DeclarationError String :=
  return leading p.passing.callKeyword? ++ (← declaredName p.name)

/-- A parameter list. -/
def listText (qualify : Bool) (ps : List Parameter) : Except DeclarationError String :=
  return commaList (← ps.mapM (text qualify))

/-- The argument list that forwards a parameter list. -/
def argumentsText (ps : List Parameter) : Except DeclarationError String :=
  return commaList (← ps.mapM argument)

end Parameter

end AliasBinding
