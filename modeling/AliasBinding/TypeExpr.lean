/-!
# Type expressions

The types of parameters, results and properties, as a compiled module describes them.  A name
may be nested in other types, with `+` between them, and may end in a backtick and the number
of its type arguments.
-/

namespace AliasBinding

/-- A type expression. -/
inductive TypeExpr where
  /-- A type with a name, in a namespace if there is one, applied to type arguments. -/
  | named (ns : Option String) (name : String) (arguments : List TypeExpr) (isValue : Bool)
  /-- A type parameter of the method in hand. -/
  | parameter (name : String)
  /-- An array with a number of dimensions. -/
  | array (element : TypeExpr) (rank : UInt8)
  /-- A value type to which null is added. -/
  | nullable (inner : TypeExpr)
  /-- A type handed over by reference. -/
  | byRef (inner : TypeExpr)
  deriving Inhabited

namespace TypeExpr

/-- The namespace of the built-in types. -/
def systemNamespace : String := "System"

/-- The built-in types with a keyword of their own. -/
def keywords : List (String × String) := [
  ("Void", "void"), ("Boolean", "bool"), ("Byte", "byte"), ("SByte", "sbyte"),
  ("Char", "char"), ("Decimal", "decimal"), ("Double", "double"), ("Single", "float"),
  ("Int16", "short"), ("UInt16", "ushort"), ("Int32", "int"), ("UInt32", "uint"),
  ("Int64", "long"), ("UInt64", "ulong"), ("Object", "object"), ("String", "string")]

/-- The built-in types that are value types without saying so. -/
def primitives : List String := [
  "Boolean", "Byte", "SByte", "Char", "Decimal", "Double", "Single", "Int16", "UInt16",
  "Int32", "UInt32", "Int64", "UInt64"]

/-- A type without type arguments, not marked as a value type. -/
def plain (ns name : String) : TypeExpr := .named (some ns) name [] false

/-- A value type without type arguments. -/
def value (ns name : String) : TypeExpr := .named (some ns) name [] true

/-- The result type of a method without a result. -/
def void : TypeExpr := plain systemNamespace "Void"

/-- A type applied to further type arguments; only a named type takes them. -/
def applied (t : TypeExpr) (arguments : List TypeExpr) : TypeExpr :=
  match t with
  | .named ns name present isValue => .named ns name (present ++ arguments) isValue
  | other => other

/-- Whether the type is `void`. -/
def isVoid : TypeExpr → Bool
  | .named ns name [] _ => ns == some systemNamespace && name == "Void"
  | _ => false

/-- Whether the type is a value type. -/
def isValueType : TypeExpr → Bool
  | .named ns name _ isValue =>
    isValue || (ns == some systemNamespace && primitives.contains name)
  | .nullable _ => true
  | .byRef inner => inner.isValueType
  | .parameter _ | .array _ _ => false

/-- The name of a built-in type without type arguments. -/
def systemName? : TypeExpr → Option String
  | .named ns name [] _ => if ns == some systemNamespace then some name else none
  | _ => none

/-- The keyword of a type that has one. -/
def keyword? (t : TypeExpr) : Option String := t.systemName?.bind (keywords.lookup ·)

/-- The type under any by-reference and nullable marks. -/
def underlying : TypeExpr → TypeExpr
  | .nullable inner | .byRef inner => inner.underlying
  | t => t

mutual

/-- The first type parameter in the type, read from left to right. -/
def firstParameter? : TypeExpr → Option String
  | .named _ _ arguments _ => firstParameterIn? arguments
  | .parameter name => some name
  | .array element _ => element.firstParameter?
  | .nullable inner | .byRef inner => inner.firstParameter?

/-- The first type parameter in a list of types. -/
def firstParameterIn? : List TypeExpr → Option String
  | [] => none
  | t :: rest => t.firstParameter? <|> firstParameterIn? rest

end

end TypeExpr

end AliasBinding
