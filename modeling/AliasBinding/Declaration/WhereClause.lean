import AliasBinding.Alias
import AliasBinding.Declaration.ParameterList

/-!
# Type parameters and where clauses

A method with type parameters lists them after its name, and has a where clause for every one
that is constrained.  In a clause the constraints to reference or value types come first, then
the supertypes, both in the given order, and the constructor constraint comes once at the end.
-/

namespace AliasBinding

namespace Constraint

/-- The keyword of a constraint to reference types or to value types. -/
def kindKeyword? : Constraint → Option String
  | .reference => some "class"
  | .value => some "struct"
  | .constructible | .subtype _ => none

/-- The supertype that a constraint demands. -/
def supertype? : Constraint → Option TypeExpr
  | .subtype t => some t
  | .reference | .value | .constructible => none

/-- Whether the constraint demands a constructor. -/
def isConstructible : Constraint → Bool
  | .constructible => true
  | .reference | .value | .subtype _ => false

/-- The items of a where clause. -/
def items (qualify : Bool) (cs : List Constraint) :
    Except DeclarationError (List String) := do
  let supertypes ← (cs.filterMap supertype?).mapM (TypeExpr.text qualify)
  let constructor := if cs.any isConstructible then ["new()"] else []
  return cs.filterMap kindKeyword? ++ supertypes ++ constructor

end Constraint

namespace TypeParameter

/-- The where clause of a type parameter, if it is constrained. -/
def clause? (qualify : Bool) (p : TypeParameter) :
    Except DeclarationError (Option String) := do
  if p.constraints.isEmpty then return none
  let items ← Constraint.items qualify p.constraints
  return some ("where " ++ Text.escaped p.name ++ " : " ++ commaList items)

/-- The list of type parameters after the name of a method, which is the list of type
arguments in a call as well. -/
def listText (ps : List TypeParameter) : Except DeclarationError String := do
  let names ← ps.mapM fun p => declaredName p.name
  if names.isEmpty then return ""
  return "<" ++ commaList names ++ ">"

end TypeParameter

end AliasBinding
