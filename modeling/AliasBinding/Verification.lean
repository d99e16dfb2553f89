import AliasBinding.Alias
import AliasBinding.Text.Blank
import AliasBinding.Text.Identifier

/-!
# Verification

The issues of an alias, in the order in which they are reported.  Names have to be
identifiers and namespaces must not be blank; a method needs its receiver first, distinct
parameters of each kind, and mentions declared type parameters only; a property has a value,
and neither it nor any declaring type mentions a type parameter.  Each alias is judged on its
own.
-/

namespace AliasBinding

/-- What is wrong with an alias. -/
inductive Issue where
  | aliasName
  | blankNamespace
  | typeParameterName (name : String)
  | repeatedTypeParameter (name : String)
  | noReceiver
  | parameterName (name : String)
  | repeatedParameter (name : String)
  | lateReceiver (name : String)
  | restNotLast (name : String)
  | restNotArray (name : String)
  | voidProperty
  | unnamedType
  | undeclaredTypeParameter (name : String)
  | noDimensions
  deriving DecidableEq, Repr

namespace Issue

/-- The wording of an issue. -/
def message : Issue → String
  | .aliasName => "alias name is not a valid identifier"
  | .blankNamespace => "empty namespace"
  | .typeParameterName name => "generic parameter `" ++ name ++ "` is not a valid identifier"
  | .repeatedTypeParameter name => "duplicate generic parameter `" ++ name ++ "`"
  | .noReceiver => "missing `this` receiver parameter"
  | .parameterName name => "parameter `" ++ name ++ "` is not a valid identifier"
  | .repeatedParameter name => "duplicate parameter `" ++ name ++ "`"
  | .lateReceiver name => "`this` on non-leading parameter `" ++ name ++ "`"
  | .restNotLast name => "`params` parameter `" ++ name ++ "` is not last"
  | .restNotArray name => "`params` parameter `" ++ name ++ "` is not an array"
  | .voidProperty => "property type is void"
  | .unnamedType => "type with empty name"
  | .undeclaredTypeParameter name => "undeclared generic parameter `" ++ name ++ "`"
  | .noDimensions => "array of rank 0"

/-- The issue alone, when the condition holds. -/
def when (condition : Bool) (issue : Issue) : List Issue := if condition then [issue] else []

end Issue

namespace TypeExpr

mutual

/-- The issues of a type, where the given type parameters are declared. -/
def issues (declared : List String) : TypeExpr → List Issue
  | .named _ name arguments _ =>
    Issue.when (name == "") .unnamedType ++ issuesIn declared arguments
  | .parameter name =>
    Issue.when (!declared.contains name) (.undeclaredTypeParameter name)
  | .array element rank => Issue.when (rank == 0) .noDimensions ++ element.issues declared
  | .nullable inner | .byRef inner => inner.issues declared

/-- The issues of a list of types. -/
def issuesIn (declared : List String) : List TypeExpr → List Issue
  | [] => []
  | t :: rest => t.issues declared ++ issuesIn declared rest

end

/-- Whether the type is an array. -/
def isArray : TypeExpr → Bool
  | .array _ _ => true
  | .named _ _ _ _ | .parameter _ | .nullable _ | .byRef _ => false

end TypeExpr

namespace TypeParameter

/-- The issues of the names of type parameters, after those with the names `seen`. -/
def issues (seen : List String) : List TypeParameter → List Issue
  | [] => []
  | p :: rest =>
    Issue.when (!Text.isIdentifier p.name) (.typeParameterName p.name) ++
    Issue.when (seen.contains p.name) (.repeatedTypeParameter p.name) ++
    issues (p.name :: seen) rest

/-- The issues of the types that a type parameter is constrained to. -/
def constraintIssues (declared : List String) (p : TypeParameter) : List Issue :=
  p.constraints.flatMap fun
    | .subtype t => t.issues declared
    | .reference | .value | .constructible => []

end TypeParameter

namespace Parameter

/-- The issue of how a parameter is passed, given whether it comes first and whether it comes
last. -/
def passingIssues (p : Parameter) (isFirst isLast : Bool) : List Issue :=
  match p.passing with
  | .receiver => Issue.when (!isFirst) (.lateReceiver p.name)
  | .rest =>
    if isLast then Issue.when (!p.type.isArray) (.restNotArray p.name)
    else [.restNotLast p.name]
  | .value | .reference | .output | .input => []

/-- The issues of parameters, after those with the names `seen`. -/
def issues (declared seen : List String) (isFirst : Bool) : List Parameter → List Issue
  | [] => []
  | p :: rest =>
    Issue.when (!Text.isIdentifier p.name) (.parameterName p.name) ++
    Issue.when (seen.contains p.name) (.repeatedParameter p.name) ++
    p.passingIssues isFirst rest.isEmpty ++
    p.type.issues declared ++
    issues declared (p.name :: seen) false rest

end Parameter

/-- The issues of a method, its name apart. -/
def Method.issues (m : Method) : List Issue :=
  let declared := m.typeParameters.map (·.name)
  TypeParameter.issues [] m.typeParameters ++
  Issue.when (!m.hasReceiver) .noReceiver ++
  Parameter.issues declared [] true m.parameters ++
  m.result.issues declared ++
  m.owner.issues [] ++
  m.typeParameters.flatMap (·.constraintIssues declared)

/-- The issues of a property, its name apart. -/
def Property.issues (p : Property) : List Issue :=
  Issue.when p.type.isVoid .voidProperty ++ p.type.issues [] ++ p.owner.issues []

/-- The issues of a member, its name apart. -/
def Member.issues : Member → List Issue
  | .method m => m.issues
  | .property p => p.issues

namespace Alias

/-- The name of an alias is the name of its member. -/
def name (a : Alias) : String := a.member.name

/-- The issues of an alias. -/
def issues (a : Alias) : List Issue :=
  Issue.when (!Text.isIdentifier a.name) .aliasName ++
  Issue.when (a.namespaces.toList.any Text.isBlankText) .blankNamespace ++
  a.member.issues

/-- The problems of an alias: its issues, each under the alias's name. -/
def problems (a : Alias) : List String :=
  a.issues.map fun issue => "`" ++ a.name ++ "`: " ++ issue.message

/-- The problems of all aliases of a list. -/
def verify (aliases : List Alias) : List String := aliases.flatMap problems

end Alias

end AliasBinding
