import AliasBinding.Proofs.TypeExpr
import AliasBinding.Verification
import Mathlib.Data.List.Basic

/-!
# Well-formed aliases

What is asked of an alias, said without the walk that looks for issues.  A type is well formed
when every type that occurs in it is sound by itself; parameters are compared with what stands
before and after them in their list.
-/

namespace AliasBinding

/-! ### Types -/

namespace TypeExpr

/-- What is asked of a type apart from the types in it, where the given type parameters are
declared: a name is not empty, a type parameter is declared, and an array has dimensions. -/
def IsSound (declared : List String) : TypeExpr → Prop
  | .named _ name _ _ => name ≠ ""
  | .parameter name => name ∈ declared
  | .array _ rank => 1 ≤ rank.toNat
  | .nullable _ | .byRef _ => True

/-- Every type that occurs in the type is sound. -/
def WellFormed (declared : List String) (t : TypeExpr) : Prop :=
  ∀ s, Occurs s t → s.IsSound declared

end TypeExpr

/-! ### Members -/

/-- What is asked of a method, its name apart. -/
structure Method.WellFormed (m : Method) : Prop where
  typeParameter_names : ∀ p ∈ m.typeParameters, Text.isIdentifier p.name = true
  typeParameters_distinct : (m.typeParameters.map (·.name)).Nodup
  receiver_first : ∃ receiver rest, m.parameters = receiver :: rest
    ∧ receiver.passing = .receiver
  parameter_names : ∀ p ∈ m.parameters, Text.isIdentifier p.name = true
  parameters_distinct : (m.parameters.map (·.name)).Nodup
  receiver_only_first : ∀ p ∈ m.parameters.tail, p.passing ≠ .receiver
  rest_only_last : ∀ before p after, m.parameters = before ++ p :: after →
    p.passing = .rest → after = []
  rest_only_array : ∀ p ∈ m.parameters, p.passing = .rest →
    ∃ element rank, p.type = .array element rank
  parameter_types : ∀ p ∈ m.parameters, p.type.WellFormed (m.typeParameters.map (·.name))
  result : m.result.WellFormed (m.typeParameters.map (·.name))
  supertypes : ∀ p ∈ m.typeParameters, ∀ t, .subtype t ∈ p.constraints →
    t.WellFormed (m.typeParameters.map (·.name))
  owner : m.owner.WellFormed []

/-- What is asked of a property, its name apart. -/
structure Property.WellFormed (p : Property) : Prop where
  not_void : ∀ isValue, p.type ≠ .named (some "System") "Void" [] isValue
  type : p.type.WellFormed []
  owner : p.owner.WellFormed []

/-- What is asked of a member, its name apart. -/
def Member.WellFormed : Member → Prop
  | .method m => m.WellFormed
  | .property p => p.WellFormed

/-- What is asked of an alias. -/
structure Alias.WellFormed (a : Alias) : Prop where
  name : Text.isIdentifier a.name = true
  namespaces : ∀ ns ∈ a.namespaces, ∃ c ∈ ns.toList, Text.isBlank c = false
  member : a.member.WellFormed

end AliasBinding
