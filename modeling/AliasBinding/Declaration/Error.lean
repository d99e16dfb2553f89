/-!
# Declaration errors

The causes for which an alias has no declaration, and their wording.
-/

namespace AliasBinding

/-- Why a type cannot be written. -/
inductive TypeError where
  /-- A named type with an empty name. -/
  | emptyName
  /-- A type parameter with an empty name. -/
  | emptyParameterName
  /-- An array without dimensions. -/
  | noDimensions
  /-- A property without a value. -/
  | voidProperty (property : String)
  /-- A property whose type mentions a type parameter. -/
  | genericProperty (property parameter : String)
  deriving DecidableEq, Repr

/-- Why a parameter cannot be written. -/
inductive ParameterError where
  /-- A default on a parameter that takes none. -/
  | unexpectedDefault
  /-- A default that is infinite or not a number. -/
  | notFinite
  deriving DecidableEq, Repr

/-- Why a declaration cannot be written. -/
inductive DeclarationError where
  | invalidType (cause : TypeError)
  /-- A name that is no identifier. -/
  | invalidName (name : String)
  | invalidParameter (name : String) (cause : ParameterError)
  /-- The sink refused to take more text. -/
  | refused
  deriving DecidableEq, Repr

namespace TypeError

/-- The wording of the cause. -/
def message : TypeError → String
  | .emptyName => "empty type name"
  | .emptyParameterName => "empty generic parameter name"
  | .noDimensions => "array of rank 0"
  | .voidProperty property => "property `" ++ property ++ "` can't be void"
  | .genericProperty property parameter =>
    "property `" ++ property ++ "` can't use generic parameter `" ++ parameter ++ "`"

end TypeError

namespace ParameterError

/-- The wording of the cause. -/
def message : ParameterError → String
  | .unexpectedDefault => "default value on a ref, out, this or params parameter"
  | .notFinite => "non-finite default value"

end ParameterError

namespace DeclarationError

/-- The wording of the error. -/
def message : DeclarationError → String
  | .invalidType cause => "invalid type: " ++ cause.message
  | .invalidName name => "invalid name: `" ++ name ++ "`"
  | .invalidParameter name cause => "invalid parameter `" ++ name ++ "`: " ++ cause.message
  | .refused => "failed to write declaration"

end DeclarationError

end AliasBinding
