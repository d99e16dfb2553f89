/-!
# Faults of a JSON text

Reading a text fails when it is no JSON text, when it ends too early, or when the document is
not of the wanted shape.
-/

namespace AliasBinding.Json

/-- How a document differs from the wanted shape. -/
inductive Mismatch where
  | missingField (field : String)
  | duplicateField (field : String)
  | unknownVariant (variant : String) (known : List String)
  /-- A value of another type. -/
  | wrongType
  /-- A value of the right type that is out of range. -/
  | wrongValue
  /-- Too few or too many elements. -/
  | wrongLength
  deriving DecidableEq, Repr

/-- Why a text cannot be read. -/
inductive Fault where
  /-- The text is no JSON text. -/
  | malformed
  /-- The text ends too early. -/
  | truncated
  | mismatch (cause : Mismatch)
  deriving DecidableEq, Repr

namespace Mismatch

/-- Names in backticks with what is wanted of them: two are joined by `or`, more are listed. -/
def expectation (names : List String) : String :=
  match names.map fun name => "`" ++ name ++ "`" with
  | [a, b] => a ++ " or " ++ b
  | quoted => "one of " ++ ", ".intercalate quoted

/-- The wording of a mismatch. -/
def message : Mismatch → String
  | .missingField field => "missing field `" ++ field ++ "`"
  | .duplicateField field => "duplicate field `" ++ field ++ "`"
  | .unknownVariant variant known =>
    "unknown variant `" ++ variant ++ "`, expected " ++ expectation known
  | .wrongType => "invalid type"
  | .wrongValue => "invalid value"
  | .wrongLength => "invalid length"

end Mismatch

namespace Fault

/-- The wording of a fault. -/
def message : Fault → String
  | .malformed => "not a JSON text"
  | .truncated => "unexpected end of the text"
  | .mismatch cause => cause.message

end Fault

end AliasBinding.Json
