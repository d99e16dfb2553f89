/-!
# JSON values

A value as it was read: the members of an object keep their order, and a name may occur more
than once.
-/

namespace AliasBinding

/-- A JSON value. -/
inductive Json where
  | null
  | bool (value : Bool)
  | integer (value : Int)
  | float (value : Float)
  | string (value : String)
  | array (items : List Json)
  | object (members : List (String × Json))
  deriving Inhabited

end AliasBinding
