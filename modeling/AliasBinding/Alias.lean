import AliasBinding.NameSet
import AliasBinding.TypeExpr

/-!
# Aliases

An alias is a method or a property that a compiled module offers to scripts, together with
the namespaces that a script needs to use it.  A method alias whose first parameter is the
receiver is called with the script context in its place.
-/

namespace AliasBinding

/-- How an argument is handed to a parameter. -/
inductive Passing where
  /-- By value. -/
  | value
  /-- By value, as the object that the method extends. -/
  | receiver
  /-- By reference, for reading and writing. -/
  | reference
  /-- By reference, for writing. -/
  | output
  /-- By reference, for reading. -/
  | input
  /-- As the rest of the arguments, in an array. -/
  | rest
  deriving DecidableEq, Repr, Inhabited

/-- A constant that stands in for an argument left out. -/
inductive Constant where
  | null
  | bool (value : Bool)
  | integer (value : Int64)
  | float (value : Float)
  | string (value : String)
  | char (value : Char)
  /-- The default value of the parameter's type. -/
  | zero

/-- A parameter of a method. -/
structure Parameter where
  name : String
  type : TypeExpr
  passing : Passing
  default? : Option Constant

/-- A requirement on the types that may stand for a type parameter. -/
inductive Constraint where
  /-- A reference type. -/
  | reference
  /-- A value type. -/
  | value
  /-- A type with a constructor without parameters. -/
  | constructible
  /-- A subtype of the given type. -/
  | subtype (type : TypeExpr)

/-- A type parameter of a method. -/
structure TypeParameter where
  name : String
  constraints : List Constraint

/-- The mark of an alias that scripts should no longer use. -/
structure Obsolete where
  message? : Option String
  /-- Whether any use is an error. -/
  isError : Bool
  deriving DecidableEq

/-- A method that scripts can call. -/
structure Method where
  name : String
  /-- The type that declares the method. -/
  owner : TypeExpr
  result : TypeExpr
  parameters : List Parameter
  typeParameters : List TypeParameter
  obsolete? : Option Obsolete

/-- A property that scripts can read. -/
structure Property where
  name : String
  /-- The type that declares the property. -/
  owner : TypeExpr
  type : TypeExpr
  /-- Whether the value is read once and then kept. -/
  cached : Bool
  obsolete? : Option Obsolete

/-- What an alias binds. -/
inductive Member where
  | method (method : Method)
  | property (property : Property)

/-- A member together with the namespaces that scripts need to use it. -/
structure Alias where
  namespaces : NameSet
  member : Member

namespace Parameter

/-- A parameter handed over by value, without a default. -/
def plain (name : String) (type : TypeExpr) : Parameter := ⟨name, type, .value, none⟩

/-- The receiver of a method. -/
def receiver (name : String) (type : TypeExpr) : Parameter := ⟨name, type, .receiver, none⟩

end Parameter

namespace Method

/-- Whether the first parameter is the receiver. -/
def hasReceiver (m : Method) : Bool :=
  match m.parameters with
  | p :: _ => p.passing == .receiver
  | [] => false

/-- The parameters that a script gives arguments for. -/
def scriptParameters (m : Method) : List Parameter :=
  if m.hasReceiver then m.parameters.tail else m.parameters

end Method

namespace Member

/-- The name of the member. -/
def name : Member → String
  | .method m => m.name
  | .property p => p.name

end Member

namespace Alias

/-- An alias for a method without parameters. -/
def ofMethod (name : String) (owner result : TypeExpr) : Alias :=
  ⟨.empty, .method ⟨name, owner, result, [], [], none⟩⟩

/-- An alias for a property whose value is not kept. -/
def ofProperty (name : String) (owner type : TypeExpr) : Alias :=
  ⟨.empty, .property ⟨name, owner, type, false, none⟩⟩

/-- The alias with a further namespace. -/
def withNamespace (a : Alias) (ns : String) : Alias :=
  { a with namespaces := a.namespaces.insert ns }

/-- The alias with a further parameter at the end, if it is for a method. -/
def withParameter (a : Alias) (p : Parameter) : Alias :=
  match a.member with
  | .method m => { a with member := .method { m with parameters := m.parameters ++ [p] } }
  | .property _ => a

/-- The alias with a further type parameter at the end, if it is for a method. -/
def withTypeParameter (a : Alias) (p : TypeParameter) : Alias :=
  match a.member with
  | .method m =>
    { a with member := .method { m with typeParameters := m.typeParameters ++ [p] } }
  | .property _ => a

/-- The alias marked as obsolete. -/
def withObsolete (a : Alias) (o : Obsolete) : Alias :=
  match a.member with
  | .method m => { a with member := .method { m with obsolete? := some o } }
  | .property p => { a with member := .property { p with obsolete? := some o } }

/-- The alias with caching switched on or off, if it is for a property. -/
def withCaching (a : Alias) (cached : Bool) : Alias :=
  match a.member with
  | .method _ => a
  | .property p => { a with member := .property { p with cached := cached } }

end Alias

end AliasBinding
