import AliasBinding.Alias
import AliasBinding.Manifest.TypeShape

/-!
# Aliases in a manifest

An alias is a record with the tag `kind`, which says whether it is a method or a property, and
the member `namespaces`.  Parameters, type parameters and obsolete marks are records without a
tag.  A default is a record of its kind and its value, of which either may come first; a way of
passing and a constraint are variants.
-/

namespace AliasBinding

open Json

namespace Passing

/-- The ways of passing by their names. -/
def table : List (String × Passing) := [
  ("none", .value), ("this", .receiver), ("ref", .reference), ("out", .output),
  ("in", .input), ("params", .rest)]

/-- The name of a way of passing. -/
def tag : Passing → String
  | .value => "none"
  | .receiver => "this"
  | .reference => "ref"
  | .output => "out"
  | .input => "in"
  | .rest => "params"

end Passing

/-! ### Defaults -/

namespace Constant

/-- The kinds of constants. -/
inductive Kind where
  | null
  | bool
  | integer
  | float
  | string
  | char
  | zero
  deriving DecidableEq, Repr

/-- The kinds by their tags. -/
def Kind.table : List (String × Kind) := [
  ("null", .null), ("bool", .bool), ("integer", .integer), ("float", .float),
  ("string", .string), ("char", .char), ("default", .zero)]

/-- Reads a constant of the given kind from its value. -/
def ofValue (value : Json) : Kind → Read Constant
  | .null => do asNull; return .null
  | .bool => .bool <$> asBool value
  | .integer => .integer <$> asInt64 value
  | .float => .float <$> asFloat value
  | .string => .string <$> asString value
  | .char => .char <$> asChar value
  | .zero => do asNull; return .zero
where
  /-- Null, and nothing else. -/
  asNull : Read Unit :=
    match value with
    | .null => .ok ()
    | _ => .error .wrongType

/-- The constant of the given kind that needs no value. -/
def ofNothing : Kind → Read Constant
  | .null => .ok .null
  | .zero => .ok .zero
  | .bool | .integer | .float | .string | .char => .error (.missingField "value")

/-- The members `kind` and `value` of an object, told apart by the flag: it is set for
`kind`. -/
def relevant (members : List (String × Json)) : List (Bool × Json) :=
  members.filterMap fun (name, value) =>
    if name = "kind" then some (true, value)
    else if name = "value" then some (false, value)
    else none

/-- The constant, when no further member may follow. -/
def last (c : Constant) : List (Bool × Json) → Read Constant
  | [] => .ok c
  | (true, _) :: _ => .error (.duplicateField "kind")
  | (false, _) :: _ => .error (.duplicateField "value")

/-- Reads a constant from the members `kind` and `value` in the order in which they come. -/
def ofRelevant : List (Bool × Json) → Read Constant
  | [] => .error (.missingField "kind")
  | (true, tag) :: rest => do
    let kind ← asPlainVariant Kind.table tag
    match rest with
    | [] => ofNothing kind
    | (true, _) :: _ => .error (.duplicateField "kind")
    | (false, value) :: rest => (← ofValue value kind).last rest
  | (false, value) :: rest =>
    match rest with
    | [] => .error (.missingField "kind")
    | (false, _) :: _ => .error (.duplicateField "value")
    | (true, tag) :: rest => do
      let kind ← asPlainVariant Kind.table tag
      (← ofValue value kind).last rest

/-- Reads a constant. -/
def ofJson : Json → Read Constant
  | .object members => ofRelevant (relevant members)
  | .array [] => .error .wrongLength
  | .array (tag :: rest) => do
    let kind ← asTag Kind.table tag
    match rest with
    | [] => .error .wrongLength
    | value :: rest => do
      let c ← ofValue value kind
      if rest.isEmpty then return c else .error .wrongLength
  | _ => .error .wrongType

/-- The record of a constant. -/
def toJson : Constant → Json
  | .null => .object [("kind", .string "null")]
  | .bool b => .object [("kind", .string "bool"), ("value", .bool b)]
  | .integer n => .object [("kind", .string "integer"), ("value", .integer n.toInt)]
  | .float x => .object [("kind", .string "float"), ("value", .float x)]
  | .string s => .object [("kind", .string "string"), ("value", .string s)]
  | .char c => .object [("kind", .string "char"), ("value", .string (String.singleton c))]
  | .zero => .object [("kind", .string "default")]

end Constant

/-! ### Parameters -/

namespace Parameter

/-- The fields of a parameter that have been read. -/
structure Partial where
  name? : Option String := none
  type? : Option TypeExpr := none
  passing? : Option Passing := none
  default? : Option (Option Constant) := none

/-- Reads a member of a parameter. -/
def Partial.read (fields : Partial) (name : String) (value : Json) : Read Partial :=
  match name with
  | "name" =>
    (fun x => { fields with name? := x }) <$> readOnce "name" fields.name? (asString value)
  | "type" =>
    (fun x => { fields with type? := x }) <$>
      readOnce "type" fields.type? (TypeExpr.ofJson value)
  | "modifier" =>
    (fun x => { fields with passing? := x }) <$>
      readOnce "modifier" fields.passing? (asPlainVariant Passing.table value)
  | "default" =>
    (fun x => { fields with default? := x }) <$>
      readOnce "default" fields.default? (asOption Constant.ofJson value)
  | _ => .ok fields

/-- The parameter with the fields read, if none is missing. -/
def Partial.assemble (fields : Partial) : Read Parameter := do
  let name ← required "name" fields.name?
  let type ← required "type" fields.type?
  return ⟨name, type, fields.passing?.getD .value, fields.default?.getD none⟩

/-- Reads a parameter. -/
def ofJson : Json → Read Parameter
  | .object members => do (← foldMembers Partial.read {} members).assemble
  | .array items => Fields.takeAll (do
      let name ← Fields.next asString
      let type ← Fields.next TypeExpr.ofJson
      let passing ← Fields.nextOr .value (asPlainVariant Passing.table)
      let default? ← Fields.nextOr none (asOption Constant.ofJson)
      return ⟨name, type, passing, default?⟩) items
  | _ => .error .wrongType

/-- The record of a parameter, with all its fields. -/
def toJson (p : Parameter) : Json := .object [
  ("name", .string p.name), ("type", p.type.toJson), ("modifier", .string p.passing.tag),
  ("default", match p.default? with | some c => c.toJson | none => .null)]

end Parameter

/-! ### Type parameters -/

namespace Constraint

/-- The kinds of constraints; the one to subtypes has a type with it. -/
inductive Kind where
  | reference
  | value
  | constructible
  | subtype
  deriving DecidableEq, Repr

/-- The kinds by their names. -/
def Kind.table : List (String × Kind) := [
  ("class", .reference), ("struct", .value), ("new", .constructible), ("type", .subtype)]

/-- Reads a constraint. -/
def ofJson (value : Json) : Read Constraint := do
  match ← asVariant Kind.table value with
  | (.reference, content) => asNothing content; return .reference
  | (.value, content) => asNothing content; return .value
  | (.constructible, content) => asNothing content; return .constructible
  | (.subtype, some type) => return .subtype (← TypeExpr.ofJson type)
  | (.subtype, none) => .error .wrongType

/-- The variant of a constraint. -/
def toJson : Constraint → Json
  | .reference => .string "class"
  | .value => .string "struct"
  | .constructible => .string "new"
  | .subtype type => .object [("type", type.toJson)]

end Constraint

namespace TypeParameter

/-- The fields of a type parameter that have been read. -/
structure Partial where
  name? : Option String := none
  constraints? : Option (List Constraint) := none

/-- Reads a member of a type parameter. -/
def Partial.read (fields : Partial) (name : String) (value : Json) : Read Partial :=
  match name with
  | "name" =>
    (fun x => { fields with name? := x }) <$> readOnce "name" fields.name? (asString value)
  | "constraints" =>
    (fun x => { fields with constraints? := x }) <$>
      readOnce "constraints" fields.constraints? (asList Constraint.ofJson value)
  | _ => .ok fields

/-- The type parameter with the fields read, if none is missing. -/
def Partial.assemble (fields : Partial) : Read TypeParameter := do
  let name ← required "name" fields.name?
  return ⟨name, fields.constraints?.getD []⟩

/-- Reads a type parameter. -/
def ofJson : Json → Read TypeParameter
  | .object members => do (← foldMembers Partial.read {} members).assemble
  | .array items => Fields.takeAll (do
      let name ← Fields.next asString
      let constraints ← Fields.nextOr [] (asList Constraint.ofJson)
      return ⟨name, constraints⟩) items
  | _ => .error .wrongType

/-- The record of a type parameter, with all its fields. -/
def toJson (p : TypeParameter) : Json := .object [
  ("name", .string p.name), ("constraints", .array (p.constraints.map Constraint.toJson))]

end TypeParameter

/-! ### Obsolete marks -/

namespace Obsolete

/-- The fields of an obsolete mark that have been read. -/
structure Partial where
  message? : Option (Option String) := none
  isError? : Option Bool := none

/-- Reads a member of an obsolete mark. -/
def Partial.read (fields : Partial) (name : String) (value : Json) : Read Partial :=
  match name with
  | "message" =>
    (fun x => { fields with message? := x }) <$>
      readOnce "message" fields.message? (asOption asString value)
  | "error" =>
    (fun x => { fields with isError? := x }) <$>
      readOnce "error" fields.isError? (asBool value)
  | _ => .ok fields

/-- The mark with the fields read. -/
def Partial.assemble (fields : Partial) : Obsolete :=
  ⟨fields.message?.getD none, fields.isError?.getD false⟩

/-- Reads an obsolete mark. -/
def ofJson : Json → Read Obsolete
  | .object members => return (← foldMembers Partial.read {} members).assemble
  | .array items => Fields.takeAll (do
      let message? ← Fields.nextOr none (asOption asString)
      let isError ← Fields.nextOr false asBool
      return ⟨message?, isError⟩) items
  | _ => .error .wrongType

/-- The record of an obsolete mark, with all its fields. -/
def toJson (o : Obsolete) : Json := .object [
  ("message", TypeExpr.optionalText o.message?), ("error", .bool o.isError)]

end Obsolete

/-! ### Members and aliases -/

namespace Member

/-- The kinds of members. -/
inductive Kind where
  | method
  | property
  deriving DecidableEq, Repr

/-- The kinds by their tags. -/
def Kind.table : List (String × Kind) := [("method", .method), ("property", .property)]

/-- The fields of a member that have been read. -/
structure Partial where
  name? : Option String := none
  owner? : Option TypeExpr := none
  type? : Option TypeExpr := none
  parameters? : Option (List Parameter) := none
  typeParameters? : Option (List TypeParameter) := none
  cached? : Option Bool := none
  obsolete? : Option (Option Obsolete) := none

/-- Reads a member of the given kind from one member of an object. -/
def Partial.read (kind : Kind) (fields : Partial) (name : String) (value : Json) :
    Read Partial :=
  match kind, name with
  | _, "name" =>
    (fun x => { fields with name? := x }) <$> readOnce "name" fields.name? (asString value)
  | _, "declaring_type" =>
    (fun x => { fields with owner? := x }) <$>
      readOnce "declaring_type" fields.owner? (TypeExpr.ofJson value)
  | .method, "return_type" =>
    (fun x => { fields with type? := x }) <$>
      readOnce "return_type" fields.type? (TypeExpr.ofJson value)
  | .method, "parameters" =>
    (fun x => { fields with parameters? := x }) <$>
      readOnce "parameters" fields.parameters? (asList Parameter.ofJson value)
  | .method, "generic_parameters" =>
    (fun x => { fields with typeParameters? := x }) <$>
      readOnce "generic_parameters" fields.typeParameters? (asList TypeParameter.ofJson value)
  | .property, "property_type" =>
    (fun x => { fields with type? := x }) <$>
      readOnce "property_type" fields.type? (TypeExpr.ofJson value)
  | .property, "cached" =>
    (fun x => { fields with cached? := x }) <$>
      readOnce "cached" fields.cached? (asBool value)
  | _, "obsolete" =>
    (fun x => { fields with obsolete? := x }) <$>
      readOnce "obsolete" fields.obsolete? (asOption Obsolete.ofJson value)
  | _, _ => .ok fields

/-- The member with the fields read, if none is missing. -/
def Partial.assemble (fields : Partial) : Kind → Read Member
  | .method => do
    let name ← required "name" fields.name?
    let owner ← required "declaring_type" fields.owner?
    let result ← required "return_type" fields.type?
    return .method ⟨name, owner, result, fields.parameters?.getD [],
      fields.typeParameters?.getD [], fields.obsolete?.getD none⟩
  | .property => do
    let name ← required "name" fields.name?
    let owner ← required "declaring_type" fields.owner?
    let type ← required "property_type" fields.type?
    return .property ⟨name, owner, type, fields.cached?.getD false,
      fields.obsolete?.getD none⟩

/-- Reads a member from the members of an object. -/
def ofMembers (members : List (String × Json)) : Read Member := do
  let kind ← tagOf "kind" Kind.table members
  (← foldMembers (Partial.read kind) {} members).assemble kind

/-- The members of the record of a member, with all its fields. -/
def toMembers : Member → List (String × Json)
  | .method m => [
      ("kind", .string "method"), ("name", .string m.name),
      ("declaring_type", m.owner.toJson), ("return_type", m.result.toJson),
      ("parameters", .array (m.parameters.map Parameter.toJson)),
      ("generic_parameters", .array (m.typeParameters.map TypeParameter.toJson)),
      ("obsolete", obsoleteJson m.obsolete?)]
  | .property p => [
      ("kind", .string "property"), ("name", .string p.name),
      ("declaring_type", p.owner.toJson), ("property_type", p.type.toJson),
      ("cached", .bool p.cached), ("obsolete", obsoleteJson p.obsolete?)]
where
  /-- The record of an obsolete mark, or null. -/
  obsoleteJson : Option Obsolete → Json
    | some o => o.toJson
    | none => .null

end Member

namespace Alias

/-- Reads an alias. -/
def ofJson : Json → Read Alias
  | .object members => do
    let (namespaces, rest) := members.partition (·.1 == "namespaces")
    let names ←
      match namespaces with
      | [] => pure []
      | [(_, value)] => asList asString value
      | _ => .error (.duplicateField "namespaces")
    return ⟨.ofList names, ← Member.ofMembers rest⟩
  | _ => .error .wrongType

/-- The record of an alias, with all its fields. -/
def toJson (a : Alias) : Json :=
  .object (("namespaces", .array (a.namespaces.toList.map Json.string)) ::
    a.member.toMembers)

end Alias

end AliasBinding
