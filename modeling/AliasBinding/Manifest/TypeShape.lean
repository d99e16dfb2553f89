import AliasBinding.TypeExpr
import AliasBinding.Json.Shape

/-!
# Types in a manifest

A type is a record with the tag `type`, which says what other fields it has; written as an
array, it starts with the tag.
-/

namespace AliasBinding.TypeExpr

open Json

/-- The kinds of types. -/
inductive Kind where
  | named
  | parameter
  | array
  | nullable
  | byRef
  deriving DecidableEq, Repr

namespace Kind

/-- The kinds by their tags. -/
def table : List (String × Kind) := [
  ("named", .named), ("generic_parameter", .parameter), ("array", .array),
  ("nullable", .nullable), ("by_ref", .byRef)]

end Kind

/-- The fields of a type that have been read. -/
structure Partial where
  ns? : Option (Option String) := none
  name? : Option String := none
  arguments? : Option (List TypeExpr) := none
  isValue? : Option Bool := none
  element? : Option TypeExpr := none
  rank? : Option UInt8 := none
  inner? : Option TypeExpr := none

namespace Partial

/-- The type with the fields read, if none is missing. -/
def assemble (fields : Partial) : Kind → Read TypeExpr
  | .named => do
    let name ← required "name" fields.name?
    return .named (fields.ns?.getD none) name (fields.arguments?.getD [])
      (fields.isValue?.getD false)
  | .parameter => return .parameter (← required "name" fields.name?)
  | .array => return .array (← required "element" fields.element?) (fields.rank?.getD 1)
  | .nullable => return .nullable (← required "inner" fields.inner?)
  | .byRef => return .byRef (← required "inner" fields.inner?)

end Partial

mutual

/-- Reads a type. -/
def ofJson : Json → Read TypeExpr
  | .object members => do
    let kind ← tagOf "type" Kind.table members
    let fields ← ofMembers kind {} members
    fields.assemble kind
  | .array [] => .error (.missingField "type")
  | .array (tag :: rest) => do
    let kind ← asTag Kind.table tag
    ofFields kind rest
  | .null | .bool _ | .integer _ | .float _ | .string _ => .error .wrongType

/-- Reads an array of types. -/
def listOfJson : Json → Read (List TypeExpr)
  | .array items => ofItems items
  | .null | .bool _ | .integer _ | .float _ | .string _ | .object _ => .error .wrongType

/-- Reads types one after the other. -/
def ofItems : List Json → Read (List TypeExpr)
  | [] => .ok []
  | item :: rest => return (← ofJson item) :: (← ofItems rest)

/-- Reads the fields of a type of the given kind from the members of an object. -/
def ofMembers (kind : Kind) (fields : Partial) : List (String × Json) → Read Partial
  | [] => .ok fields
  | (name, value) :: rest => do
    let fields ←
      match kind, name with
      | .named, "namespace" =>
        (fun x => { fields with ns? := x }) <$>
          readOnce "namespace" fields.ns? (asOption asString value)
      | .named, "name" | .parameter, "name" =>
        (fun x => { fields with name? := x }) <$>
          readOnce "name" fields.name? (asString value)
      | .named, "arguments" =>
        (fun x => { fields with arguments? := x }) <$>
          readOnce "arguments" fields.arguments? (listOfJson value)
      | .named, "value_type" =>
        (fun x => { fields with isValue? := x }) <$>
          readOnce "value_type" fields.isValue? (asBool value)
      | .array, "element" =>
        (fun x => { fields with element? := x }) <$>
          readOnce "element" fields.element? (ofJson value)
      | .array, "rank" =>
        (fun x => { fields with rank? := x }) <$>
          readOnce "rank" fields.rank? (asUInt8 value)
      | .nullable, "inner" | .byRef, "inner" =>
        (fun x => { fields with inner? := x }) <$>
          readOnce "inner" fields.inner? (ofJson value)
      | _, _ => .ok fields
    ofMembers kind fields rest

/-- Reads the fields of a type of the given kind from the rest of an array. -/
def ofFields : Kind → List Json → Read TypeExpr
  | .named, ns :: name :: rest => do
    let ns ← asOption asString ns
    let name ← asString name
    match rest with
    | [] => return .named ns name [] false
    | arguments :: rest =>
      let arguments ← listOfJson arguments
      match rest with
      | [] => return .named ns name arguments false
      | isValue :: rest =>
        let isValue ← asBool isValue
        if rest.isEmpty then return .named ns name arguments isValue
        else .error .wrongLength
  | .named, [ns] => do
    let _ ← asOption asString ns
    .error .wrongLength
  | .parameter, name :: rest => do
    let name ← asString name
    if rest.isEmpty then return .parameter name else .error .wrongLength
  | .array, element :: rest => do
    let element ← ofJson element
    match rest with
    | [] => return .array element 1
    | rank :: rest =>
      let rank ← asUInt8 rank
      if rest.isEmpty then return .array element rank else .error .wrongLength
  | .nullable, inner :: rest => do
    let inner ← ofJson inner
    if rest.isEmpty then return .nullable inner else .error .wrongLength
  | .byRef, inner :: rest => do
    let inner ← ofJson inner
    if rest.isEmpty then return .byRef inner else .error .wrongLength
  | .named, [] | .parameter, [] | .array, [] | .nullable, [] | .byRef, [] =>
    .error .wrongLength

end

/-! ### Writing -/

/-- Nothing, as null, or a string. -/
def optionalText : Option String → Json
  | some s => .string s
  | none => .null

mutual

/-- The record of a type, with all its fields. -/
def toJson : TypeExpr → Json
  | .named ns name arguments isValue => .object [
      ("type", .string "named"), ("namespace", optionalText ns), ("name", .string name),
      ("arguments", .array (toItems arguments)), ("value_type", .bool isValue)]
  | .parameter name => .object [("type", .string "generic_parameter"), ("name", .string name)]
  | .array element rank => .object [
      ("type", .string "array"), ("element", element.toJson), ("rank", .integer rank.toNat)]
  | .nullable inner => .object [("type", .string "nullable"), ("inner", inner.toJson)]
  | .byRef inner => .object [("type", .string "by_ref"), ("inner", inner.toJson)]

/-- The records of a list of types. -/
def toItems : List TypeExpr → List Json
  | [] => []
  | t :: rest => t.toJson :: toItems rest

end

end AliasBinding.TypeExpr
