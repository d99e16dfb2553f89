import AliasBinding.Json.Fault
import AliasBinding.Json.Value

/-!
# Shapes of JSON values

Readers for values of a wanted shape.  A record is an object whose members may come in any
order, of which the unknown ones are ignored and no known one may occur twice; or it is the
array of its fields in order, of which the last ones may be left out when they are optional.
-/

namespace AliasBinding.Json

/-- What comes of a value: something of the wanted shape, or the mismatch. -/
abbrev Read (α : Type) := Except Mismatch α

/-! ### Simple values -/

/-- A string. -/
def asString : Json → Read String
  | .string s => .ok s
  | _ => .error .wrongType

/-- A truth value. -/
def asBool : Json → Read Bool
  | .bool b => .ok b
  | _ => .error .wrongType

/-- A number; an integer stands for the nearest double. -/
def asFloat : Json → Read Float
  | .integer n => .ok (Float.ofInt n)
  | .float x => .ok x
  | _ => .error .wrongType

/-- An integer of 64 bits with a sign. -/
def asInt64 : Json → Read Int64
  | .integer n =>
    if Int64.minValue.toInt ≤ n ∧ n ≤ Int64.maxValue.toInt then .ok (Int64.ofInt n)
    else .error .wrongValue
  | _ => .error .wrongType

/-- An integer of 8 bits without a sign. -/
def asUInt8 : Json → Read UInt8
  | .integer n => if 0 ≤ n ∧ n < 256 then .ok n.toNat.toUInt8 else .error .wrongValue
  | _ => .error .wrongType

/-- A string of one character. -/
def asChar : Json → Read Char
  | .string s =>
    match s.toList with
    | [c] => .ok c
    | _ => .error .wrongValue
  | _ => .error .wrongType

/-- Null, for nothing, or a value. -/
def asOption {α : Type} (read : Json → Read α) : Json → Read (Option α)
  | .null => .ok none
  | value => some <$> read value

/-- An array of values. -/
def asList {α : Type} (read : Json → Read α) : Json → Read (List α)
  | .array items => items.mapM read
  | _ => .error .wrongType

/-! ### Variants -/

/-- The variant of the given name in a table. -/
def variantNamed {α : Type} (table : List (String × α)) (name : String) : Read α :=
  match table.lookup name with
  | some a => .ok a
  | none => .error (.unknownVariant name (table.map (·.1)))

/-- The tag of a variant: its name or its position in the table. -/
def asTag {α : Type} (table : List (String × α)) : Json → Read α
  | .string name => variantNamed table name
  | .integer n =>
    if n < 0 then .error .wrongType
    else
      match table[n.toNat]? with
      | some (_, a) => .ok a
      | none => .error .wrongValue
  | _ => .error .wrongType

/-- A variant with what belongs to it: its name alone, or an object with its name for the only
member. -/
def asVariant {α : Type} (table : List (String × α)) : Json → Read (α × Option Json)
  | .string name => return (← variantNamed table name, none)
  | .object [(name, content)] => return (← variantNamed table name, some content)
  | .object _ => .error .wrongValue
  | _ => .error .wrongType

/-- Nothing belongs to a variant, or null, or an empty object. -/
def asNothing : Option Json → Read Unit
  | none | some .null | some (.object []) => .ok ()
  | some _ => .error .wrongType

/-- A variant to which nothing belongs. -/
def asPlainVariant {α : Type} (table : List (String × α)) (value : Json) : Read α := do
  let (a, content) ← asVariant table value
  asNothing content
  return a

/-- The tag of an object, which is the member `field`. -/
def tagOf {α : Type} (field : String) (table : List (String × α))
    (members : List (String × Json)) : Read α :=
  let rec go (found : Option α) : List (String × Json) → Read α
    | [] =>
      match found with
      | some a => .ok a
      | none => .error (.missingField field)
    | (name, value) :: rest =>
      if name = field then
        match found with
        | some _ => .error (.duplicateField field)
        | none => do
          let a ← asTag table value
          go (some a) rest
      else go found rest
  go none members

/-! ### Fields of an object -/

/-- Reads the field `name`, which must not have been read before. -/
def readOnce {α : Type} (name : String) (present : Option α) (read : Read α) :
    Read (Option α) :=
  match present with
  | some _ => .error (.duplicateField name)
  | none => some <$> read

/-- A field that has to be there. -/
def required {α : Type} (name : String) : Option α → Read α
  | some a => .ok a
  | none => .error (.missingField name)

/-- The members of an object, taken one after the other. -/
def foldMembers {σ : Type} (step : σ → String → Json → Read σ) (state : σ)
    (members : List (String × Json)) : Read σ :=
  members.foldlM (fun state m => step state m.1 m.2) state

/-! ### Fields in an array -/

/-- Takes fields from the front of an array. -/
abbrev Fields := StateT (List Json) (Except Mismatch)

namespace Fields

/-- The next field, which has to be there. -/
def next {α : Type} (read : Json → Read α) : Fields α := fun
  | value :: rest => return (← read value, rest)
  | [] => .error .wrongLength

/-- The next field, or what stands for it when no field is left. -/
def nextOr {α : Type} (default : α) (read : Json → Read α) : Fields α := fun
  | value :: rest => return (← read value, rest)
  | [] => .ok (default, [])

/-- Takes all fields of an array. -/
def takeAll {α : Type} (fields : Fields α) (items : List Json) : Read α := do
  match ← fields.run items with
  | (a, []) => return a
  | (_, _ :: _) => .error .wrongLength

end Fields

end AliasBinding.Json
