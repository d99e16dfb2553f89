import AliasBinding.Json.Value

/-!
# Printed JSON

Strings and lists of strings as JSON text.  In a string only quotes, backslashes and the
characters below the space are escaped, by one letter where there is one and else by `\u` and
four hexadecimal digits.  A list has one item to a line, indented by two spaces to the level;
an empty list is a pair of brackets.
-/

namespace AliasBinding.Json

/-- A hexadecimal digit in lower case. -/
def lowerHexDigit (n : Nat) : Char :=
  if n % 16 < 10 then Char.ofNat (n % 16 + 48) else Char.ofNat (n % 16 + 87)

/-- A character inside a string. -/
def escapeChar (c : Char) : List Char :=
  if c = '"' then ['\\', '"']
  else if c = '\\' then ['\\', '\\']
  else if c = '\x08' then ['\\', 'b']
  else if c = '\x0c' then ['\\', 'f']
  else if c = '\n' then ['\\', 'n']
  else if c = '\r' then ['\\', 'r']
  else if c = '\t' then ['\\', 't']
  else if c.toNat < 0x20 then
    ['\\', 'u', '0', '0', lowerHexDigit (c.toNat / 16), lowerHexDigit c.toNat]
  else [c]

/-- A string. -/
def printString (s : String) : String :=
  String.ofList ('"' :: (s.toList.flatMap escapeChar ++ ['"']))

/-- The spaces in front of a line at the given level. -/
def margin (level : Nat) : String := String.ofList (List.replicate (2 * level) ' ')

/-- Printed items between brackets, for a list that stands at the given level. -/
def printBlock (left right : String) (level : Nat) (items : List String) : String :=
  if items.isEmpty then left ++ right
  else
    left ++ "\n" ++
    (",\n".intercalate (items.map fun item => margin (level + 1) ++ item)) ++
    "\n" ++ margin level ++ right

/-- An array of strings that stands at the given level. -/
def printStrings (level : Nat) (ss : List String) : String :=
  printBlock "[" "]" level (ss.map printString)

/-- A member of an object. -/
def printMember (name value : String) : String := printString name ++ ": " ++ value

end AliasBinding.Json
