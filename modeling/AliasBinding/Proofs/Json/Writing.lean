import AliasBinding.Json.Printer
import AliasBinding.Json.Token

/-!
# Written JSON

A value is written as a list of lexemes, which are laid out with any spaces around them.
Strings are escaped as in printed JSON, and integers are written in decimal; how a double is
written is left open.
-/

namespace AliasBinding.Json

/-! ### Numerals -/

/-- The decimal digits of a number, from the first one. -/
def decimalDigits (n : Nat) : List Nat :=
  if n < 10 then [n] else decimalDigits (n / 10) ++ [n % 10]

namespace Numeral

/-- The numeral of an integer. -/
def ofInt (n : Int) : Numeral := ⟨n < 0, decimalDigits n.natAbs, none, none⟩

/-- The characters of a numeral. -/
def spell (n : Numeral) : List Char :=
  let sign (negative : Bool) := if negative then ['-'] else []
  let fraction :=
    match n.fraction? with
    | some digits => '.' :: digits.map Nat.digitChar
    | none => []
  let exponent :=
    match n.exponent? with
    | some (negative, digits) => 'e' :: (sign negative ++ digits.map Nat.digitChar)
    | none => []
  sign n.negative ++ n.whole.map Nat.digitChar ++ fraction ++ exponent

end Numeral

/-! ### Lexemes -/

namespace Word

/-- The characters of a word. -/
def chars : Word → List Char
  | .null => ['n', 'u', 'l', 'l']
  | .bool true => ['t', 'r', 'u', 'e']
  | .bool false => ['f', 'a', 'l', 's', 'e']

end Word

/-- A written token. -/
inductive Lexeme where
  | openBrace
  | closeBrace
  | openBracket
  | closeBracket
  | comma
  | colon
  | word (word : Word)
  | number (numeral : Numeral)
  | text (value : String)

/-- A string of which every character is written as itself or escaped. -/
def Quoted.ofString (s : String) : Quoted := ⟨s.toList.map .char, .ok ()⟩

namespace Lexeme

/-- The characters of a lexeme. -/
def chars : Lexeme → List Char
  | .openBrace => ['{']
  | .closeBrace => ['}']
  | .openBracket => ['[']
  | .closeBracket => [']']
  | .comma => [',']
  | .colon => [':']
  | .word w => w.chars
  | .number n => n.spell
  | .text s => '"' :: (s.toList.flatMap escapeChar ++ ['"'])

/-- The token that a lexeme is read as. -/
def token : Lexeme → Token
  | .openBrace => .openBrace
  | .closeBrace => .closeBrace
  | .openBracket => .openBracket
  | .closeBracket => .closeBracket
  | .comma => .comma
  | .colon => .colon
  | .word w => .word (.ok w)
  | .number n => .number (.ok n)
  | .text s => .text (.ofString s)

end Lexeme

/-! ### Layout -/

/-- The spaces in front of each lexeme, and those behind the last one. -/
structure Spacing where
  /-- The spaces in front of the lexeme with the given number. -/
  gap : Nat → List Char
  /-- There is nothing but spaces. -/
  isSpace : ∀ i, ∀ c ∈ gap i, Scan.isSpace c = true

/-- The spacing behind the first lexeme. -/
def Spacing.rest (spacing : Spacing) : Spacing :=
  ⟨fun i => spacing.gap (i + 1), fun i => spacing.isSpace (i + 1)⟩

/-- The characters of lexemes with spaces around them. -/
def layOut (spacing : Spacing) : List Lexeme → List Char
  | [] => spacing.gap 0
  | l :: ls => spacing.gap 0 ++ l.chars ++ layOut spacing.rest ls

/-! ### Values -/

section Values

-- `real` gives the numeral that a double is written as.
variable (real : Float → Numeral)

mutual

/-- The lexemes of a value. -/
def lexemes : Json → List Lexeme
  | .null => [.word .null]
  | .bool b => [.word (.bool b)]
  | .integer n => [.number (.ofInt n)]
  | .float x => [.number (real x)]
  | .string s => [.text s]
  | .array [] => [.openBracket, .closeBracket]
  | .array (item :: items) =>
    .openBracket :: (item.lexemes ++ furtherItems items ++ [.closeBracket])
  | .object [] => [.openBrace, .closeBrace]
  | .object ((name, value) :: members) =>
    .openBrace :: .text name :: .colon ::
      (value.lexemes ++ furtherMembers members ++ [.closeBrace])

/-- The lexemes of the items of an array after the first one. -/
def furtherItems : List Json → List Lexeme
  | [] => []
  | item :: items => .comma :: (item.lexemes ++ furtherItems items)

/-- The lexemes of the members of an object after the first one. -/
def furtherMembers : List (String × Json) → List Lexeme
  | [] => []
  | (name, value) :: members =>
    .comma :: .text name :: .colon :: (value.lexemes ++ furtherMembers members)

end

/-- A text that writes a value. -/
def write (spacing : Spacing) (v : Json) : String :=
  String.ofList (layOut spacing (v.lexemes real))

end Values

mutual

/-- How many arrays and objects are nested in each other. -/
def depth : Json → Nat
  | .null | .bool _ | .integer _ | .float _ | .string _ => 0
  | .array items => depthOfItems items + 1
  | .object members => depthOfMembers members + 1

/-- The greatest depth of an item. -/
def depthOfItems : List Json → Nat
  | [] => 0
  | item :: items => max item.depth (depthOfItems items)

/-- The greatest depth of a member. -/
def depthOfMembers : List (String × Json) → Nat
  | [] => 0
  | (_, value) :: members => max value.depth (depthOfMembers members)

end

mutual

/-- The value has no doubles, and its integers fit 64 bits, with or without a sign. -/
def Exact : Json → Prop
  | .null | .bool _ | .string _ => True
  | .integer n => Int64.minValue.toInt ≤ n ∧ n < UInt64.size
  | .float _ => False
  | .array items => ExactItems items
  | .object members => ExactMembers members

/-- The items are exact. -/
def ExactItems : List Json → Prop
  | [] => True
  | item :: items => item.Exact ∧ ExactItems items

/-- The members are exact. -/
def ExactMembers : List (String × Json) → Prop
  | [] => True
  | (_, value) :: members => value.Exact ∧ ExactMembers members

end

end AliasBinding.Json
