import AliasBinding.Text.Blank

/-!
# Quoted literals

The spelling of texts and characters between quotes.  A backslash, the quote in use and every
control character are escaped; NUL, line feed, carriage return and tab have escapes of one
letter, the other control characters are written as `\u` and four hexadecimal digits.  All
other characters stand for themselves.
-/

namespace AliasBinding.Text

/-- The hexadecimal digit of value `n % 16`, in upper case. -/
def hexDigit (n : Nat) : Char :=
  if n % 16 < 10 then Char.ofNat (n % 16 + 48) else Char.ofNat (n % 16 + 55)

/-- Four hexadecimal digits of `n`. -/
def hexQuad (n : Nat) : List Char :=
  [hexDigit (n / 4096), hexDigit (n / 256), hexDigit (n / 16), hexDigit n]

/-- The spelling of `c` inside a literal closed by `quote`. -/
def spellChar (quote c : Char) : List Char :=
  if c = '\\' then ['\\', '\\']
  else if c = quote then ['\\', quote]
  else if c = '\x00' then ['\\', '0']
  else if c = '\n' then ['\\', 'n']
  else if c = '\r' then ['\\', 'r']
  else if c = '\t' then ['\\', 't']
  else if isControl c then '\\' :: 'u' :: hexQuad c.toNat
  else [c]

/-- The characters `cs` between two quotes. -/
def quoted (quote : Char) (cs : List Char) : List Char :=
  quote :: (cs.flatMap (spellChar quote) ++ [quote])

/-- The string literal of `s`. -/
def stringLiteral (s : String) : String := String.ofList (quoted '"' s.toList)

/-- The character literal of `c`. -/
def charLiteral (c : Char) : String := String.ofList (quoted '\'' [c])

end AliasBinding.Text
