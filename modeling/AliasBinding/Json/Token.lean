import AliasBinding.Json.Fault
import AliasBinding.Json.Numeral

/-!
# Tokens of a JSON text

A text is cut into tokens by a scanner that takes it character by character.  A token says by
its kind what its first character was, and keeps what is wrong with the rest of it, so that a
reader learns of a broken token only when it takes its value.  The scanner stops at the first
broken token; whatever follows it in the text is not looked at.
-/

namespace AliasBinding.Json

/-- The words that stand for values. -/
inductive Word where
  | null
  | bool (value : Bool)
  deriving DecidableEq, Repr

/-- A unit of a string. -/
inductive TextUnit where
  | char (c : Char)
  /-- An escaped half of a surrogate pair. -/
  | surrogate (code : Nat)
  deriving DecidableEq, Repr

/-- A string as it is written: its units, and whether it is closed. -/
structure Quoted where
  units : List TextUnit
  ending : Except Fault Unit

/-- A token. -/
inductive Token where
  | openBrace
  | closeBrace
  | openBracket
  | closeBracket
  | comma
  | colon
  | word (read : Except Fault Word)
  | number (read : Except Fault Numeral)
  | text (read : Quoted)
  /-- A character that starts no token. -/
  | stray

/-! ### Strings -/

namespace Quoted

/-- The character of a surrogate pair. -/
def pair (lead trail : Nat) : Char :=
  Char.ofNat (0x10000 + (lead - 0xD800) * 0x400 + (trail - 0xDC00))

/-- The characters of a string; the halves of surrogate pairs have to come in pairs. -/
def decodeUnits (ending : Except Fault Unit) : List TextUnit → Except Fault (List Char)
  | [] => ending.map fun _ => []
  | .char c :: rest => return c :: (← decodeUnits ending rest)
  | .surrogate lead :: rest =>
    if 0xDC00 ≤ lead then .error .malformed
    else
      match rest with
      | .surrogate trail :: rest =>
        if 0xDC00 ≤ trail then return pair lead trail :: (← decodeUnits ending rest)
        else .error .malformed
      | .char _ :: _ => .error .malformed
      | [] =>
        match ending with
        | .error .truncated => .error .truncated
        | _ => .error .malformed

/-- The value of a string. -/
def decode (t : Quoted) : Except Fault String :=
  (decodeUnits t.ending t.units).map String.ofList

end Quoted

/-! ### Numbers -/

/-- How far a number has been scanned, by what its last character was. -/
inductive NumberStage where
  | sign
  | zero
  | whole
  | point
  | fraction
  | mark
  | markSign
  | exponent
  deriving DecidableEq, Repr

namespace NumberStage

/-- Whether a number may end here. -/
def isComplete : NumberStage → Bool
  | .zero | .whole | .fraction | .exponent => true
  | .sign | .point | .mark | .markSign => false

end NumberStage

/-- The value of a decimal digit. -/
def digit? (c : Char) : Option Nat :=
  if '0' ≤ c ∧ c ≤ '9' then some (c.toNat - 48) else none

/-- The value of a hexadecimal digit. -/
def hexDigit? (c : Char) : Option Nat :=
  if '0' ≤ c ∧ c ≤ '9' then some (c.toNat - 48)
  else if 'a' ≤ c ∧ c ≤ 'f' then some (c.toNat - 87)
  else if 'A' ≤ c ∧ c ≤ 'F' then some (c.toNat - 55)
  else none

namespace Numeral

/-- The numeral without a digit. -/
def blank (negative : Bool) : Numeral := ⟨negative, [], none, none⟩

/-- The numeral with a further digit where the stage says. -/
def pushDigit (n : Numeral) (d : Nat) : NumberStage → Option (NumberStage × Numeral)
  | .sign => some (if d = 0 then .zero else .whole, { n with whole := [d] })
  | .zero => none
  | .whole => some (.whole, { n with whole := n.whole ++ [d] })
  | .point | .fraction =>
    some (.fraction, { n with fraction? := some (n.fraction?.getD [] ++ [d]) })
  | .mark | .markSign | .exponent =>
    let (negative, digits) := n.exponent?.getD (false, [])
    some (.exponent, { n with exponent? := some (negative, digits ++ [d]) })

/-- The numeral with a further character, if the character belongs to it. -/
def push (n : Numeral) (stage : NumberStage) (c : Char) : Option (NumberStage × Numeral) :=
  match digit? c with
  | some d => n.pushDigit d stage
  | none =>
    if c = '.' then
      if stage = .zero ∨ stage = .whole then some (.point, { n with fraction? := some [] })
      else none
    else if c = 'e' ∨ c = 'E' then
      if stage = .zero ∨ stage = .whole ∨ stage = .fraction then
        some (.mark, { n with exponent? := some (false, []) })
      else none
    else if c = '+' ∨ c = '-' then
      if stage = .mark then some (.markSign, { n with exponent? := some (c = '-', []) })
      else none
    else none

end Numeral

/-! ### The scanner -/

/-- Where the scanner is in a string. -/
inductive TextStage where
  | plain
  | escape
  /-- After `\u`: the bytes seen of the four that belong to it, and their value so far, if
  they are hexadecimal digits. -/
  | hex (bytes : Nat) (value? : Option Nat)
  deriving DecidableEq, Repr

/-- The token that the scanner is in. -/
inductive Pending where
  /-- Between tokens. -/
  | none
  /-- In a word, with the characters that it still lacks. -/
  | word (word : Word) (lacking : List Char)
  | number (stage : NumberStage) (numeral : Numeral)
  /-- In a string, with its units in reverse. -/
  | text (stage : TextStage) (units : List TextUnit)
  /-- After a broken token. -/
  | halted
  deriving DecidableEq, Repr

/-- The state of the scanner: the finished tokens in reverse and the token it is in. -/
structure Scan where
  tokens : List Token
  pending : Pending

namespace Scan

/-- The state before a text. -/
def start : Scan := ⟨[], .none⟩

/-- Goes on after a finished token. -/
def emit (s : Scan) (t : Token) : Scan := ⟨t :: s.tokens, .none⟩

/-- Stops after a broken token. -/
def halt (s : Scan) (t : Token) : Scan := ⟨t :: s.tokens, .halted⟩

/-- Whether `c` is a space between tokens. -/
def isSpace (c : Char) : Bool := c == ' ' || c == '\n' || c == '\r' || c == '\t'

/-- Takes a character between tokens. -/
def between (s : Scan) (c : Char) : Scan :=
  if isSpace c then { s with pending := .none }
  else
    match c with
    | '{' => s.emit .openBrace
    | '}' => s.emit .closeBrace
    | '[' => s.emit .openBracket
    | ']' => s.emit .closeBracket
    | ',' => s.emit .comma
    | ':' => s.emit .colon
    | '"' => { s with pending := .text .plain [] }
    | 'n' => { s with pending := .word .null ['u', 'l', 'l'] }
    | 't' => { s with pending := .word (.bool true) ['r', 'u', 'e'] }
    | 'f' => { s with pending := .word (.bool false) ['a', 'l', 's', 'e'] }
    | '-' => { s with pending := .number .sign (.blank true) }
    | c =>
      match digit? c with
      | some d =>
        match (Numeral.blank false).pushDigit d .sign with
        | some (stage, n) => { s with pending := .number stage n }
        | none => s.halt .stray
      | none => s.halt .stray

/-- Takes a character in a word. -/
def inWord (s : Scan) (w : Word) (lacking : List Char) (c : Char) : Scan :=
  match lacking with
  | [] => s.between c
  | [last] => if c = last then s.emit (.word (.ok w)) else s.halt (.word (.error .malformed))
  | next :: rest =>
    if c = next then { s with pending := .word w rest } else s.halt (.word (.error .malformed))

/-- Takes a character in a number, or just behind it. -/
def inNumber (s : Scan) (stage : NumberStage) (n : Numeral) (c : Char) : Scan :=
  match n.push stage c with
  | some (stage, n) => { s with pending := .number stage n }
  | none =>
    if stage.isComplete && !(stage = .zero && (digit? c).isSome) then
      (s.emit (.number (.ok n))).between c
    else s.halt (.number (.error .malformed))

/-- The unit that a character stands for after a backslash. -/
def escape? (c : Char) : Option Char :=
  match c with
  | '"' => some '"'
  | '\\' => some '\\'
  | '/' => some '/'
  | 'b' => some '\x08'
  | 'f' => some '\x0c'
  | 'n' => some '\n'
  | 'r' => some '\r'
  | 't' => some '\t'
  | _ => none

/-- The unit with the given code. -/
def unitOfCode (code : Nat) : TextUnit :=
  if 0xD800 ≤ code ∧ code < 0xE000 then .surrogate code else .char (Char.ofNat code)

/-- Stops in a string. -/
def haltText (s : Scan) (units : List TextUnit) : Scan :=
  s.halt (.text ⟨units.reverse, .error .malformed⟩)

/-- Takes a character in a string. -/
def inText (s : Scan) (stage : TextStage) (units : List TextUnit) (c : Char) : Scan :=
  match stage with
  | .plain =>
    if c = '"' then s.emit (.text ⟨units.reverse, .ok ()⟩)
    else if c = '\\' then { s with pending := .text .escape units }
    else if c.toNat < 0x20 then s.haltText units
    else { s with pending := .text .plain (.char c :: units) }
  | .escape =>
    if c = 'u' then { s with pending := .text (.hex 0 (some 0)) units }
    else
      match escape? c with
      | some c => { s with pending := .text .plain (.char c :: units) }
      | none => s.haltText units
  | .hex bytes value? =>
    let value? := value?.bind fun v => (hexDigit? c).map fun d => 16 * v + d
    if bytes + c.utf8Size < 4 then
      { s with pending := .text (.hex (bytes + c.utf8Size) value?) units }
    else
      match value? with
      | some v => { s with pending := .text .plain (unitOfCode v :: units) }
      | none => s.haltText units

/-- Takes a character. -/
def step (s : Scan) (c : Char) : Scan :=
  match s.pending with
  | .none => s.between c
  | .word w lacking => s.inWord w lacking c
  | .number stage n => s.inNumber stage n c
  | .text stage units => s.inText stage units c
  | .halted => s

/-- The tokens at the end of the text, where an unfinished token is truncated. -/
def finish (s : Scan) : List Token :=
  let last :=
    match s.pending with
    | .none | .halted => s.tokens
    | .word _ _ => .word (.error .truncated) :: s.tokens
    | .number stage n =>
      .number (if stage.isComplete then .ok n else .error .truncated) :: s.tokens
    | .text _ units => .text ⟨units.reverse, .error .truncated⟩ :: s.tokens
  last.reverse

end Scan

/-- The tokens of a text. -/
def tokens (s : List Char) : List Token := (s.foldl Scan.step Scan.start).finish

end AliasBinding.Json
