import AliasBinding.Text.Alphabetic
import AliasBinding.Text.Numeric

/-!
# Identifiers

An identifier starts with an alphabetic character or `_` and continues with alphabetic or
numeric characters or `_`.  A reserved word is an identifier too; where one stands as a name
in a declaration it is written with a leading `@`.
-/

namespace AliasBinding.Text

/-- Whether an identifier may start with `c`. -/
def startsIdentifier (c : Char) : Bool := c == '_' || isAlphabetic c

/-- Whether an identifier may go on with `c`. -/
def continuesIdentifier (c : Char) : Bool := c == '_' || isAlphabetic c || isNumeric c

/-- Whether the characters spell an identifier. -/
def spellsIdentifier : List Char → Bool
  | [] => false
  | c :: rest => startsIdentifier c && rest.all continuesIdentifier

/-- Whether `s` is an identifier. -/
def isIdentifier (s : String) : Bool := spellsIdentifier s.toList

/-- The words that C# reserves. -/
def reservedWords : List String := [
  "abstract", "as", "base", "bool", "break", "byte", "case", "catch", "char", "checked",
  "class", "const", "continue", "decimal", "default", "delegate", "do", "double", "else",
  "enum", "event", "explicit", "extern", "false", "finally", "fixed", "float", "for",
  "foreach", "goto", "if", "implicit", "in", "int", "interface", "internal", "is", "lock",
  "long", "namespace", "new", "null", "object", "operator", "out", "override", "params",
  "private", "protected", "public", "readonly", "ref", "return", "sbyte", "sealed", "short",
  "sizeof", "stackalloc", "static", "string", "struct", "switch", "this", "throw", "true",
  "try", "typeof", "uint", "ulong", "unchecked", "unsafe", "ushort", "using", "virtual",
  "void", "volatile", "while"]

/-- Whether `s` is a reserved word. -/
def isReserved (s : String) : Bool := reservedWords.contains s

/-- The spelling of the name `s` in a declaration: a reserved word gets a leading `@`. -/
def escaped (s : String) : String := if isReserved s then "@" ++ s else s

theorem isIdentifier_ne_empty {s : String} (h : isIdentifier s = true) :
  s ≠ ""
  := by
  rintro rfl
  simp [isIdentifier, spellsIdentifier] at h

theorem continuesIdentifier_of_startsIdentifier {c : Char} (h : startsIdentifier c = true) :
  continuesIdentifier c = true
  := by
  rw [startsIdentifier] at h
  rw [continuesIdentifier, h, Bool.true_or]

/-- An identifier has none of the characters with which it cannot go on. -/
theorem notMem_of_isIdentifier {s : String} {c : Char} (hc : continuesIdentifier c = false)
    (h : isIdentifier s = true) :
  c ∉ s.toList
  := by
  rw [isIdentifier] at h
  cases hs : s.toList with
  | nil => apply List.not_mem_nil
  | cons d rest =>
    rw [hs, spellsIdentifier, Bool.and_eq_true, List.all_eq_true] at h
    intro hmem
    have hcontinues : continuesIdentifier c = true := by
      obtain rfl | hrest := List.mem_cons.mp hmem
      · apply continuesIdentifier_of_startsIdentifier h.1
      · apply h.2 c hrest
    rw [hc] at hcontinues
    cases hcontinues

theorem head?_ne_of_isIdentifier {s : String} {c : Char} (hc : startsIdentifier c = false)
    (h : isIdentifier s = true) :
  s.toList.head? ≠ some c
  := by
  intro hhead
  rw [isIdentifier] at h
  cases hlist : s.toList with
  | nil =>
    rw [hlist] at hhead
    cases hhead
  | cons d rest =>
    rw [hlist] at hhead h
    cases hhead
    rw [spellsIdentifier, hc] at h
    cases h

end AliasBinding.Text
