/-!
# Declaration style

How declarations are laid out: whether type names carry their namespaces, how many spaces one
level of indentation takes, and the name under which a script knows its context.
-/

namespace AliasBinding

/-- The style of declarations. -/
structure Style where
  /-- Whether type names carry their namespaces. -/
  qualify : Bool := true
  /-- The number of spaces of one level of indentation. -/
  indent : Nat := 4
  /-- The name of the script context. -/
  context : String := "Context"
  /-- One level takes at most sixteen spaces. -/
  indent_le : indent ≤ 16 := by decide

namespace Style

instance : Inhabited Style := ⟨{}⟩

/-- The widest indentation of one level. -/
def maxIndent : Nat := 16

/-- The style with or without namespaces. -/
def withQualify (s : Style) (qualify : Bool) : Style := { s with qualify := qualify }

/-- The style with `n` spaces for one level, or the most there may be. -/
def withIndent (s : Style) (n : Nat) : Style :=
  { s with indent := min n maxIndent, indent_le := Nat.min_le_right n maxIndent }

/-- The style with another name for the script context. -/
def withContext (s : Style) (context : String) : Style := { s with context := context }

/-- The spaces in front of a line at the given level. -/
def margin (s : Style) (level : Nat) : String :=
  String.ofList (List.replicate (level * s.indent) ' ')

end Style

end AliasBinding
