import AliasBinding.Declaration.Method
import AliasBinding.Declaration.Property

/-!
# Declarations

The declaration of an alias, by the kind of its member.
-/

namespace AliasBinding

/-- The declaration of a member. -/
def Member.draft (style : Style) : Member → Draft Unit
  | .method m => m.draft style
  | .property p => p.draft style

/-- The text of the declaration of an alias. -/
def Alias.declaration (style : Style) (a : Alias) : Except DeclarationError String :=
  let d := a.member.draft style
  d.outcome.map fun _ => d.rendered style

end AliasBinding
