import AliasBinding.Declaration.Attribute
import AliasBinding.Declaration.WhereClause

/-!
# Method declarations

The declaration of a method alias has the parameters that scripts give arguments for, and
forwards them to the method.  The script context stands in for the receiver.
-/

namespace AliasBinding.Method

/-- The arguments of the forwarded call. -/
def callArguments (style : Style) (m : Method) : Except DeclarationError (List String) := do
  let forwarded ← m.scriptParameters.mapM Parameter.argument
  return if m.hasReceiver then style.context :: forwarded else forwarded

/-- The where clauses, each on a line of its own. -/
def draftClauses (style : Style) : List TypeParameter → Draft Unit
  | [] => pure ()
  | p :: rest => do
    match ← p.clause? style.qualify with
    | some clause => Draft.write [.lineEnd, .margin 1, .text clause]
    | none => pure ()
    draftClauses style rest

/-- The declaration of a method.  Its last line is not ended. -/
def draft (style : Style) (m : Method) : Draft Unit := do
  let name ← declaredName m.name
  let result ← m.result.text style.qualify
  let typeParameters ← TypeParameter.listText m.typeParameters
  Obsolete.attributeLine m.obsolete?
  let parameters ← Parameter.listText style.qualify m.scriptParameters
  Draft.text ("public " ++ result ++ " " ++ name ++ typeParameters ++ "(" ++ parameters ++ ")")
  draftClauses style m.typeParameters
  Draft.write [.lineEnd]
  Draft.openBlock 0
  let arguments ← m.callArguments style
  let owner ← m.owner.text style.qualify
  Draft.line 1 ((if m.result.isVoid then "" else "return ") ++ owner ++ "." ++ name ++
    typeParameters ++ "(" ++ commaList arguments ++ ");")
  Draft.text Draft.closingBrace

end AliasBinding.Method
