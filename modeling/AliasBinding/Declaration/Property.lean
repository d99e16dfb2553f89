import AliasBinding.Declaration.Attribute
import AliasBinding.Declaration.ParameterList

/-!
# Property declarations

The declaration of a property alias reads the property for the script context.  A cached one
keeps the value in a backing field, which holds null until the first reading; the field of a
value type is made nullable for that.
-/

namespace AliasBinding.Property

/-- Whether the backing field has to be made nullable. -/
def needsNullableField (p : Property) : Bool :=
  match p.type with
  | .nullable _ => false
  | type => type.isValueType

/-- The name of the backing field. -/
def fieldName (p : Property) : String := "_" ++ p.name

/-- The name of a property that can be declared: it is an identifier, and the type is neither
void nor mentions a type parameter. -/
def checkedName (p : Property) : Except DeclarationError String := do
  let name ← declaredName p.name
  if p.type.isVoid then .error (.invalidType (.voidProperty p.name))
  match p.type.firstParameter? with
  | some parameter => .error (.invalidType (.genericProperty p.name parameter))
  | none => return name

/-- The declaration of a property.  Its last line is not ended. -/
def draft (style : Style) (p : Property) : Draft Unit := do
  let name ← p.checkedName
  let type ← p.type.text style.qualify
  let owner ← p.owner.text style.qualify
  let call := owner ++ "." ++ name ++ "(" ++ style.context ++ ")"
  let wrapped := p.needsNullableField
  if p.cached then
    Draft.line 0 ("private " ++ type ++ (if wrapped then "?" else "") ++ " " ++ p.fieldName
      ++ ";")
  Obsolete.attributeLine p.obsolete?
  Draft.line 0 ("public " ++ type ++ " " ++ name)
  Draft.openBlock 0
  Draft.line 1 "get"
  Draft.openBlock 1
  if p.cached then
    Draft.line 2 ("if (" ++ p.fieldName ++ " == null)")
    Draft.openBlock 2
    Draft.line 3 (p.fieldName ++ " = " ++ call ++ ";")
    Draft.closeBlock 2
    Draft.line 2 ("return " ++ p.fieldName ++ (if wrapped then ".Value" else "") ++ ";")
  else
    Draft.line 2 ("return " ++ call ++ ";")
  Draft.closeBlock 1
  Draft.text Draft.closingBrace

end AliasBinding.Property
