import AliasBinding.Proofs.Declaration.Layout

/-!
# The parts of a declaration

A declaration is written from its parts: the names that it introduces, texts of types, and the
arguments of the call in its body.  `Member.parts` gives them as they are spelled, with the
checks in the order in which they are made, and the lines of a declaration are those of its
parts (`Member.lines_eq`).  A reserved word is spelled with a mark in front as a name, which
`Text.identifier` takes off, so the names of the parts are those of the member
(`Member.names_of_parts`).
-/

namespace AliasBinding

/-! ### Spellings -/

namespace Text

/-- The identifier that a spelling stands for. -/
def identifier (spelling : String) : String :=
  match spelling.toList with
  | '@' :: rest => String.ofList rest
  | _ => spelling

theorem identifier_eq_self {s : String} (h : s.toList.head? ≠ some '@') :
  identifier s = s
  := by
  rw [identifier]
  split
  case h_1 rest hlist =>
    rw [hlist] at h
    exact absurd rfl h
  case h_2 => rfl

theorem identifier_of_isIdentifier {s : String} (h : isIdentifier s = true) :
  identifier s = s
  := identifier_eq_self (head?_ne_of_isIdentifier (by decide) h)

/-- A name is the identifier that its spelling in a declaration stands for. -/
theorem identifier_escaped {s : String} (h : isIdentifier s = true) :
  identifier (escaped s) = s
  := by
  rw [escaped]
  split
  · have hlist : ("@" ++ s).toList = '@' :: s.toList := by simp
    simp only [identifier, hlist, String.ofList_toList]
  · apply identifier_of_isIdentifier h

end Text

theorem givesWithin_declaredName_identifier {name : String} :
  GivesWithin (fun spelling => Text.identifier spelling = name) (declaredName name)
  := by
  rw [declaredName]
  split
  case isTrue h => exact givesWithin_ok (Text.identifier_escaped h)
  case isFalse => apply givesWithin_error

/-! ### Parameters and arguments -/

/-- A parameter in a parameter list. -/
structure ParameterParts where
  keyword? : Option String
  type : String
  name : String
  default : String

/-- The text of the parameter. -/
def ParameterParts.text (p : ParameterParts) : String :=
  leading p.keyword? ++ p.type ++ " " ++ p.name ++ p.default

/-- A name in an argument list. -/
structure ArgumentParts where
  keyword? : Option String
  name : String
  deriving DecidableEq

/-- The text of the argument. -/
def ArgumentParts.text (a : ArgumentParts) : String := leading a.keyword? ++ a.name

namespace Parameter

/-- The parts of a parameter. -/
def parts (qualify : Bool) (p : Parameter) : Except DeclarationError ParameterParts := do
  let name ← declaredName p.name
  let type ← p.type.text qualify
  let default ← p.defaultText qualify
  return ⟨p.passing.keyword?, type, name, default⟩

/-- The parts of the argument that forwards a parameter. -/
def argumentParts (p : Parameter) : Except DeclarationError ArgumentParts :=
  return ⟨p.passing.callKeyword?, ← declaredName p.name⟩

theorem text_eq (qualify : Bool) (p : Parameter) :
  p.text qualify = ParameterParts.text <$> p.parts qualify
  := by
  simp only [text, parts, map_bind, map_pure, ParameterParts.text]

theorem argument_eq (p : Parameter) :
  p.argument = ArgumentParts.text <$> p.argumentParts
  := by
  simp only [argument, argumentParts, map_bind, map_pure, ArgumentParts.text]

end Parameter

/-! ### Methods -/

/-- The declaration of a method. -/
structure MethodParts where
  obsolete? : Option Obsolete
  isVoid : Bool
  result : String
  name : String
  typeParameters : List String
  parameters : List ParameterParts
  clauses : List (Option String)
  owner : String
  arguments : List ArgumentParts

/-- The names of type parameters in brackets, or nothing when there are none. -/
def TypeParameter.bracketed (names : List String) : String :=
  if names.isEmpty then "" else "<" ++ commaList names ++ ">"

theorem TypeParameter.listText_eq (ps : List TypeParameter) :
  listText ps = bracketed <$> ps.mapM fun p => declaredName p.name
  := by
  rw [map_eq_pure_bind, listText]
  congr 1
  funext names
  rw [bracketed]
  split <;> rfl

namespace MethodParts

/-- The list of type parameters, which is the list of type arguments as well. -/
def typeList (d : MethodParts) : String := TypeParameter.bracketed d.typeParameters

/-- The lines of the declaration. -/
def lines (d : MethodParts) : List Line :=
  let header := "public " ++ d.result ++ " " ++ d.name ++ d.typeList ++ "(" ++
    commaList (d.parameters.map ParameterParts.text) ++ ")"
  let call := (if d.isVoid then "" else "return ") ++ d.owner ++ "." ++ d.name ++ d.typeList ++
    "(" ++ commaList (d.arguments.map ArgumentParts.text) ++ ");"
  Obsolete.lines d.obsolete? ++ [⟨0, header⟩] ++ TypeParameter.clauseLines d.clauses ++
    [⟨0, "\x7b"⟩, ⟨1, call⟩] ++ [⟨0, Draft.closingBrace⟩]

end MethodParts

namespace Method

/-- The parts of the declaration of a method. -/
def parts (style : Style) (m : Method) : Except DeclarationError MethodParts := do
  let name ← declaredName m.name
  let result ← m.result.text style.qualify
  let typeParameters ← m.typeParameters.mapM fun p => declaredName p.name
  let parameters ← m.scriptParameters.mapM (Parameter.parts style.qualify)
  let clauses ← m.typeParameters.mapM (TypeParameter.clause? style.qualify)
  let forwarded ← m.scriptParameters.mapM Parameter.argumentParts
  let owner ← m.owner.text style.qualify
  return {
    obsolete? := m.obsolete?
    isVoid := m.result.isVoid
    result := result
    name := name
    typeParameters := typeParameters
    parameters := parameters
    clauses := clauses
    owner := owner
    arguments := if m.hasReceiver then ⟨none, style.context⟩ :: forwarded else forwarded }

theorem lines_eq (style : Style) (m : Method) :
  m.lines style = MethodParts.lines <$> m.parts style
  := by
  have hparameters : (Parameter.text style.qualify)
      = fun p => ParameterParts.text <$> p.parts style.qualify := by
    funext p
    apply p.text_eq
  have harguments : Parameter.argument = fun p => ArgumentParts.text <$> p.argumentParts := by
    funext p
    apply p.argument_eq
  simp only [lines, parts, TypeParameter.listText_eq, Parameter.listText, callArguments,
    hparameters, harguments, mapM_map_eq, bind_assoc, bind_map_left, map_bind, map_pure,
    pure_bind]
  refine bind_congr fun name => bind_congr fun result => bind_congr fun typeParameters =>
    bind_congr fun parameters => bind_congr fun clauses => bind_congr fun forwarded =>
    bind_congr fun owner => ?_
  rw [MethodParts.lines]
  cases m.hasReceiver with
  | true => rfl
  | false => rfl

end Method

/-! ### Properties -/

/-- The backing field of a property, if it has one. -/
def Property.field? (p : Property) : Option String := if p.cached then some p.fieldName else none

/-- The declaration of a property. -/
structure PropertyParts where
  obsolete? : Option Obsolete
  /-- Whether the type is made nullable for the field. -/
  isWrapped : Bool
  type : String
  name : String
  field? : Option String
  owner : String
  argument : ArgumentParts

namespace PropertyParts

/-- The lines in the getter. -/
def reading (d : PropertyParts) : List Line :=
  let call := d.owner ++ "." ++ d.name ++ "(" ++ d.argument.text ++ ")"
  match d.field? with
  | some field => [⟨2, "if (" ++ field ++ " == null)"⟩, ⟨2, "\x7b"⟩,
      ⟨3, field ++ " = " ++ call ++ ";"⟩, ⟨2, Draft.closingBrace⟩,
      ⟨2, "return " ++ field ++ (if d.isWrapped then ".Value" else "") ++ ";"⟩]
  | none => [⟨2, "return " ++ call ++ ";"⟩]

/-- The line of the backing field. -/
def fieldLine (d : PropertyParts) (field : String) : Line :=
  ⟨0, "private " ++ d.type ++ (if d.isWrapped then "?" else "") ++ " " ++ field ++ ";"⟩

/-- The lines of the declaration. -/
def lines (d : PropertyParts) : List Line :=
  d.field?.toList.map d.fieldLine ++ Obsolete.lines d.obsolete? ++
    [⟨0, "public " ++ d.type ++ " " ++ d.name⟩, ⟨0, "\x7b"⟩, ⟨1, "get"⟩, ⟨1, "\x7b"⟩] ++
    d.reading ++ [⟨1, Draft.closingBrace⟩] ++ [⟨0, Draft.closingBrace⟩]

end PropertyParts

namespace Property

/-- The parts of the declaration of a property. -/
def parts (style : Style) (p : Property) : Except DeclarationError PropertyParts := do
  let name ← p.checkedName
  let type ← p.type.text style.qualify
  let owner ← p.owner.text style.qualify
  return {
    obsolete? := p.obsolete?
    isWrapped := p.needsNullableField
    type := type
    name := name
    field? := p.field?
    owner := owner
    argument := ⟨none, style.context⟩ }

theorem lines_eq (style : Style) (p : Property) :
  p.lines style = PropertyParts.lines <$> p.parts style
  := by
  simp only [lines, parts, map_bind, map_pure]
  refine bind_congr fun name => bind_congr fun type => bind_congr fun owner => ?_
  have hargument : (⟨none, style.context⟩ : ArgumentParts).text = style.context := by
    simp [ArgumentParts.text, leading]
  simp only [PropertyParts.lines, PropertyParts.reading, field?, hargument]
  cases p.cached with
  | true => rfl
  | false => rfl

end Property

/-! ### Members -/

/-- A declaration. -/
inductive Parts where
  | method (parts : MethodParts)
  | property (parts : PropertyParts)

namespace Parts

/-- The lines of the declaration. -/
def lines : Parts → List Line
  | .method d => d.lines
  | .property d => d.lines

/-- The arguments of the call in its body. -/
def arguments : Parts → List ArgumentParts
  | .method d => d.arguments
  | .property d => [d.argument]

end Parts

/-- The parts of the declaration of a member. -/
def Member.parts (style : Style) : Member → Except DeclarationError Parts
  | .method m => Parts.method <$> m.parts style
  | .property p => Parts.property <$> p.parts style

theorem Member.lines_eq (style : Style) (m : Member) :
  m.lines style = Parts.lines <$> m.parts style
  := by
  cases m with
  | method m =>
    rw [lines, m.lines_eq, parts, Functor.map_map]
    rfl
  | property p =>
    rw [lines, p.lines_eq, parts, Functor.map_map]
    rfl

/-- The declaration of an alias is the lines of its parts, joined. -/
theorem Alias.declaration_eq_parts (style : Style) (a : Alias) :
  a.declaration style = (fun d => Line.join style d.lines) <$> a.member.parts style
  := by
  rw [declaration_eq, a.member.lines_eq]
  cases a.member.parts style with
  | ok d => rfl
  | error e => rfl

/-! ### Names -/

/-- The names that a declaration introduces, from the inside out. -/
structure Names where
  parameters : List String
  typeParameters : List String
  /-- Those that it adds to the members of the script. -/
  members : List String

/-- The names that the declaration of a member introduces. -/
def Member.names : Member → Names
  | .method m => ⟨m.scriptParameters.map (·.name), m.typeParameters.map (·.name), [m.name]⟩
  | .property p => ⟨[], [], p.field?.toList ++ [p.name]⟩

/-- The names that a declaration introduces, taken from where they are spelled. -/
def Parts.names : Parts → Names
  | .method d => ⟨d.parameters.map fun p => Text.identifier p.name,
      d.typeParameters.map Text.identifier, [Text.identifier d.name]⟩
  | .property d => ⟨[], [], (d.field?.toList ++ [d.name]).map Text.identifier⟩

/-- The name of a backing field is spelled as it is. -/
theorem Property.map_identifier_field? (p : Property) :
  p.field?.toList.map Text.identifier = p.field?.toList
  := by
  have hname : Text.identifier p.fieldName = p.fieldName := by
    apply Text.identifier_eq_self
    simp [fieldName]
  rw [field?]
  cases p.cached with
  | true => simp [hname]
  | false => rfl

theorem Property.givesWithin_checkedName_identifier (p : Property) :
  GivesWithin (fun spelling => Text.identifier spelling = p.name) p.checkedName
  := by
  apply givesWithin_bind givesWithin_declaredName_identifier
  intro name hname
  dsimp only
  cases p.type.isVoid with
  | true => apply givesWithin_error
  | false =>
    cases p.type.firstParameter? with
    | none => exact givesWithin_ok hname
    | some parameter => apply givesWithin_error

theorem Parameter.givesWithin_parts_identifier (qualify : Bool) (p : Parameter) :
  GivesWithin (fun d => Text.identifier (ParameterParts.name d) = p.name) (p.parts qualify)
  := by
  apply givesWithin_bind givesWithin_declaredName_identifier
  intro name hname
  apply givesWithin_bind_last
  intro type
  apply givesWithin_bind_last
  intro default
  exact givesWithin_ok hname

theorem Method.names_of_parts (style : Style) (m : Method) :
  GivesWithin (fun d => (Parts.method d).names = (Member.method m).names) (m.parts style)
  := by
  apply givesWithin_bind givesWithin_declaredName_identifier
  intro name hname
  apply givesWithin_bind_last
  intro result
  apply givesWithin_bind
    (givesWithin_mapM_map_eq fun _ _ => givesWithin_declaredName_identifier)
  intro typeParameters htypeParameters
  apply givesWithin_bind
    (givesWithin_mapM_map_eq fun p _ => p.givesWithin_parts_identifier style.qualify)
  intro parameters hparameters
  apply givesWithin_bind_last
  intro clauses
  apply givesWithin_bind_last
  intro forwarded
  apply givesWithin_bind_last
  intro owner
  apply givesWithin_ok
  simp only [Parts.names, Member.names, hname, htypeParameters, hparameters]

theorem Property.names_of_parts (style : Style) (p : Property) :
  GivesWithin (fun d => (Parts.property d).names = (Member.property p).names) (p.parts style)
  := by
  apply givesWithin_bind p.givesWithin_checkedName_identifier
  intro name hname
  apply givesWithin_bind_last
  intro type
  apply givesWithin_bind_last
  intro owner
  apply givesWithin_ok
  simp only [Parts.names, Member.names, List.map_append, List.map_cons, List.map_nil,
    p.map_identifier_field?, hname]

/-- A declaration introduces the names of its member. -/
theorem Member.names_of_parts (style : Style) (m : Member) :
  GivesWithin (fun d => d.names = m.names) (m.parts style)
  := by
  cases m with
  | method m => exact givesWithin_map (m.names_of_parts style) fun _ h => h
  | property p => exact givesWithin_map (p.names_of_parts style) fun _ h => h

end AliasBinding
