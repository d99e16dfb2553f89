import AliasBinding.Proofs.Declaration.Parts
import AliasBinding.Proofs.Generation.Source

/-!
# What the parts of a declaration are

An alias has a declaration exactly when its member has parts, and then it is the lines of these
(`Alias.declares_iff`).  The parts, if there are any, are spelled from what the member holds:
each name as the check of names spells it, each type as its text, and the arguments of a call
after the parameters of the header (`Method.hasParts_of_parts`, `Property.parts_eq_ok_iff`).
-/

namespace AliasBinding

open Text

/-! ### Declarations -/

theorem Alias.declares_iff {style : Style} {a : Alias} {text : String} :
  a.Declares style text ↔ ∃ d, a.member.parts style = .ok d ∧ Line.join style d.lines = text
  := by
  rw [← declaration_eq_ok_iff, declaration_eq_parts, map_eq_ok_iff]

theorem Method.declares_iff {style : Style} {namespaces : NameSet} {m : Method}
    {text : String} :
  (⟨namespaces, .method m⟩ : Alias).Declares style text
    ↔ ∃ d, m.parts style = .ok d ∧ Line.join style d.lines = text
  := by
  rw [Alias.declares_iff]
  constructor
  · rintro ⟨_, hparts, rfl⟩
    obtain ⟨d, hd, rfl⟩ := map_eq_ok_iff.mp hparts
    use d, hd
    rfl
  · rintro ⟨d, hd, rfl⟩
    use .method d, map_eq_ok_iff.mpr ⟨d, hd, rfl⟩
    rfl

theorem Property.declares_iff {style : Style} {namespaces : NameSet} {p : Property}
    {text : String} :
  (⟨namespaces, .property p⟩ : Alias).Declares style text
    ↔ ∃ d, p.parts style = .ok d ∧ Line.join style d.lines = text
  := by
  rw [Alias.declares_iff]
  constructor
  · rintro ⟨_, hparts, rfl⟩
    obtain ⟨d, hd, rfl⟩ := map_eq_ok_iff.mp hparts
    use d, hd
    rfl
  · rintro ⟨d, hd, rfl⟩
    use .property d, map_eq_ok_iff.mpr ⟨d, hd, rfl⟩
    rfl

/-! ### Parameters and arguments -/

theorem mapM_declaredName_eq_ok {α : Type} {name : α → String} {xs : List α}
    {spellings : List String} (h : xs.mapM (fun x => declaredName (name x)) = .ok spellings) :
  spellings = xs.map fun x => escaped (name x)
  := by
  have hspellings : GivesWithin (fun ys => ys.map id = xs.map fun x => escaped (name x))
      (xs.mapM fun x => declaredName (name x)) := by
    apply givesWithin_mapM_map_eq
    intro x _
    constructor
    intro spelling hspelling
    apply (declaredName_eq_ok_iff.mp hspelling).2.symm
  rw [← hspellings.of_eq_ok spellings h, List.map_id]

/-- The keywords that a call has to repeat. -/
def callKeywords : List String := ["ref", "out", "in"]

/-- A call repeats the keywords of those parameters that are passed by reference. -/
theorem Passing.callKeyword?_eq (p : Passing) :
  p.callKeyword? = p.keyword?.filter callKeywords.contains
  := by
  cases p with
  | value | receiver | reference | output | input | rest => rfl

/-- The argument that forwards a parameter of a header: the same name, under the keyword of the
parameter if a call has to repeat it. -/
def ParameterParts.argument (p : ParameterParts) : ArgumentParts where
  keyword? := p.keyword?.filter callKeywords.contains
  name := p.name

namespace Parameter

/-- What the parts of a parameter are. -/
theorem parts_eq_ok {qualify : Bool} {p : Parameter} {d : ParameterParts}
    (h : p.parts qualify = .ok d) :
  isIdentifier p.name = true ∧ d.name = escaped p.name ∧ d.keyword? = p.passing.keyword?
  := by
  obtain ⟨name, hname, h⟩ := bind_eq_ok_iff.mp h
  obtain ⟨type, -, h⟩ := bind_eq_ok_iff.mp h
  obtain ⟨default, -, h⟩ := bind_eq_ok_iff.mp h
  cases h
  obtain ⟨hidentifier, rfl⟩ := declaredName_eq_ok_iff.mp hname
  exact ⟨hidentifier, rfl, rfl⟩

/-- A parameter that has a place in a header is forwarded as it stands there. -/
theorem argumentParts_eq_ok {qualify : Bool} {p : Parameter} {d : ParameterParts}
    (h : p.parts qualify = .ok d) :
  p.argumentParts = .ok d.argument
  := by
  obtain ⟨hidentifier, hname, hkeyword⟩ := parts_eq_ok h
  rw [argumentParts, declaredName_eq_ok_iff.mpr ⟨hidentifier, rfl⟩, Passing.callKeyword?_eq,
    ← hname, ← hkeyword]
  rfl

end Parameter

/-! ### Methods -/

namespace Method

/-- What the parts of a method are, one by one. -/
structure HasParts (style : Style) (m : Method) (d : MethodParts) : Prop where
  obsolete?_eq : d.obsolete? = m.obsolete?
  isVoid_eq : d.isVoid = m.result.isVoid
  result_text : m.result.text style.qualify = .ok d.result
  name_eq : d.name = escaped m.name
  typeParameters_eq : d.typeParameters = m.typeParameters.map fun p => escaped p.name
  parameters_parts : m.scriptParameters.mapM (Parameter.parts style.qualify) = .ok d.parameters
  owner_text : m.owner.text style.qualify = .ok d.owner
  arguments_eq : d.arguments = (if m.hasReceiver then [⟨none, style.context⟩] else [])
    ++ d.parameters.map ParameterParts.argument

theorem hasParts_of_parts {style : Style} {m : Method} {d : MethodParts}
    (h : m.parts style = .ok d) :
  m.HasParts style d
  := by
  obtain ⟨name, hname, h⟩ := bind_eq_ok_iff.mp h
  obtain ⟨result, hresult, h⟩ := bind_eq_ok_iff.mp h
  obtain ⟨typeParameters, htypeParameters, h⟩ := bind_eq_ok_iff.mp h
  obtain ⟨parameters, hparameters, h⟩ := bind_eq_ok_iff.mp h
  obtain ⟨clauses, -, h⟩ := bind_eq_ok_iff.mp h
  obtain ⟨forwarded, hforwarded, h⟩ := bind_eq_ok_iff.mp h
  obtain ⟨owner, howner, h⟩ := bind_eq_ok_iff.mp h
  cases h
  -- header and call walk the same parameters
  have harguments : m.scriptParameters.mapM Parameter.argumentParts
      = .ok (parameters.map ParameterParts.argument) := by
    rw [mapM_eq_ok_iff, List.forall₂_map_right_iff]
    apply (mapM_eq_ok_iff.mp hparameters).imp
    intro p d hd
    apply Parameter.argumentParts_eq_ok hd
  rw [harguments] at hforwarded
  cases hforwarded
  constructor
  case obsolete?_eq => rfl
  case isVoid_eq => rfl
  case result_text => apply hresult
  case name_eq => apply (declaredName_eq_ok_iff.mp hname).2.symm
  case typeParameters_eq => apply mapM_declaredName_eq_ok htypeParameters
  case parameters_parts => apply hparameters
  case owner_text => apply howner
  case arguments_eq =>
    split
    · rfl
    · rfl

end Method

/-! ### Properties -/

namespace Property

/-- The parts of a property that can be declared. -/
theorem parts_eq_ok_iff {style : Style} {p : Property} {d : PropertyParts} :
  p.parts style = .ok d
    ↔ ∃ type owner, isIdentifier p.name = true
      ∧ p.type.isVoid = false ∧ p.type.firstParameter? = none
      ∧ p.type.text style.qualify = .ok type ∧ p.owner.text style.qualify = .ok owner
      ∧ d = ⟨p.obsolete?, p.needsNullableField, type, escaped p.name, p.field?, owner,
        ⟨none, style.context⟩⟩
  := by
  constructor
  · intro h
    obtain ⟨name, hname, h⟩ := bind_eq_ok_iff.mp h
    obtain ⟨type, htype, h⟩ := bind_eq_ok_iff.mp h
    obtain ⟨owner, howner, h⟩ := bind_eq_ok_iff.mp h
    cases h
    obtain ⟨hname, hvoid, hparameter⟩ := checkedName_eq_ok_iff.mp hname
    obtain ⟨hidentifier, rfl⟩ := declaredName_eq_ok_iff.mp hname
    exact ⟨type, owner, hidentifier, hvoid, hparameter, htype, howner, rfl⟩
  · rintro ⟨type, owner, hidentifier, hvoid, hparameter, htype, howner, rfl⟩
    have hname := checkedName_eq_ok_iff.mpr
      ⟨declaredName_eq_ok_iff.mpr ⟨hidentifier, rfl⟩, hvoid, hparameter⟩
    rw [parts, hname, htype, howner]
    rfl

end Property

end AliasBinding
