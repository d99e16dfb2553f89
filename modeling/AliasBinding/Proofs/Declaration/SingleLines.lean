import AliasBinding.Proofs.Declaration.Outcome
import AliasBinding.Proofs.Text.SingleLine
import AliasBinding.Proofs.TypeExpr

/-!
# The lines of a declaration are single lines

When no type has a name or a namespace with a line feed, and the script context has none either,
every line of a declaration is a single line, and none is empty (`Member.givesWithin_lines`).
Whatever messages and defaults hold is quoted, and all other names have to be identifiers.
-/

namespace AliasBinding

open Text

/-! ### Types -/

namespace TypeExpr

/-- The namespace and the name of a type, without those of the types in it; for a type parameter,
its name. -/
def ownNames : TypeExpr → List String
  | .named ns name _ _ => ns.toList ++ [name]
  | .parameter name => [name]
  | .array _ _ | .nullable _ | .byRef _ => []

/-- No type that occurs in the type has a name or a namespace with a line feed. -/
def OnSingleLine (t : TypeExpr) : Prop := ∀ s, Occurs s t → ∀ n ∈ s.ownNames, SingleLine n

theorem onSingleLine_named {ns : Option String} {name : String} {arguments : List TypeExpr}
    {isValue : Bool} :
  OnSingleLine (.named ns name arguments isValue)
    ↔ ((∀ n ∈ ns, SingleLine n) ∧ SingleLine name) ∧ ∀ t ∈ arguments, t.OnSingleLine
  := by
  rw [OnSingleLine, forall_occurs_named]
  simp [ownNames, OnSingleLine, or_imp, forall_and]

theorem onSingleLine_parameter {name : String} :
  OnSingleLine (.parameter name) ↔ SingleLine name
  := by
  rw [OnSingleLine, forall_occurs_parameter, ownNames, List.forall_mem_singleton]

theorem onSingleLine_array {element : TypeExpr} {rank : UInt8} :
  OnSingleLine (.array element rank) ↔ element.OnSingleLine
  := forall_occurs_array.trans (and_iff_right nofun)

theorem onSingleLine_nullable {inner : TypeExpr} :
  OnSingleLine (.nullable inner) ↔ inner.OnSingleLine
  := forall_occurs_nullable.trans (and_iff_right nofun)

theorem onSingleLine_byRef {inner : TypeExpr} :
  OnSingleLine (.byRef inner) ↔ inner.OnSingleLine
  := forall_occurs_byRef.trans (and_iff_right nofun)

/-- A keyword is on a single line. -/
theorem singleLine_of_keyword? {t : TypeExpr} {keyword : String} (h : t.keyword? = some keyword) :
  SingleLine keyword
  := by
  have hkeywords : ∀ k ∈ keywords, SingleLine k.2 := by decide
  obtain ⟨name, -, hlookup⟩ := Option.bind_eq_some_iff.mp h
  obtain ⟨before, after, hsplit, -⟩ := List.lookup_eq_some_iff.mp hlookup
  apply hkeywords (name, keyword)
  rw [hsplit]
  simp

/-- Dotting a name makes no line feeds. -/
theorem mem_of_mem_dotted {c : Char} (hc : c ≠ '.') :
  ∀ {cs : List Char} {dropping : Bool}, c ∈ dotted cs dropping → c ∈ cs
  := by
  intro cs
  induction cs with
  | nil =>
    intro _ h
    rw [dotted] at h
    apply h
  | cons d cs ih =>
    intro dropping h
    rw [dotted] at h
    split at h
    · apply List.mem_cons_of_mem
      apply ih ((List.mem_cons.mp h).resolve_left hc)
    · split at h
      · apply List.mem_cons_of_mem _ (ih h)
      · apply (List.mem_cons.mp h).elim
        · rintro rfl
          apply List.mem_cons_self
        · intro h
          apply List.mem_cons_of_mem _ (ih h)

theorem singleLine_path (qualify : Bool) {ns : Option String} {name : String}
    (hns : ∀ n ∈ ns, SingleLine n) (hname : SingleLine name) :
  SingleLine (path qualify ns name)
  := by
  have hown : SingleLine (String.ofList (dotted name.toList false)) := by
    rw [singleLine_ofList]
    intro h
    apply hname (mem_of_mem_dotted (by decide) h)
  cases ns with
  | none => apply hown
  | some ns =>
    rw [path]
    split
    · rw [singleLine_append, singleLine_append]
      exact ⟨⟨hns ns rfl, by decide⟩, hown⟩
    · apply hown

theorem singleLine_dimensions (rank : UInt8) :
  SingleLine (dimensions rank)
  := by
  rw [dimensions, singleLine_ofList]
  simp [List.mem_replicate]

theorem singleLine_commaList {texts : List String} (h : ∀ t ∈ texts, SingleLine t) :
  SingleLine (commaList texts)
  := singleLine_intercalate (by decide) h

mutual

theorem givesWithin_text (qualify : Bool) :
  ∀ t : TypeExpr, t.OnSingleLine → GivesWithin SingleLine (t.text qualify)
  | .named ns name arguments isValue, h => by
    obtain ⟨⟨hns, hname⟩, harguments⟩ := onSingleLine_named.mp h
    rw [text]
    split
    · apply givesWithin_error
    · split
      · rename_i keyword hkeyword
        apply givesWithin_ok (singleLine_of_keyword? hkeyword)
      · apply givesWithin_bind (givesWithin_texts qualify arguments harguments)
        intro texts htexts
        have hpath := singleLine_path qualify hns hname
        split
        · apply givesWithin_ok hpath
        · apply givesWithin_ok
          simp only [singleLine_append, hpath, singleLine_commaList htexts, and_true, true_and]
          decide
  | .parameter name, h => by
    rw [text]
    split
    · apply givesWithin_error
    · apply givesWithin_ok (singleLine_escaped (onSingleLine_parameter.mp h))
  | .array element rank, h => by
    rw [text]
    split
    · apply givesWithin_error
    · apply givesWithin_bind (givesWithin_text qualify element (onSingleLine_array.mp h))
      intro text htext
      apply givesWithin_ok
      rw [singleLine_append]
      exact ⟨htext, singleLine_dimensions rank⟩
  | .nullable inner, h => by
    rw [text]
    apply givesWithin_bind (givesWithin_text qualify inner (onSingleLine_nullable.mp h))
    intro text htext
    apply givesWithin_ok
    rw [singleLine_append]
    exact ⟨htext, by decide⟩
  | .byRef inner, h => by
    rw [text]
    apply givesWithin_text qualify inner (onSingleLine_byRef.mp h)

theorem givesWithin_texts (qualify : Bool) :
  ∀ ts : List TypeExpr, (∀ t ∈ ts, t.OnSingleLine) →
    GivesWithin (fun texts => ∀ s ∈ texts, SingleLine s) (texts qualify ts)
  | [], _ => givesWithin_ok nofun
  | t :: ts, h => by
    rw [List.forall_mem_cons] at h
    rw [texts]
    apply givesWithin_bind (givesWithin_text qualify t h.1)
    intro text htext
    apply givesWithin_bind (givesWithin_texts qualify ts h.2)
    intro texts htexts
    apply givesWithin_ok
    rw [List.forall_mem_cons]
    exact ⟨htext, htexts⟩

end

end TypeExpr

/-! ### Parameters -/

theorem givesWithin_declaredName (name : String) :
  GivesWithin SingleLine (declaredName name)
  := by
  unfold declaredName
  split
  · rename_i h
    apply givesWithin_ok (singleLine_escaped (singleLine_of_isIdentifier h))
  · apply givesWithin_error

namespace Constant

theorem singleLine_realText (x : Float) :
  SingleLine (realText x)
  := by
  have hpointed : SingleLine (Text.decimal x ++ ".0") :=
    singleLine_append.mpr ⟨singleLine_decimal x, by decide⟩
  apply singleLine_ite (singleLine_decimal x) hpointed

theorem givesWithin_integerText (qualify : Bool) {t : TypeExpr} (ht : t.OnSingleLine)
    (n : Int64) :
  GivesWithin SingleLine (integerText qualify t n)
  := by
  have hn := singleLine_intToString n.toInt
  unfold integerText
  split
  · apply givesWithin_bind (t.givesWithin_text qualify ht)
    intro cast hcast
    split
    · apply givesWithin_ok
      simp only [singleLine_append, hcast, hn, and_true]
      decide
    · apply givesWithin_ok
      simp only [singleLine_append, hcast, hn, and_true]
      decide
  · apply givesWithin_ok hn

theorem singleLine_realSuffix (t : TypeExpr) :
  SingleLine t.realSuffix
  := by
  unfold TypeExpr.realSuffix
  split
  · decide
  · decide
  · decide

/-- Whatever a constant holds, its text is on a single line. -/
theorem givesWithin_text (qualify : Bool) (name : String) {t : TypeExpr} (ht : t.OnSingleLine)
    (c : Constant) :
  GivesWithin SingleLine (c.text qualify name t)
  := by
  cases c with
  | null => apply givesWithin_ok (by decide)
  | bool b =>
    apply givesWithin_ok
    cases b with
    | true => decide
    | false => decide
  | integer n => apply givesWithin_integerText qualify (TypeExpr.forall_occurs_underlying ht)
  | float x =>
    rw [text]
    split
    · apply givesWithin_ok
      rw [singleLine_append]
      exact ⟨singleLine_realText x, singleLine_realSuffix t.underlying⟩
    · apply givesWithin_error
  | string s => apply givesWithin_ok (singleLine_stringLiteral s)
  | char c => apply givesWithin_ok (singleLine_charLiteral c)
  | zero =>
    apply givesWithin_bind (t.givesWithin_text qualify ht)
    intro text htext
    apply givesWithin_ok
    rw [singleLine_append, singleLine_append]
    exact ⟨⟨by decide, htext⟩, by decide⟩

end Constant

namespace Parameter

theorem givesWithin_defaultText (qualify : Bool) {p : Parameter} (hp : p.type.OnSingleLine) :
  GivesWithin SingleLine (p.defaultText qualify)
  := by
  unfold defaultText
  split
  · apply givesWithin_ok (by decide)
  · rename_i c _
    split
    · apply givesWithin_bind (c.givesWithin_text qualify p.name hp)
      intro text htext
      apply givesWithin_ok
      rw [singleLine_append]
      exact ⟨by decide, htext⟩
    · apply givesWithin_error

theorem givesWithin_listText (qualify : Bool) {ps : List Parameter}
    (hps : ∀ p ∈ ps, p.type.OnSingleLine) :
  GivesWithin SingleLine (listText qualify ps)
  := by
  have hkeyword : ∀ passing : Passing, SingleLine (leading passing.keyword?) := by
    intro passing
    cases passing with
    | value | receiver | reference | output | input | rest => decide
  apply givesWithin_bind (P := fun texts => ∀ t ∈ texts, SingleLine t)
  · apply givesWithin_mapM
    intro p hp
    apply givesWithin_bind (givesWithin_declaredName p.name)
    intro name hname
    apply givesWithin_bind (p.type.givesWithin_text qualify (hps p hp))
    intro type htype
    apply givesWithin_bind (givesWithin_defaultText qualify (hps p hp))
    intro default hdefault
    apply givesWithin_ok
    simp only [singleLine_append, hkeyword, htype, hname, hdefault, and_true, true_and]
    decide
  · intro texts htexts
    apply givesWithin_ok (TypeExpr.singleLine_commaList htexts)

theorem givesWithin_arguments (ps : List Parameter) :
  GivesWithin (fun arguments => ∀ s ∈ arguments, SingleLine s) (ps.mapM argument)
  := by
  apply givesWithin_mapM
  intro p _
  apply givesWithin_bind (givesWithin_declaredName p.name)
  intro name hname
  apply givesWithin_ok
  rw [singleLine_append]
  refine ⟨?_, hname⟩
  cases p.passing with
  | value | receiver | reference | output | input | rest => decide

end Parameter

/-! ### Type parameters and attributes -/

namespace TypeParameter

/-- The names of type parameters that are listed are on single lines, for they are declared. -/
theorem givesWithin_listText (ps : List TypeParameter) :
  GivesWithin (fun text => SingleLine text ∧ ∀ p ∈ ps, SingleLine p.name) (listText ps)
  := by
  constructor
  intro text htext
  obtain ⟨names, hnames, h⟩ := bind_eq_ok_iff.mp htext
  constructor
  · have hsingle : ∀ name ∈ names, SingleLine name :=
      (givesWithin_mapM fun p _ => givesWithin_declaredName p.name).of_eq_ok names hnames
    split at h
    · cases h
      decide
    · cases h
      simp only [singleLine_append, TypeExpr.singleLine_commaList hsingle, and_true]
      decide
  · intro p hp
    apply singleLine_of_isIdentifier
    apply exists_declaredName_eq_ok_iff.mp
    apply exists_mapM_eq_ok_iff.mp ⟨names, hnames⟩ p hp

/-- The types that the constraints of a type parameter name. -/
def types (p : TypeParameter) : List TypeExpr := p.constraints.filterMap Constraint.supertype?

theorem givesWithin_clause? (qualify : Bool) {p : TypeParameter} (hname : SingleLine p.name)
    (htypes : ∀ t ∈ p.types, t.OnSingleLine) :
  GivesWithin (fun clause => ∀ s ∈ clause, s ≠ "" ∧ SingleLine s) (p.clause? qualify)
  := by
  have hitems : GivesWithin (fun items => ∀ s ∈ items, SingleLine s)
      (Constraint.items qualify p.constraints) := by
    apply givesWithin_bind (P := fun texts => ∀ s ∈ texts, SingleLine s)
    · apply givesWithin_mapM
      intro t ht
      apply t.givesWithin_text qualify (htypes t ht)
    · intro supertypes hsupertypes
      apply givesWithin_ok
      have hkeywords : ∀ s ∈ p.constraints.filterMap Constraint.kindKeyword?, SingleLine s := by
        intro s hs
        obtain ⟨c, -, hc⟩ := List.mem_filterMap.mp hs
        cases c with
        | reference | value =>
          cases hc
          decide
        | constructible | subtype => cases hc
      simp only [List.forall_mem_append]
      refine ⟨⟨hkeywords, hsupertypes⟩, ?_⟩
      split
      · decide
      · nofun
  unfold clause?
  split
  · apply givesWithin_ok nofun
  · apply givesWithin_bind hitems
    intro items hitems
    apply givesWithin_ok
    rintro _ ⟨⟩
    constructor
    · simp
    · simp only [singleLine_append, singleLine_escaped hname,
        TypeExpr.singleLine_commaList hitems, and_true]
      decide

end TypeParameter

theorem Obsolete.singleLine_attributeText (o : Obsolete) :
  SingleLine o.attributeText
  := by
  have harguments : ∀ s ∈ o.arguments, SingleLine s := by
    unfold arguments
    split
    · nofun
    · simp [singleLine_stringLiteral]
    · simp only [List.forall_mem_cons, singleLine_stringLiteral, true_and]
      decide
    · decide
  unfold attributeText
  split
  · decide
  · rw [singleLine_append, singleLine_append]
    exact ⟨⟨by decide, singleLine_intercalate (by decide) harguments⟩, by decide⟩

/-! ### Lines -/

/-- A line that is neither empty nor broken. -/
structure Line.IsSolid (l : Line) : Prop where
  text_ne_empty : l.text ≠ ""
  singleLine_text : SingleLine l.text

theorem Line.isSolid_iff {level : Nat} {s : String} :
  IsSolid ⟨level, s⟩ ↔ s ≠ "" ∧ SingleLine s
  := ⟨fun h => ⟨h.1, h.2⟩, fun h => ⟨h.1, h.2⟩⟩

theorem Obsolete.isSolid_of_mem_lines {o : Option Obsolete} {l : Line} (h : l ∈ lines o) :
  l.IsSolid
  := by
  obtain ⟨o, -, rfl⟩ := List.mem_map.mp h
  constructor
  · unfold attributeText
    split
    · decide
    · simp
  · apply o.singleLine_attributeText

/-- The types that a member mentions. -/
def Member.types : Member → List TypeExpr
  | .method m =>
    m.owner :: m.result :: m.parameters.map (·.type) ++ m.typeParameters.flatMap (·.types)
  | .property p => [p.owner, p.type]

/-- Solid lines, of which the last one is a closing brace. -/
structure Line.EndSolidly (ls : List Line) : Prop where
  isSolid : ∀ l ∈ ls, l.IsSolid
  closed : ∃ before, ls = before ++ [⟨0, Draft.closingBrace⟩]

theorem Method.givesWithin_callArguments {style : Style} (hcontext : SingleLine style.context)
    (m : Method) :
  GivesWithin (fun arguments => ∀ s ∈ arguments, SingleLine s) (m.callArguments style)
  := by
  apply givesWithin_bind (Parameter.givesWithin_arguments m.scriptParameters)
  intro forwarded hforwarded
  apply givesWithin_ok
  split
  · rw [List.forall_mem_cons]
    exact ⟨hcontext, hforwarded⟩
  · apply hforwarded

theorem Method.mem_of_mem_scriptParameters {m : Method} {p : Parameter}
    (h : p ∈ m.scriptParameters) :
  p ∈ m.parameters
  := by
  unfold scriptParameters at h
  split at h
  · apply List.mem_of_mem_tail h
  · apply h

theorem Method.givesWithin_lines {style : Style} (hcontext : SingleLine style.context)
    {m : Method} (htypes : ∀ t ∈ (Member.method m).types, t.OnSingleLine) :
  GivesWithin Line.EndSolidly (m.lines style)
  := by
  simp only [Member.types, List.cons_append, List.forall_mem_cons, List.forall_mem_append,
    List.forall_mem_map] at htypes
  obtain ⟨howner, hresult, hparameters, hconstraints⟩ := htypes
  apply givesWithin_bind (givesWithin_declaredName m.name)
  intro name hname
  apply givesWithin_bind (m.result.givesWithin_text style.qualify hresult)
  intro result hresult
  apply givesWithin_bind (TypeParameter.givesWithin_listText m.typeParameters)
  rintro typeParameters ⟨htypeParameters, hnames⟩
  apply givesWithin_bind (Parameter.givesWithin_listText style.qualify
    fun p hp => hparameters p (mem_of_mem_scriptParameters hp))
  intro parameters hparameters
  apply givesWithin_bind (givesWithin_mapM fun p hp =>
    p.givesWithin_clause? style.qualify (hnames p hp) fun t ht =>
      hconstraints t (List.mem_flatMap.mpr ⟨p, hp, ht⟩))
  intro clauses hclauses
  apply givesWithin_bind (m.givesWithin_callArguments hcontext)
  intro arguments harguments
  apply givesWithin_bind (m.owner.givesWithin_text style.qualify howner)
  intro owner howner
  apply givesWithin_ok
  refine ⟨?_, _, rfl⟩
  have hclauseLines : ∀ l ∈ TypeParameter.clauseLines clauses, l.IsSolid := by
    intro l hl
    obtain ⟨clause, hclause, hl⟩ := List.mem_filterMap.mp hl
    obtain ⟨s, rfl, rfl⟩ := Option.map_eq_some_iff.mp hl
    obtain ⟨hne, hsingle⟩ := hclauses _ hclause s rfl
    exact ⟨hne, hsingle⟩
  have hreturn : SingleLine (if m.result.isVoid then "" else "return ") :=
    singleLine_ite (by decide) (by decide)
  have hforwarded := TypeExpr.singleLine_commaList harguments
  have hobsolete : ∀ l ∈ Obsolete.lines m.obsolete?, l.IsSolid :=
    fun l hl => Obsolete.isSolid_of_mem_lines hl
  simp only [List.forall_mem_append]
  refine ⟨⟨⟨⟨hobsolete, ?header⟩, hclauseLines⟩, ?call⟩, ?closed⟩
  case header =>
    simp +decide [Line.isSolid_iff, hname, hresult, htypeParameters, hparameters]
  case call =>
    simp +decide [Line.isSolid_iff, hname, hreturn, howner, htypeParameters, hforwarded]
  case closed => simp +decide [Line.isSolid_iff]

theorem Property.givesWithin_checkedName (p : Property) :
  GivesWithin (fun name => SingleLine name ∧ SingleLine p.fieldName) p.checkedName
  := by
  apply givesWithin_bind (P := fun name => SingleLine name ∧ SingleLine p.fieldName)
  · constructor
    intro name h
    have hname : SingleLine p.name :=
      singleLine_of_isIdentifier (exists_declaredName_eq_ok_iff.mp ⟨name, h⟩)
    rw [fieldName, singleLine_append]
    exact ⟨(givesWithin_declaredName p.name).of_eq_ok name h, by decide, hname⟩
  · intro name hname
    cases p.type.isVoid with
    | true => apply givesWithin_error
    | false =>
      cases p.type.firstParameter? with
      | none => exact givesWithin_ok hname
      | some parameter => apply givesWithin_error

theorem Property.givesWithin_lines {style : Style} (hcontext : SingleLine style.context)
    {p : Property} (htypes : ∀ t ∈ (Member.property p).types, t.OnSingleLine) :
  GivesWithin Line.EndSolidly (p.lines style)
  := by
  simp only [Member.types, List.forall_mem_cons] at htypes
  obtain ⟨howner, htype, -⟩ := htypes
  apply givesWithin_bind p.givesWithin_checkedName
  rintro name ⟨hname, hfield⟩
  apply givesWithin_bind (p.type.givesWithin_text style.qualify htype)
  intro type htype
  apply givesWithin_bind (p.owner.givesWithin_text style.qualify howner)
  intro owner howner
  apply givesWithin_ok
  refine ⟨?_, _, rfl⟩
  have hfieldType : SingleLine (if p.needsNullableField then "?" else "") :=
    singleLine_ite (by decide) (by decide)
  have hfieldValue : SingleLine (if p.needsNullableField then ".Value" else "") :=
    singleLine_ite (by decide) (by decide)
  have hobsolete : ∀ l ∈ Obsolete.lines p.obsolete?, l.IsSolid :=
    fun l hl => Obsolete.isSolid_of_mem_lines hl
  simp only [List.forall_mem_append]
  refine ⟨⟨⟨⟨⟨?field, hobsolete⟩, ?header⟩, ?reading⟩, ?closing⟩, ?closed⟩
  case field =>
    split
    · simp +decide [Line.isSolid_iff, htype, hfieldType, hfield]
    · nofun
  case header => simp +decide [Line.isSolid_iff, htype, hname]
  case reading =>
    split
    · simp +decide [Line.isSolid_iff, howner, hname, hcontext, hfield, hfieldValue]
    · simp +decide [Line.isSolid_iff, howner, hname, hcontext]
  case closing => simp +decide [Line.isSolid_iff]
  case closed => simp +decide [Line.isSolid_iff]

/-- All lines of a declaration are solid, and the last one is a closing brace. -/
theorem Member.givesWithin_lines {style : Style} (hcontext : SingleLine style.context)
    {m : Member} (htypes : ∀ t ∈ m.types, t.OnSingleLine) :
  GivesWithin Line.EndSolidly (m.lines style)
  := by
  cases m with
  | method m => apply m.givesWithin_lines hcontext htypes
  | property p => apply p.givesWithin_lines hcontext htypes

end AliasBinding
