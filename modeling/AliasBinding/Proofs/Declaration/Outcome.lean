import AliasBinding.Proofs.Declaration.Layout
import AliasBinding.Proofs.TypeText.Flaws

/-!
# Outcomes of declarations

The outcome of a declaration is that of its checks and texts, in the order in which they are
made for its lines (`Method.outcome_draft`, `Property.outcome_draft`).  None of them is a
refusal, which only a sink can give.
-/

namespace AliasBinding

/-! ### The outcome of a declaration -/

/-- The outcome of a draft is its result without the text. -/
theorem Draft.outcome_eq {α : Type} (d : Draft α) (style : Style) :
  d.outcome = Prod.fst <$> d.result style
  := by
  rw [result]
  cases d.outcome with
  | ok a => rfl
  | error e => rfl

/-- The outcome of the declaration of a method. -/
theorem Method.outcome_draft (style : Style) (m : Method) :
  (m.draft style).outcome = do
    let _ ← declaredName m.name
    let _ ← m.result.text style.qualify
    let _ ← TypeParameter.listText m.typeParameters
    let _ ← Parameter.listText style.qualify m.scriptParameters
    let _ ← m.typeParameters.mapM (TypeParameter.clause? style.qualify)
    let _ ← m.callArguments style
    let _ ← m.owner.text style.qualify
    return ()
  := by
  simp only [Draft.outcome_eq _ style, result_draft, lines, map_bind, map_pure, bind_assoc,
    pure_bind]

/-- The outcome of the declaration of a property. -/
theorem Property.outcome_draft (style : Style) (p : Property) :
  (p.draft style).outcome = do
    let _ ← p.checkedName
    let _ ← p.type.text style.qualify
    let _ ← p.owner.text style.qualify
    return ()
  := by
  simp only [Draft.outcome_eq _ style, result_draft, lines, map_bind, map_pure, bind_assoc,
    pure_bind]

/-- The names that can be declared are the identifiers. -/
theorem declaredName_eq_ok_iff {name spelling : String} :
  declaredName name = .ok spelling
    ↔ Text.isIdentifier name = true ∧ Text.escaped name = spelling
  := by
  rw [declaredName]
  split
  case isTrue h => simp [h]
  case isFalse h => simp [h]

theorem exists_declaredName_eq_ok_iff {name : String} :
  (∃ text, declaredName name = .ok text) ↔ Text.isIdentifier name = true
  := by
  simp [declaredName_eq_ok_iff]

/-- A property can be declared when its name can, and when its type neither is void nor mentions
a type parameter. -/
theorem Property.checkedName_eq_ok_iff {p : Property} {spelling : String} :
  p.checkedName = .ok spelling
    ↔ declaredName p.name = .ok spelling
      ∧ p.type.isVoid = false ∧ p.type.firstParameter? = none
  := by
  rw [checkedName, bind_eq_ok_iff]
  constructor
  · rintro ⟨name, hname, h⟩
    cases hvoid : p.type.isVoid with
    | true =>
      rw [hvoid] at h
      cases h
    | false =>
      cases hparameter : p.type.firstParameter? with
      | some parameter =>
        rw [hvoid, hparameter] at h
        cases h
      | none =>
        rw [hvoid, hparameter] at h
        cases h
        use hname
  · rintro ⟨hname, hvoid, hparameter⟩
    use spelling, hname
    rw [hvoid, hparameter]
    rfl

/-! ### Parameters and arguments -/

namespace Parameter

variable {qualify : Bool}

theorem exists_argument_eq_ok {p : Parameter} (hname : Text.isIdentifier p.name = true) :
  ∃ text, p.argument = .ok text
  := by
  apply exists_bind_pure_eq_ok_iff.mpr
  apply exists_declaredName_eq_ok_iff.mpr hname

/-- A parameter that can be written can be forwarded. -/
theorem exists_argument_of_text {p : Parameter} {text : String}
    (h : p.text qualify = .ok text) :
  ∃ argument, p.argument = .ok argument
  := by
  obtain ⟨name, hname, -⟩ := bind_eq_ok_iff.mp h
  apply exists_argument_eq_ok (declaredName_eq_ok_iff.mp hname).1

/-- Parameters that can be written can be forwarded. -/
theorem exists_arguments_of_listText {ps : List Parameter} {list : String}
    (h : listText qualify ps = .ok list) :
  ∃ arguments, ps.mapM argument = .ok arguments
  := by
  have htexts : ∃ texts, ps.mapM (text qualify) = .ok texts :=
    exists_bind_pure_eq_ok_iff.mp ⟨list, h⟩
  apply exists_mapM_eq_ok_iff.mpr
  intro p hp
  obtain ⟨text, htext⟩ := exists_mapM_eq_ok_iff.mp htexts p hp
  apply exists_argument_of_text htext

end Parameter

/-- Type parameters can be listed when their names are identifiers. -/
theorem TypeParameter.exists_listText_iff {ps : List TypeParameter} :
  (∃ text, listText ps = .ok text) ↔ ∀ p ∈ ps, Text.isIdentifier p.name = true
  := by
  have hverdict : verdict (listText ps) = verdict (ps.mapM fun p => declaredName p.name) := by
    apply verdict_bind_of_ok
    intro names
    cases names with
    | nil => exact ⟨_, rfl⟩
    | cons => exact ⟨_, rfl⟩
  rw [← verdict_eq_ok_iff, hverdict, verdict_eq_ok_iff, exists_mapM_eq_ok_iff]
  simp only [exists_declaredName_eq_ok_iff]

/-! ### No refusal -/

/-- The computation is never refused: its errors are of the declaration itself. -/
abbrev NeverRefused {α : Type} (x : Except DeclarationError α) : Prop :=
  FailsWithin (· ≠ .refused) x

theorem neverRefused_declaredName (name : String) :
  NeverRefused (declaredName name)
  := by
  unfold declaredName
  split
  · apply failsWithin_ok
  · apply failsWithin_error
    nofun

theorem TypeExpr.neverRefused_text (qualify : Bool) (t : TypeExpr) :
  NeverRefused (t.text qualify)
  := by
  intro e he
  obtain ⟨flaw, -, rfl⟩ := text_eq_error_iff.mp he
  cases flaw with
  | emptyName | emptyParameterName | noDimensions => nofun

theorem Constant.neverRefused_text (qualify : Bool) (name : String) (t : TypeExpr)
    (c : Constant) :
  NeverRefused (c.text qualify name t)
  := by
  cases c with
  | null => apply failsWithin_ok
  | bool b => apply failsWithin_ok
  | integer n =>
    rw [Constant.text, integerText]
    split
    · apply failsWithin_bind (t.underlying.neverRefused_text qualify)
      intro cast
      split
      · apply failsWithin_ok
      · apply failsWithin_ok
    · apply failsWithin_ok
  | float x =>
    rw [Constant.text]
    split
    · apply failsWithin_ok
    · apply failsWithin_error
      nofun
  | string s => apply failsWithin_ok
  | char c => apply failsWithin_ok
  | zero =>
    apply failsWithin_bind (t.neverRefused_text qualify)
    intro text
    apply failsWithin_ok

namespace Parameter

theorem neverRefused_defaultText (qualify : Bool) (p : Parameter) :
  NeverRefused (p.defaultText qualify)
  := by
  unfold defaultText
  split
  · apply failsWithin_ok
  · rename_i c _
    split
    · apply failsWithin_bind (c.neverRefused_text qualify p.name p.type)
      intro text
      apply failsWithin_ok
    · apply failsWithin_error
      nofun

theorem neverRefused_listText (qualify : Bool) (ps : List Parameter) :
  NeverRefused (listText qualify ps)
  := by
  apply failsWithin_bind
  · apply failsWithin_mapM
    intro p _
    apply failsWithin_bind (neverRefused_declaredName p.name)
    intro name
    apply failsWithin_bind (p.type.neverRefused_text qualify)
    intro type
    apply failsWithin_bind (p.neverRefused_defaultText qualify)
    intro default
    apply failsWithin_ok
  · intro texts
    apply failsWithin_ok

end Parameter

namespace TypeParameter

theorem neverRefused_listText (ps : List TypeParameter) :
  NeverRefused (listText ps)
  := by
  apply failsWithin_bind
  · apply failsWithin_mapM
    intro p _
    apply neverRefused_declaredName
  · intro names
    split
    · apply failsWithin_ok
    · apply failsWithin_ok

theorem neverRefused_clause? (qualify : Bool) (p : TypeParameter) :
  NeverRefused (p.clause? qualify)
  := by
  unfold clause?
  split
  · apply failsWithin_ok
  · apply failsWithin_bind
    · apply failsWithin_bind
      · apply failsWithin_mapM
        intro t _
        apply t.neverRefused_text
      · intro supertypes
        apply failsWithin_ok
    · intro items
      apply failsWithin_ok

end TypeParameter

theorem Method.neverRefused_callArguments (style : Style) (m : Method) :
  NeverRefused (m.callArguments style)
  := by
  apply failsWithin_bind
  · apply failsWithin_mapM
    intro p _
    apply failsWithin_bind (neverRefused_declaredName p.name)
    intro name
    apply failsWithin_ok
  · intro forwarded
    apply failsWithin_ok

theorem Property.neverRefused_checkedName (p : Property) :
  NeverRefused p.checkedName
  := by
  apply failsWithin_bind (neverRefused_declaredName p.name)
  intro name
  dsimp only
  cases p.type.isVoid with
  | true =>
    apply failsWithin_error
    nofun
  | false =>
    cases p.type.firstParameter? with
    | none => apply failsWithin_ok
    | some parameter =>
      apply failsWithin_error
      nofun

/-- The declaration of a member fails only with an error of its own. -/
theorem Member.neverRefused_draft (style : Style) (m : Member) :
  NeverRefused (m.draft style).outcome
  := by
  cases m with
  | method m =>
    rw [Member.draft, Method.outcome_draft]
    apply failsWithin_bind (neverRefused_declaredName m.name)
    intro _
    apply failsWithin_bind (m.result.neverRefused_text style.qualify)
    intro _
    apply failsWithin_bind (TypeParameter.neverRefused_listText m.typeParameters)
    intro _
    apply failsWithin_bind (Parameter.neverRefused_listText style.qualify m.scriptParameters)
    intro _
    apply failsWithin_bind
    · apply failsWithin_mapM
      intro p _
      apply p.neverRefused_clause?
    · intro _
      apply failsWithin_bind (m.neverRefused_callArguments style)
      intro _
      apply failsWithin_bind (m.owner.neverRefused_text style.qualify)
      intro _
      apply failsWithin_ok
  | property p =>
    rw [Member.draft, Property.outcome_draft]
    apply failsWithin_bind p.neverRefused_checkedName
    intro _
    apply failsWithin_bind (p.type.neverRefused_text style.qualify)
    intro _
    apply failsWithin_bind (p.owner.neverRefused_text style.qualify)
    intro _
    apply failsWithin_ok

end AliasBinding
