import AliasBinding.Proofs.Declaration.Remains

/-!
# Parameters that can be written

A parameter can be written when its name is an identifier, nothing is wrong with its type, and its
default, if it has one, is on a parameter that takes a default and is finite.  The type may be
written once more in the default, as a cast or as the argument of `default`, but what is without a
flaw has a text each time.  A parameter list fails as its first parameter does that cannot be
written, by the first of these checks.  Parameters that can be written can also be forwarded, so
the declaration of a method never fails in the step that forwards them
(`Parameter.listed_are_forwarded`).
-/

namespace AliasBinding

/-! ### Defaults -/

/-- The constant is infinite or not a number. -/
def Constant.IsNotFinite (c : Constant) : Prop := ∃ x, c = .float x ∧ Text.isFinite x = false

theorem TypeExpr.IsFlawless.underlying {t : TypeExpr} (h : t.IsFlawless) :
  t.underlying.IsFlawless
  where
    name_ne ns name arguments isValue hs :=
      h.name_ne ns name arguments isValue (occurs_of_occurs_underlying t hs)
    parameter_ne name hs := h.parameter_ne name (occurs_of_occurs_underlying t hs)
    rank_pos element rank hs := h.rank_pos element rank (occurs_of_occurs_underlying t hs)

/-- For a flawless type, every finite constant can be written. -/
theorem Constant.exists_text {qualify : Bool} {name : String} {t : TypeExpr}
    (ht : t.IsFlawless) {c : Constant} (hc : ¬c.IsNotFinite) :
  ∃ text, c.text qualify name t = .ok text
  := by
  cases c with
  | null | bool | string | char => exact ⟨_, rfl⟩
  | integer n =>
    rw [Constant.text, integerText]
    split
    · -- The cast is to the type under the marks, which is flawless as the whole is.
      obtain ⟨cast, hcast⟩ : ∃ cast, t.underlying.text qualify = .ok cast :=
        TypeExpr.exists_text_iff_isFlawless.mpr ht.underlying
      apply exists_bind_eq_ok_iff.mpr
      use cast, hcast
      split
      · exact ⟨_, rfl⟩
      · exact ⟨_, rfl⟩
    · exact ⟨_, rfl⟩
  | float x =>
    have hfinite : Text.isFinite x = true := by
      by_contra hfinite
      exact hc ⟨x, rfl, Bool.eq_false_iff.mpr hfinite⟩
    rw [Constant.text, if_pos hfinite]
    exact ⟨_, rfl⟩
  | zero =>
    apply exists_bind_pure_eq_ok_iff.mpr
    exact TypeExpr.exists_text_iff_isFlawless.mpr ht

/-- For a flawless type, a constant that is not finite is the only one that fails. -/
theorem Constant.text_eq_error_iff {qualify : Bool} {name : String} {t : TypeExpr}
    (ht : t.IsFlawless) {c : Constant} {e : DeclarationError} :
  c.text qualify name t = .error e ↔ c.IsNotFinite ∧ e = .invalidParameter name .notFinite
  := by
  constructor
  · intro h
    by_cases hc : c.IsNotFinite
    · use hc
      obtain ⟨x, rfl, hx⟩ := hc
      rw [text, hx] at h
      cases h
      rfl
    · obtain ⟨text, htext⟩ := exists_text ht hc
      rw [htext] at h
      cases h
  · rintro ⟨⟨x, rfl, hx⟩, rfl⟩
    rw [text, hx]
    rfl

/-- Defaults are for parameters passed by value or by reference for reading. -/
theorem Passing.allowsDefault_iff {p : Passing} :
  p.allowsDefault = true ↔ p = .value ∨ p = .input
  := by
  cases p with
  | value | receiver | reference | output | input | rest => simp [allowsDefault]

namespace Parameter

/-! ### Checks of a parameter -/

/-- What is asked of a parameter that is to be written. -/
structure IsWritable (p : Parameter) : Prop where
  name : Text.isIdentifier p.name = true
  type : p.type.IsFlawless
  passing : ∀ c, p.default? = some c → p.passing = .value ∨ p.passing = .input
  value : ∀ c, p.default? = some c → ¬c.IsNotFinite

/-- The error of a parameter that cannot be written: that of the first check that fails, where
the name comes before the type, the type before the way of passing, and this before the value of
the default. -/
inductive Offends (p : Parameter) : DeclarationError → Prop where
  | name (h : Text.isIdentifier p.name = false) : Offends p (.invalidName p.name)
  | type {flaw : TypeExpr.Flaw} (hname : Text.isIdentifier p.name = true)
      (h : p.type.firstFlaw? = some flaw) : Offends p flaw.error
  | passing {c : Constant} (hname : Text.isIdentifier p.name = true) (htype : p.type.IsFlawless)
      (hdefault : p.default? = some c) (h : ¬(p.passing = .value ∨ p.passing = .input)) :
      Offends p (.invalidParameter p.name .unexpectedDefault)
  | value {c : Constant} (hname : Text.isIdentifier p.name = true) (htype : p.type.IsFlawless)
      (hdefault : p.default? = some c) (hpassing : p.passing = .value ∨ p.passing = .input)
      (h : c.IsNotFinite) : Offends p (.invalidParameter p.name .notFinite)

section Checks

variable {qualify : Bool} {p : Parameter} {e : DeclarationError}

/-- A parameter can be written when it does not offend any check. -/
theorem isWritable_iff_not_offends :
  p.IsWritable ↔ ∀ e, ¬p.Offends e
  := by
  constructor
  · intro h e he
    cases he with
    | name hname => simp [h.name] at hname
    | type _ hflaw => simp [TypeExpr.isFlawless_iff_firstFlaw?.mp h.type] at hflaw
    | passing _ _ hdefault hpassing => exact hpassing (h.passing _ hdefault)
    | value _ _ hdefault _ hvalue => exact h.value _ hdefault hvalue
  · intro h
    have hname : Text.isIdentifier p.name = true := by
      by_contra hname
      exact h _ (.name (Bool.eq_false_iff.mpr hname))
    have htype : p.type.IsFlawless := by
      rw [TypeExpr.isFlawless_iff_firstFlaw?]
      cases hflaw : p.type.firstFlaw? with
      | none => rfl
      | some flaw => exact absurd (.type hname hflaw) (h flaw.error)
    have hpassing : ∀ c, p.default? = some c → p.passing = .value ∨ p.passing = .input := by
      intro c hdefault
      by_contra hpassing
      exact h _ (.passing hname htype hdefault hpassing)
    constructor
    case name => exact hname
    case type => exact htype
    case passing => exact hpassing
    case value =>
      intro c hdefault hvalue
      exact h _ (.value hname htype hdefault (hpassing c hdefault) hvalue)

/-- A default on a parameter of a flawless type fails by the way of passing or by its value. -/
theorem defaultText_eq_error_iff (ht : p.type.IsFlawless) :
  p.defaultText qualify = .error e ↔ ∃ c, p.default? = some c
    ∧ (¬(p.passing = .value ∨ p.passing = .input)
        ∧ e = .invalidParameter p.name .unexpectedDefault
      ∨ (p.passing = .value ∨ p.passing = .input) ∧ c.IsNotFinite
        ∧ e = .invalidParameter p.name .notFinite)
  := by
  rw [defaultText, ← Passing.allowsDefault_iff]
  cases p.default? with
  | none => simp
  | some c =>
    cases hallows : p.passing.allowsDefault with
    | true =>
      have htext : (do return " = " ++ (← c.text qualify p.name p.type)) = .error e
          ↔ c.text qualify p.name p.type = .error e := by
        rw [← verdict_eq_error_iff, verdict_bind_pure, verdict_eq_error_iff]
      simpa [hallows] using htext.trans (Constant.text_eq_error_iff ht)
    | false => simp [eq_comm]

/-- A parameter that cannot be written fails by the first check that it offends. -/
theorem text_eq_error_iff :
  p.text qualify = .error e ↔ p.Offends e
  := by
  have hname : declaredName p.name = .error e
      ↔ Text.isIdentifier p.name = false ∧ e = .invalidName p.name := by
    rw [declaredName]
    cases Text.isIdentifier p.name with
    | true => simp
    | false => simp [eq_comm]
  constructor
  · intro h
    obtain h | ⟨name, hok, h⟩ := bind_eq_error_iff.mp h
    · obtain ⟨hidentifier, rfl⟩ := hname.mp h
      exact .name hidentifier
    have hidentifier := (declaredName_eq_ok_iff.mp hok).1
    obtain h | ⟨type, htype, h⟩ := bind_eq_error_iff.mp h
    · obtain ⟨flaw, hflaw, rfl⟩ := TypeExpr.text_eq_error_iff.mp h
      exact .type hidentifier hflaw
    have hflawless := TypeExpr.exists_text_iff_isFlawless.mp ⟨type, htype⟩
    obtain h | ⟨default, -, h⟩ := bind_eq_error_iff.mp h
    · obtain ⟨c, hdefault, ⟨hpassing, rfl⟩ | ⟨hpassing, hvalue, rfl⟩⟩ :=
        (defaultText_eq_error_iff hflawless).mp h
      · exact .passing hidentifier hflawless hdefault hpassing
      · exact .value hidentifier hflawless hdefault hpassing hvalue
    · cases h
  · intro h
    rw [text]
    cases h with
    | name h => rw [hname.mpr ⟨h, rfl⟩]; rfl
    | type hidentifier hflaw =>
      rw [declaredName_eq_ok_iff.mpr ⟨hidentifier, rfl⟩,
        TypeExpr.text_eq_error_iff.mpr ⟨_, hflaw, rfl⟩]
      rfl
    | passing hidentifier htype hdefault hpassing =>
      obtain ⟨type, htext⟩ := TypeExpr.exists_text_iff_isFlawless.mpr htype
      rw [declaredName_eq_ok_iff.mpr ⟨hidentifier, rfl⟩, htext,
        (defaultText_eq_error_iff htype).mpr ⟨_, hdefault, .inl ⟨hpassing, rfl⟩⟩]
      rfl
    | value hidentifier htype hdefault hpassing hvalue =>
      obtain ⟨type, htext⟩ := TypeExpr.exists_text_iff_isFlawless.mpr htype
      rw [declaredName_eq_ok_iff.mpr ⟨hidentifier, rfl⟩, htext,
        (defaultText_eq_error_iff htype).mpr ⟨_, hdefault, .inr ⟨hpassing, hvalue, rfl⟩⟩]
      rfl

theorem exists_text_iff_isWritable :
  (∃ text, p.text qualify = .ok text) ↔ p.IsWritable
  := by
  simp only [exists_eq_ok_iff, ne_eq, text_eq_error_iff, isWritable_iff_not_offends]

end Checks

/-! ### Lists -/

section Lists

variable {qualify : Bool} {ps : List Parameter}

theorem exists_listText_iff_isWritable :
  (∃ list, listText qualify ps = .ok list) ↔ ∀ p ∈ ps, p.IsWritable
  := by
  rw [listText, exists_bind_pure_eq_ok_iff, exists_mapM_eq_ok_iff]
  simp only [exists_text_iff_isWritable]

/-- A parameter list fails as the first parameter in it that cannot be written. -/
theorem listText_eq_error_iff {e : DeclarationError} :
  listText qualify ps = .error e ↔ ∃ before p after, ps = before ++ p :: after
    ∧ (∀ q ∈ before, q.IsWritable) ∧ p.Offends e
  := by
  rw [← verdict_eq_error_iff, listText, verdict_bind_pure, verdict_eq_error_iff,
    mapM_eq_error_iff]
  simp only [exists_text_iff_isWritable, text_eq_error_iff]

end Lists

end Parameter

/-! ### Steps of a declaration -/

namespace Method

/-- The steps of the declaration of a method that can fail by themselves. -/
inductive Step where
  | name
  | result
  | typeParameters
  | parameters
  | clauses
  | arguments
  | owner
  deriving DecidableEq

/-- The steps in the order in which they are taken.  The header is written when the parameters
have their texts, and the where clauses stand below it. -/
def Step.all : List Step :=
  [.name, .result, .typeParameters, .parameters, .clauses, .arguments, .owner]

/-- How a step goes. -/
def check (style : Style) (m : Method) : Step → Except DeclarationError Unit
  | .name => verdict (declaredName m.name)
  | .result => verdict (m.result.text style.qualify)
  | .typeParameters => verdict (TypeParameter.listText m.typeParameters)
  | .parameters => verdict (Parameter.listText style.qualify m.scriptParameters)
  | .clauses => verdict (m.typeParameters.mapM (TypeParameter.clause? style.qualify))
  | .arguments => verdict (m.callArguments style)
  | .owner => verdict (m.owner.text style.qualify)

/-- The step fails, and none in front of it does. -/
def FailsAt (style : Style) (m : Method) (step : Step) (e : DeclarationError) : Prop :=
  ∃ before after, Step.all = before ++ step :: after
    ∧ (∀ s ∈ before, m.check style s = .ok ()) ∧ m.check style step = .error e

section Steps

variable {style : Style} {m : Method} {e : DeclarationError}

/-- The declaration goes as its steps do, one after the other. -/
theorem outcome_draft_eq_verdict_checks :
  (m.draft style).outcome = verdict (Step.all.mapM (m.check style))
  := by
  have hchecks : verdict (Step.all.mapM (m.check style)) = do
      let _ ← m.check style .name
      let _ ← m.check style .result
      let _ ← m.check style .typeParameters
      let _ ← m.check style .parameters
      let _ ← m.check style .clauses
      let _ ← m.check style .arguments
      let _ ← m.check style .owner
      return () := by
    simp only [Step.all, List.mapM_cons, List.mapM_nil, verdict, map_bind, map_pure, bind_assoc,
      pure_bind]
  rw [hchecks, outcome_draft, bind_const_eq_verdict_bind (declaredName m.name),
    bind_const_eq_verdict_bind (m.result.text style.qualify),
    bind_const_eq_verdict_bind (TypeParameter.listText m.typeParameters),
    bind_const_eq_verdict_bind (Parameter.listText style.qualify m.scriptParameters),
    bind_const_eq_verdict_bind (m.typeParameters.mapM _),
    bind_const_eq_verdict_bind (m.callArguments style),
    bind_const_eq_verdict_bind (m.owner.text style.qualify)]
  rfl

theorem outcome_draft_eq_error_iff_failsAt :
  (m.draft style).outcome = .error e ↔ ∃ step, m.FailsAt style step e
  := by
  have hok : ∀ s, (∃ b, m.check style s = .ok b) ↔ m.check style s = .ok () := by
    intro s
    exact Unique.exists_iff
  rw [outcome_draft_eq_verdict_checks, verdict_eq_error_iff, mapM_eq_error_iff]
  simp only [hok, FailsAt]
  exact exists_comm

/-- The arguments repeat names that the parameters have been checked for, so they do not fail. -/
theorem not_failsAt_arguments :
  ¬m.FailsAt style .arguments e
  := by
  rintro ⟨before, after, hall, hbefore, harguments⟩
  have hsplit : Step.all = [.name, .result, .typeParameters, .parameters, .clauses] ++
      Step.arguments :: [.owner] := rfl
  rw [hsplit] at hall
  -- No step is taken twice, so those in front of the arguments are known.
  obtain ⟨rfl, -, -⟩ := (List.append_cons_inj_of_notMem (by decide) (by decide)).mp hall
  have hparameters : m.check style .parameters = .ok () := hbefore _ (by decide)
  obtain ⟨list, hlist⟩ := verdict_eq_ok_iff.mp hparameters
  obtain ⟨arguments, hok⟩ := exists_callArguments_of_listText hlist
  rw [check, verdict_eq_error_iff, hok] at harguments
  cases harguments

end Steps

end Method

/-- A parameter list can be written exactly when the name of each parameter is an identifier and
its type is flawless, and each default is finite and on a parameter passed by value or by reference
for reading.  Otherwise it fails as the first parameter that offends one of these checks does by the
first that it offends.  When it can be written, the parameters can be forwarded as well; so the
declaration of a method fails at one of its steps, but never at that of the arguments. -/
theorem Parameter.listed_are_forwarded (qualify : Bool) (ps : List Parameter) :
  ((∃ list, listText qualify ps = .ok list) ↔ ∀ p ∈ ps, p.IsWritable)
    ∧ (∀ e, listText qualify ps = .error e ↔ ∃ before p after, ps = before ++ p :: after
      ∧ (∀ q ∈ before, q.IsWritable) ∧ p.Offends e)
    ∧ (∀ list, listText qualify ps = .ok list →
      ∃ arguments, argumentsText ps = .ok arguments)
    ∧ ∀ (style : Style) (m : Method) (e : DeclarationError),
      ((m.draft style).outcome = .error e ↔ ∃ step, m.FailsAt style step e)
        ∧ ¬m.FailsAt style .arguments e
  := by
  refine ⟨exists_listText_iff_isWritable, fun e => listText_eq_error_iff, ?_, ?_⟩
  · intro list hlist
    exact exists_bind_pure_eq_ok_iff.mpr (exists_arguments_of_listText hlist)
  · intro style m e
    exact ⟨Method.outcome_draft_eq_error_iff_failsAt, Method.not_failsAt_arguments⟩

/-- A parameter of an enumeration, with a number as its default. -/
def modeParameter : Parameter := ⟨"mode", .value "Tools" "Mode", .input, some (.integer (-1))⟩

/-- A parameter of which both the type and the default are wrong. -/
def rowsParameter : Parameter :=
  ⟨"rows", .byRef (.array (.plain "Tools" "Row") 0), .output, some .zero⟩

/-- The list fails by the type of its second parameter, although a name further on is wrong as
well; up to there it can be written and forwarded. -/
theorem Parameter.listed_are_forwarded_rows :
  listText true [modeParameter, rowsParameter, .plain "two words" (.plain "System" "String")]
      = .error (.invalidType .noDimensions)
    ∧ listText true [modeParameter] = .ok "in Tools.Mode mode = (Tools.Mode)(-1)"
    ∧ ∃ arguments, argumentsText [modeParameter] = .ok arguments
  := by
  have hmode : listText true [modeParameter] = .ok "in Tools.Mode mode = (Tools.Mode)(-1)" := by
    rfl
  have hflaw : rowsParameter.type.firstFlaw? = some .noDimensions := rfl
  obtain ⟨hwritable, -, hforwarded, -⟩ := listed_are_forwarded true [modeParameter]
  refine ⟨?_, hmode, hforwarded _ hmode⟩
  apply ((listed_are_forwarded true _).2.1 _).mpr
  use [modeParameter], rowsParameter, [.plain "two words" (.plain "System" "String")], rfl
  constructor
  · exact hwritable.mp ⟨_, hmode⟩
  · exact .type (by decide) hflaw

end AliasBinding
