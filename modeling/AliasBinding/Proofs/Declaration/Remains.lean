import AliasBinding.Proofs.Declaration.Delivery

/-!
# What a failing declaration leaves

The name of a method, its result and the names of its type parameters are checked before anything
is written.  The attribute then comes before the check of the parameters, and the header before the
checks of the supertypes and of the owner.  So what is left of a declaration that fails is nothing,
the attribute, or the declaration up to the check that fails (`Method.Leaves`).  A failure leaves
every sink as it was exactly when it is one of the first checks, or that of the parameters of a
method without an attribute (`Method.leavesUntouched_iff_failsAtOnce`).
-/

namespace AliasBinding

/-! ### Steps -/

namespace Draft

/-- A draft with a result is delivered with the text of the result. -/
theorem deliver_unbounded_of_result {α : Type} {style : Style} {d : Draft α} {a : α}
    {s : String} (h : d.result style = .ok (a, s)) (held : String) :
  Sink.unbounded.deliver held style d = (held ++ s, .ok a)
  := by
  rw [result] at h
  rw [Sink.deliver_unbounded]
  cases houtcome : d.outcome with
  | error e =>
    rw [houtcome] at h
    cases h
  | ok b =>
    rw [houtcome] at h
    cases h
    rfl

section Steps

variable (style : Style)

theorem deliver_text (s held : String) :
  Sink.unbounded.deliver held style (text s) = (held ++ s, .ok ())
  := deliver_unbounded_of_result (result_text style s) held

theorem deliver_lineEnd (held : String) :
  Sink.unbounded.deliver held style (write [.lineEnd]) = (held ++ "\n", .ok ())
  := deliver_unbounded_of_result (result_write style [.lineEnd]) held

theorem deliver_openBlock (held : String) :
  Sink.unbounded.deliver held style (openBlock 0) = (held ++ "\x7b\n", .ok ())
  := by
  have hline : Line.ended style ⟨0, "\x7b"⟩ = "\x7b\n" := by
    rw [Line.ended, Line.render_zero]
    rfl
  rw [← hline]
  exact deliver_unbounded_of_result (result_openBlock style 0) held

end Steps

end Draft

namespace Method

section Steps

variable (style : Style)

/-- The text of the attribute line. -/
def attributeText (m : Method) : String :=
  String.join ((Obsolete.lines m.obsolete?).map (Line.ended style))

/-- The text of where clauses below a header. -/
def clausesText (clauses : List (Option String)) : String :=
  String.join ((TypeParameter.clauseLines clauses).map fun l => "\n" ++ l.render style)

theorem deliver_attributeLine (m : Method) (held : String) :
  Sink.unbounded.deliver held style (Obsolete.attributeLine m.obsolete?)
    = (held ++ m.attributeText style, .ok ())
  := Draft.deliver_unbounded_of_result (Obsolete.result_attributeLine style m.obsolete?) held

theorem deliver_draftClauses {ps : List TypeParameter} {clauses : List (Option String)}
    (h : ps.mapM (TypeParameter.clause? style.qualify) = .ok clauses) (held : String) :
  Sink.unbounded.deliver held style (draftClauses style ps)
    = (held ++ clausesText style clauses, .ok ())
  := by
  apply Draft.deliver_unbounded_of_result
  rw [result_draftClauses, h]
  rfl

theorem clausesText_cons (clause : Option String) (clauses : List (Option String)) :
  clausesText style (clause :: clauses) = clausesText style [clause] ++ clausesText style clauses
  := by
  cases clause with
  | none => simp [clausesText, TypeParameter.clauseLines]
  | some clause => simp [clausesText, TypeParameter.clauseLines]

/-- Where clauses are written up to the first one that fails. -/
theorem deliver_draftClauses_of_error {ps : List TypeParameter} {e : DeclarationError}
    (h : ps.mapM (TypeParameter.clause? style.qualify) = .error e) :
  ∃ first p rest clauses, ps = first ++ p :: rest
    ∧ first.mapM (TypeParameter.clause? style.qualify) = .ok clauses
    ∧ p.clause? style.qualify = .error e
    ∧ ∀ held, Sink.unbounded.deliver held style (draftClauses style ps)
      = (held ++ clausesText style clauses, .error e)
  := by
  induction ps with
  | nil => cases h
  | cons p ps ih =>
    rw [List.mapM_cons] at h
    obtain hp | ⟨clause, hp, h⟩ := bind_eq_error_iff.mp h
    · refine ⟨[], p, ps, [], rfl, rfl, hp, ?_⟩
      intro held
      rw [draftClauses, hp, Sink.deliver_bind_of_error (Sink.deliver_lift _ _ _ _)]
      simp [clausesText, TypeParameter.clauseLines]
    · have hps : ps.mapM (TypeParameter.clause? style.qualify) = .error e := by
        obtain hps | ⟨_, _, h⟩ := bind_eq_error_iff.mp h
        · exact hps
        · cases h
      obtain ⟨first, q, rest, clauses, rfl, hfirst, hq, hdeliver⟩ := ih hps
      refine ⟨p :: first, q, rest, clause :: clauses, rfl, ?_, hq, ?_⟩
      · rw [List.mapM_cons, hp, hfirst]
        rfl
      · intro held
        rw [draftClauses, hp, Sink.deliver_bind_of_ok (Sink.deliver_lift _ _ _ _),
          clausesText_cons, ← String.append_assoc]
        cases clause with
        | none =>
          dsimp only
          rw [hdeliver]
          simp [clausesText, TypeParameter.clauseLines]
        | some clause =>
          dsimp only
          rw [Sink.deliver_bind_of_ok
            (Draft.deliver_unbounded_of_result (Draft.result_write style _) held), hdeliver]
          simp [clausesText, TypeParameter.clauseLines, Line.render, Piece.render]

end Steps

/-- What a method has in front of its parameters. -/
structure Opening where
  name : String
  result : String
  typeList : String

/-- The header of a declaration. -/
def Opening.header (o : Opening) (parameters : String) : String :=
  "public " ++ o.result ++ " " ++ o.name ++ o.typeList ++ "(" ++ parameters ++ ")"

/-- The checks that are made before anything is written. -/
def opening (style : Style) (m : Method) : Except DeclarationError Opening := do
  let name ← declaredName m.name
  let result ← m.result.text style.qualify
  let typeList ← TypeParameter.listText m.typeParameters
  return ⟨name, result, typeList⟩

/-- What is left of the declaration of a method when it fails, by the check that fails. -/
inductive Leaves (style : Style) (m : Method) (e : DeclarationError) : String → Prop where
  /-- Nothing is written before the first checks. -/
  | opening (h : m.opening style = .error e) : Leaves style m e ""
  /-- The attribute is written before the parameters are checked. -/
  | parameters {o : Opening} (ho : m.opening style = .ok o)
      (h : Parameter.listText style.qualify m.scriptParameters = .error e) :
      Leaves style m e (m.attributeText style)
  /-- The header, and the where clauses of the type parameters in front, are written before a
  where clause is checked. -/
  | clause {o : Opening} {parameters : String} {first rest : List TypeParameter}
      {p : TypeParameter} {clauses : List (Option String)} (ho : m.opening style = .ok o)
      (hparameters : Parameter.listText style.qualify m.scriptParameters = .ok parameters)
      (hsplit : m.typeParameters = first ++ p :: rest)
      (hclauses : first.mapM (TypeParameter.clause? style.qualify) = .ok clauses)
      (h : p.clause? style.qualify = .error e) :
      Leaves style m e (m.attributeText style ++ o.header parameters ++ clausesText style clauses)
  /-- The brace below the header is written before the owner is checked. -/
  | owner {o : Opening} {parameters : String} {clauses : List (Option String)}
      (ho : m.opening style = .ok o)
      (hparameters : Parameter.listText style.qualify m.scriptParameters = .ok parameters)
      (hclauses : m.typeParameters.mapM (TypeParameter.clause? style.qualify) = .ok clauses)
      (h : m.owner.text style.qualify = .error e) :
      Leaves style m e (m.attributeText style ++ o.header parameters ++
        clausesText style clauses ++ "\n\x7b\n")

section Failure

variable {style : Style} {m : Method} {e : DeclarationError}

theorem opening_eq_ok_iff {o : Opening} :
  m.opening style = .ok o ↔ declaredName m.name = .ok o.name
    ∧ m.result.text style.qualify = .ok o.result
    ∧ TypeParameter.listText m.typeParameters = .ok o.typeList
  := by
  constructor
  · intro h
    obtain ⟨name, hname, h⟩ := bind_eq_ok_iff.mp h
    obtain ⟨result, hresult, h⟩ := bind_eq_ok_iff.mp h
    obtain ⟨typeList, htypeList, h⟩ := bind_eq_ok_iff.mp h
    cases h
    exact ⟨hname, hresult, htypeList⟩
  · rintro ⟨hname, hresult, htypeList⟩
    rw [opening, hname, hresult, htypeList]
    rfl

/-- A declaration that fails with the first checks writes nothing. -/
theorem draft_of_opening_error (h : m.opening style = .error e) :
  m.draft style = ⟨[], .error e⟩
  := by
  rw [draft]
  obtain hname | ⟨name, hname, h⟩ := bind_eq_error_iff.mp h
  · rw [hname]
    rfl
  obtain hresult | ⟨result, hresult, h⟩ := bind_eq_error_iff.mp h
  · rw [hname, hresult]
    rfl
  obtain htypeList | ⟨typeList, -, h⟩ := bind_eq_error_iff.mp h
  · rw [hname, hresult, htypeList]
    rfl
  · cases h

theorem outcome_draft_of_opening {o : Opening} (h : m.opening style = .ok o) :
  (m.draft style).outcome = do
    let _ ← Parameter.listText style.qualify m.scriptParameters
    let _ ← m.typeParameters.mapM (TypeParameter.clause? style.qualify)
    let _ ← m.callArguments style
    let _ ← m.owner.text style.qualify
    return ()
  := by
  obtain ⟨hname, hresult, htypeList⟩ := opening_eq_ok_iff.mp h
  rw [outcome_draft, hname, hresult, htypeList]
  rfl

/-- The parameters are forwarded when they are written, so that is no further check. -/
theorem exists_callArguments_of_listText {list : String}
    (h : Parameter.listText style.qualify m.scriptParameters = .ok list) :
  ∃ arguments, m.callArguments style = .ok arguments
  := exists_bind_pure_eq_ok_iff.mpr (Parameter.exists_arguments_of_listText h)

/-- A declaration that fails leaves what was written before the check that fails. -/
theorem deliver_draft_of_error (h : (m.draft style).outcome = .error e) :
  ∃ left, m.Leaves style e left
    ∧ ∀ held, Sink.unbounded.deliver held style (m.draft style) = (held ++ left, .error e)
  := by
  cases hopening : m.opening style with
  | error e' =>
    have hdraft := draft_of_opening_error hopening
    rw [hdraft] at h ⊢
    cases h
    use "", .opening hopening
    intro held
    apply Sink.deliver_unbounded
  | ok o =>
    obtain ⟨hname, hresult, htypeList⟩ := opening_eq_ok_iff.mp hopening
    rw [outcome_draft_of_opening hopening] at h
    obtain hparameters | ⟨parameters, hparameters, h⟩ := bind_eq_error_iff.mp h
    · use m.attributeText style, .parameters hopening hparameters
      intro held
      simp only [draft, hname, hresult, htypeList, hparameters, Sink.deliver_bind,
        Sink.deliver_lift, deliver_attributeLine]
    obtain hclauses | ⟨clauses, hclauses, h⟩ := bind_eq_error_iff.mp h
    · obtain ⟨first, p, rest, clauses, hsplit, hfirst, hp, hdeliver⟩ :=
        deliver_draftClauses_of_error style hclauses
      refine ⟨_, .clause hopening hparameters hsplit hfirst hp, ?_⟩
      intro held
      simp only [draft, hname, hresult, htypeList, hparameters, Sink.deliver_bind,
        Sink.deliver_lift, deliver_attributeLine, Draft.deliver_text, hdeliver, Opening.header,
        String.append_assoc]
    obtain harguments | ⟨arguments, harguments, h⟩ := bind_eq_error_iff.mp h
    · obtain ⟨arguments, hok⟩ := exists_callArguments_of_listText hparameters
      rw [hok] at harguments
      cases harguments
    obtain howner | ⟨owner, -, h⟩ := bind_eq_error_iff.mp h
    · refine ⟨_, .owner hopening hparameters hclauses howner, ?_⟩
      intro held
      have hbrace : "\n" ++ "\x7b\n" = "\n\x7b\n" := by decide
      simp only [draft, hname, hresult, htypeList, hparameters, harguments, howner,
        Sink.deliver_bind, Sink.deliver_lift, deliver_attributeLine, Draft.deliver_text,
        deliver_draftClauses style hclauses, Draft.deliver_lineEnd,
        Draft.deliver_openBlock, Opening.header, String.append_assoc, hbrace]
    · cases h

end Failure

/-! ### Failures that leave nothing -/

/-- A check of the method fails before anything is written: its name or that of a type parameter
is no identifier, its result has no text, or there is no attribute and the parameters cannot be
written. -/
def FailsAtOnce (style : Style) (m : Method) : Prop :=
  Text.isIdentifier m.name = false ∨ ¬m.result.IsFlawless
    ∨ (∃ p ∈ m.typeParameters, Text.isIdentifier p.name = false)
    ∨ m.obsolete? = none ∧ ∃ e, Parameter.listText style.qualify m.scriptParameters = .error e

section Untouched

variable {style : Style} {m : Method}

theorem exists_opening_eq_ok_iff :
  (∃ o, m.opening style = .ok o) ↔ Text.isIdentifier m.name = true ∧ m.result.IsFlawless
    ∧ ∀ p ∈ m.typeParameters, Text.isIdentifier p.name = true
  := by
  have hresult : (∃ text, m.result.text style.qualify = .ok text) ↔ m.result.IsFlawless :=
    TypeExpr.exists_text_iff_isFlawless
  rw [← exists_declaredName_eq_ok_iff, ← hresult, ← TypeParameter.exists_listText_iff]
  constructor
  · rintro ⟨o, ho⟩
    obtain ⟨hname, hresult, htypeList⟩ := opening_eq_ok_iff.mp ho
    exact ⟨⟨_, hname⟩, ⟨_, hresult⟩, ⟨_, htypeList⟩⟩
  · rintro ⟨⟨name, hname⟩, ⟨result, hresult⟩, ⟨typeList, htypeList⟩⟩
    exact ⟨⟨name, result, typeList⟩, opening_eq_ok_iff.mpr ⟨hname, hresult, htypeList⟩⟩

/-- Without an attribute nothing is written before the header. -/
theorem attributeText_eq_empty_iff :
  m.attributeText style = "" ↔ m.obsolete? = none
  := by
  rw [attributeText]
  cases m.obsolete? with
  | none => simp [Obsolete.lines]
  | some o => simp [Obsolete.lines, Line.ended]

theorem Opening.header_ne_empty (o : Opening) (parameters : String) :
  o.header parameters ≠ ""
  := by
  simp [header]

theorem failsAtOnce_of_opening_error {e : DeclarationError} (h : m.opening style = .error e) :
  m.FailsAtOnce style
  := by
  by_contra hnot
  simp only [FailsAtOnce, not_or, not_exists, not_and, Bool.not_eq_false, not_not] at hnot
  obtain ⟨hname, hresult, hnames, -⟩ := hnot
  obtain ⟨o, ho⟩ := exists_opening_eq_ok_iff.mpr ⟨hname, hresult, hnames⟩
  rw [h] at ho
  cases ho

/-- A declaration that leaves nothing fails at once. -/
theorem Leaves.failsAtOnce {e : DeclarationError} {left : String} (h : m.Leaves style e left)
    (hleft : left = "") :
  m.FailsAtOnce style
  := by
  cases h with
  | opening h => exact failsAtOnce_of_opening_error h
  | parameters ho h =>
    right
    right
    right
    exact ⟨attributeText_eq_empty_iff.mp hleft, e, h⟩
  | clause | owner =>
    simp [Opening.header_ne_empty] at hleft

/-- A declaration that fails at once writes nothing. -/
theorem FailsAtOnce.written_eq_nil (h : m.FailsAtOnce style) :
  (m.draft style).written = []
  := by
  cases hopening : m.opening style with
  | error e => rw [draft_of_opening_error hopening]
  | ok o =>
    obtain ⟨hidentifier, hflawless, hidentifiers⟩ := exists_opening_eq_ok_iff.mp ⟨o, hopening⟩
    obtain h | h | ⟨p, hp, h⟩ | ⟨hobsolete, e, h⟩ := h
    · rw [hidentifier] at h
      cases h
    · exact absurd hflawless h
    · rw [hidentifiers p hp] at h
      cases h
    · obtain ⟨hname, hresult, htypeList⟩ := opening_eq_ok_iff.mp hopening
      rw [draft, hname, hresult, htypeList, hobsolete, h]
      rfl

end Untouched

/-- A failure of the declaration of a method leaves every sink as it was exactly when a check that
comes before anything is written fails.  In any case a text holds, behind what it held before, the
declaration up to the check that fails. -/
theorem leavesUntouched_iff_failsAtOnce (style : Style) (m : Method) :
  ((m.draft style).LeavesUntouched style
      ↔ (m.draft style).outcome = .ok () ∨ m.FailsAtOnce style)
    ∧ ∀ e, (m.draft style).outcome = .error e → ∃ left, m.Leaves style e left
      ∧ ∀ held, Sink.unbounded.deliver held style (m.draft style) = (held ++ left, .error e)
  := by
  refine ⟨⟨?_, ?_⟩, ?_⟩
  · intro h
    cases houtcome : (m.draft style).outcome with
    | ok _ => exact .inl rfl
    | error e =>
      right
      obtain ⟨left, hleft, hdeliver⟩ := deliver_draft_of_error houtcome
      have hrefused : e ≠ .refused := (Member.method m).neverRefused_draft style e houtcome
      have hempty : left = "" := by
        simpa using h Sink.unbounded "" _ e (hdeliver "") hrefused
      exact hleft.failsAtOnce hempty
  · rintro (h | h)
    · exact Draft.leavesUntouched_of_ok h
    · exact Draft.leavesUntouched_of_written_eq_nil h.written_eq_nil
  · intro e h
    exact deliver_draft_of_error h

end Method

/-- A method whose owner is an array without dimensions. -/
def buildOfNoType : Method :=
  ⟨"Build", .array (.plain "Tools" "ToolAliases") 0, .void,
    [.receiver "context" (.plain "Core" "IContext")], [], none⟩

/-- A method with an attribute and a parameter that has no name. -/
def buildOfNoName : Method :=
  ⟨"Build", .plain "Tools" "ToolAliases", .void,
    [.receiver "context" (.plain "Core" "IContext"), .plain "" (.plain "System" "String")], [],
    some ⟨"Use Make.", false⟩⟩

/-- The owner is checked below the header and the brace, and the parameters below the attribute. -/
theorem half_a_declaration_is_left :
  Sink.unbounded.deliver "" {} (buildOfNoType.draft {})
      = ("public void Build()\n\x7b\n", .error (.invalidType .noDimensions))
    ∧ ¬(buildOfNoType.draft {}).LeavesUntouched {}
    ∧ Sink.unbounded.deliver "" {} (buildOfNoName.draft {})
      = ("[System.Obsolete(\"Use Make.\")]\n", .error (.invalidName ""))
    ∧ ¬(buildOfNoName.draft {}).LeavesUntouched {}
  := by
  have htype : Sink.unbounded.deliver "" {} (buildOfNoType.draft {})
      = ("public void Build()\n\x7b\n", .error (.invalidType .noDimensions)) := by
    rfl
  have hname : Sink.unbounded.deliver "" {} (buildOfNoName.draft {})
      = ("[System.Obsolete(\"Use Make.\")]\n", .error (.invalidName "")) := by
    rfl
  refine ⟨htype, ?_, hname, ?_⟩
  · intro h
    exact absurd (h Sink.unbounded _ _ _ htype (by simp)) (by decide)
  · intro h
    exact absurd (h Sink.unbounded _ _ _ hname (by simp)) (by decide)

end AliasBinding
