import AliasBinding.Proofs.Declaration.Acceptance
import AliasBinding.Proofs.Declaration.Parameters

/-!
# What verification covers

The texts of a well-formed alias can all be written, in every style, apart from defaults, which
verification does not look at.  So a verified property always has a declaration, and a verified
method has one exactly when no parameter after the receiver has a default that cannot be
written (`verified_declares_unless_default`).
-/

namespace AliasBinding

/-! ### Types -/

namespace TypeExpr

/-- A well-formed type has no flaw, as no declared name is empty. -/
theorem WellFormed.isFlawless {declared : List String} (hdeclared : "" ∉ declared)
    {t : TypeExpr} (h : t.WellFormed declared) :
  t.IsFlawless
  where
    name_ne _ _ _ _ hs := h _ hs
    parameter_ne name hs := by
      -- An empty name is no issue of the type itself, only it is never declared.
      rintro rfl
      apply hdeclared (h _ hs)
    rank_pos _ _ hs := h _ hs

theorem exists_text_of_wellFormed (qualify : Bool) {declared : List String}
    (hdeclared : "" ∉ declared) (t : TypeExpr) (h : t.WellFormed declared) :
  ∃ text, t.text qualify = .ok text
  := exists_text_iff_isFlawless.mpr (h.isFlawless hdeclared)

end TypeExpr

/-! ### Defaults -/

namespace Parameter

/-- The parameter has a default that cannot be written: it is passed by reference for writing,
or as the rest of the arguments, and takes no default, or the default is not finite. -/
def HasUnwritableDefault (p : Parameter) : Prop :=
  ∃ c, p.default? = some c ∧
    (p.passing = .reference ∨ p.passing = .output ∨ p.passing = .rest ∨ c.IsNotFinite)

section Writing

variable {qualify : Bool} {declared : List String} {p : Parameter}

/-- A parameter that is not the receiver can be written unless its default cannot. -/
theorem isWritable_iff_not_hasUnwritableDefault (hdeclared : "" ∉ declared)
    (hname : Text.isIdentifier p.name = true) (htype : p.type.WellFormed declared)
    (hreceiver : p.passing ≠ .receiver) :
  p.IsWritable ↔ ¬p.HasUnwritableDefault
  := by
  constructor
  · rintro h ⟨c, hdefault, hbad⟩
    have hvalue : ¬c.IsNotFinite := h.value c hdefault
    obtain hpassing | hpassing := h.passing c hdefault
    · simp [hpassing, hvalue] at hbad
    · simp [hpassing, hvalue] at hbad
  · intro h
    have hdefault : ∀ c, p.default? = some c →
        (p.passing = .value ∨ p.passing = .input) ∧ ¬c.IsNotFinite := by
      intro c hc
      have hnot := fun hbad => h ⟨c, hc, hbad⟩
      cases hpassing : p.passing with
      | value | input => simpa [hpassing] using hnot
      | receiver => contradiction
      | reference | output | rest => simp [hpassing] at hnot
    constructor
    case name => exact hname
    case type => exact htype.isFlawless hdeclared
    case passing => exact fun c hc => (hdefault c hc).1
    case value => exact fun c hc => (hdefault c hc).2

/-- Parameters of which none is the receiver can be written unless some default cannot. -/
theorem exists_listText_iff {ps : List Parameter} (hdeclared : "" ∉ declared)
    (hnames : ∀ p ∈ ps, Text.isIdentifier p.name = true)
    (htypes : ∀ p ∈ ps, p.type.WellFormed declared)
    (hreceiver : ∀ p ∈ ps, p.passing ≠ .receiver) :
  (∃ text, listText qualify ps = .ok text) ↔ ∀ p ∈ ps, ¬p.HasUnwritableDefault
  := by
  rw [exists_listText_iff_isWritable]
  apply forall₂_congr
  intro p hp
  apply isWritable_iff_not_hasUnwritableDefault hdeclared (hnames p hp) (htypes p hp)
    (hreceiver p hp)

end Writing

end Parameter

/-! ### Members -/

namespace TypeParameter

/-- A type parameter with well-formed supertypes has a where clause, or needs none. -/
theorem exists_clause?_eq_ok {qualify : Bool} {declared : List String}
    (hdeclared : "" ∉ declared) {p : TypeParameter}
    (hsupertypes : ∀ t, .subtype t ∈ p.constraints → t.WellFormed declared) :
  ∃ clause, p.clause? qualify = .ok clause
  := by
  unfold clause?
  split
  · use none
    rfl
  · apply exists_bind_pure_eq_ok_iff.mpr
    apply exists_bind_pure_eq_ok_iff.mpr
    apply exists_mapM_eq_ok_iff.mpr
    intro t ht
    obtain ⟨c, hc, hsupertype⟩ := List.mem_filterMap.mp ht
    cases c with
    | subtype s =>
      cases hsupertype
      apply t.exists_text_of_wellFormed qualify hdeclared (hsupertypes t hc)
    | reference => cases hsupertype
    | value => cases hsupertype
    | constructible => cases hsupertype

end TypeParameter

namespace Method

variable {m : Method}

/-- The parameters that scripts give arguments for are those after the receiver. -/
theorem WellFormed.scriptParameters_eq (h : m.WellFormed) :
  m.scriptParameters = m.parameters.tail
  := by
  rw [scriptParameters, if_pos (hasReceiver_iff.mpr h.receiver_first)]

theorem WellFormed.empty_notMem (h : m.WellFormed) :
  "" ∉ m.typeParameters.map (·.name)
  := by
  intro hempty
  obtain ⟨p, hp, hname⟩ := List.mem_map.mp hempty
  apply Text.isIdentifier_ne_empty (h.typeParameter_names p hp) hname

/-- A well-formed method has a declaration unless the default of a parameter after the receiver
cannot be written. -/
theorem outcome_draft_eq_ok_iff {style : Style} (hname : Text.isIdentifier m.name = true)
    (h : m.WellFormed) :
  (m.draft style).outcome = .ok () ↔ ∀ p ∈ m.parameters.tail, ¬p.HasUnwritableDefault
  := by
  have hempty := h.empty_notMem
  have htail : ∀ p ∈ m.parameters.tail, p ∈ m.parameters := fun _ => List.mem_of_mem_tail
  have hname' := exists_declaredName_eq_ok_iff.mpr hname
  have hresult := m.result.exists_text_of_wellFormed style.qualify hempty h.result
  have htypeParameters := TypeParameter.exists_listText_iff.mpr h.typeParameter_names
  have hparameters : (∃ text, Parameter.listText style.qualify m.parameters.tail = .ok text)
      ↔ ∀ p ∈ m.parameters.tail, ¬p.HasUnwritableDefault := by
    apply Parameter.exists_listText_iff hempty
    · intro p hp
      apply h.parameter_names p (htail p hp)
    · intro p hp
      apply h.parameter_types p (htail p hp)
    · apply h.receiver_only_first
  have hclauses : ∃ clauses, m.typeParameters.mapM (TypeParameter.clause? style.qualify)
      = .ok clauses := by
    apply exists_mapM_eq_ok_iff.mpr
    intro p hp
    apply TypeParameter.exists_clause?_eq_ok hempty (h.supertypes p hp)
  have harguments : ∃ arguments, m.callArguments style = .ok arguments := by
    rw [callArguments, h.scriptParameters_eq]
    apply exists_bind_pure_eq_ok_iff.mpr
    apply exists_mapM_eq_ok_iff.mpr
    intro p hp
    apply Parameter.exists_argument_eq_ok (h.parameter_names p (htail p hp))
  have howner := m.owner.exists_text_of_wellFormed style.qualify List.not_mem_nil h.owner
  rw [outcome_draft, h.scriptParameters_eq]
  simp only [bind_const_eq_ok_iff, hname', hresult, htypeParameters, hparameters, hclauses,
    harguments, howner, true_and]
  apply and_iff_left
  rfl

end Method

namespace Property

variable {p : Property}

/-- Verification asks for more than a declaration does. -/
theorem WellFormed.isDeclarable (hname : Text.isIdentifier p.name = true) (h : p.WellFormed) :
  p.IsDeclarable
  where
    name := hname
    not_void := h.not_void
    no_parameter _ hs := List.not_mem_nil (h.type _ hs)
    type := h.type.isFlawless List.not_mem_nil
    owner := h.owner.isFlawless List.not_mem_nil

/-- A well-formed property has a declaration. -/
theorem outcome_draft_eq_ok {style : Style} (hname : Text.isIdentifier p.name = true)
    (h : p.WellFormed) :
  (p.draft style).outcome = .ok ()
  := by
  rw [outcome_draft_eq_check]
  apply check_eq_ok_iff.mpr
  exact h.isDeclarable hname

end Property

/-! ### Verified aliases -/

namespace Alias

/-- The alias is for a method of which a parameter after the receiver has a default that cannot
be written. -/
def HasUnwritableDefault (a : Alias) : Prop :=
  ∃ m, a.member = .method m ∧ ∃ p ∈ m.parameters.tail, p.HasUnwritableDefault

/-- A well-formed alias has a declaration unless it has a default that cannot be written. -/
theorem WellFormed.exists_declares_iff {style : Style} {a : Alias} (h : a.WellFormed) :
  (∃ text, a.Declares style text) ↔ ¬a.HasUnwritableDefault
  := by
  rw [Alias.exists_declares_iff, HasUnwritableDefault]
  obtain ⟨hname, -, hmember⟩ := h
  rw [Alias.name] at hname
  cases ha : a.member with
  | method m =>
    rw [ha] at hname hmember
    simpa [Member.draft] using Method.outcome_draft_eq_ok_iff hname hmember
  | property p =>
    rw [ha] at hname hmember
    simpa [Member.draft] using Property.outcome_draft_eq_ok hname hmember

end Alias

theorem scriptOf_eq_error_iff {style : Style} {path : String} {aliases : List Alias} :
  (∃ e, scriptOf style path aliases = .error e)
    ↔ ∃ a ∈ aliases, ¬∃ text, a.Declares style text
  := by
  have hiff := exists_scriptOf_eq_ok_iff style path aliases
  cases h : scriptOf style path aliases with
  | ok script =>
    rw [h] at hiff
    simpa using hiff
  | error e =>
    rw [h] at hiff
    simpa using hiff

/-- Of verified aliases, those for properties have a declaration in every style, and those for
methods exactly when no parameter after the receiver has a default that cannot be written.  So
the generation of a script fails on a declaration exactly when there is such a default. -/
theorem verified_declares_unless_default {aliases : List Alias}
    (hverified : Alias.verify aliases = []) (style : Style) :
  (∀ a ∈ aliases, ∀ p, a.member = .property p → ∃ text, a.Declares style text)
    ∧ (∀ a ∈ aliases, ∀ m, a.member = .method m →
      ((∃ text, a.Declares style text) ↔ ∀ p ∈ m.parameters.tail, ¬p.HasUnwritableDefault))
    ∧ ∀ {σ : Type} (asks : Collaborators (StateM σ)) (path : String) (verify : Bool)
        (before between after : σ), path ≠ "" →
      (asks.moduleExists path).run before = (true, between) →
      (asks.findAliases path verify).run between = (.ok aliases, after) →
      ((∃ e, ((generate asks style path verify).run before).1 = .error (.declaration e))
        ↔ ∃ a ∈ aliases, a.HasUnwritableDefault)
  := by
  have hwellFormed := Alias.verify_eq_nil_iff.mp hverified
  refine ⟨?_, ?_, ?_⟩
  · intro a ha p hp
    apply (hwellFormed a ha).exists_declares_iff.mpr
    simp [Alias.HasUnwritableDefault, hp]
  · intro a ha m hm
    rw [(hwellFormed a ha).exists_declares_iff]
    simp [Alias.HasUnwritableDefault, hm]
  · intro σ asks path verify before between after hpath hexists hfind
    rw [generate_of_answers hpath hexists hfind]
    have hfails : (∃ e, scriptOf style path aliases = .error e)
        ↔ ∃ a ∈ aliases, a.HasUnwritableDefault := by
      rw [scriptOf_eq_error_iff]
      apply exists_congr
      intro a
      apply and_congr_right
      intro ha
      rw [(hwellFormed a ha).exists_declares_iff, not_not]
    rw [← hfails]
    cases scriptOf style path aliases with
    | ok script => simp [Except.mapError]
    | error e => simp [Except.mapError]

/-- Aliases without an issue, of which the second one has a default for an output parameter. -/
def ciAndTryParse : List Alias :=
  let owner := TypeExpr.plain "Tools" "ToolAliases"
  let context := Parameter.receiver "context" (.plain "Tools" "IContext")
  [.ofProperty "IsCi" owner (.plain "System" "Boolean"),
    (((Alias.ofMethod "TryParse" owner (.plain "System" "Boolean")).withParameter
      context).withParameter ⟨"result", .byRef (.plain "System" "Int32"), .output,
        some (.integer 3)⟩)]

theorem verified_declares_unless_default_ciAndTryParse :
  Alias.verify ciAndTryParse = []
    ∧ (∃ a ∈ ciAndTryParse, a.HasUnwritableDefault)
    ∧ ∃ e, ((generate (logging ciAndTryParse) {} "Tools.dll" true).run []).1
      = .error (.declaration e)
  := by
  have hdefault : ∃ a ∈ ciAndTryParse, a.HasUnwritableDefault := by
    refine ⟨_, List.mem_cons_of_mem _ (List.mem_singleton_self _), _, rfl, _,
      List.mem_singleton_self _, ?_⟩
    use .integer 3, rfl
    right
    left
    rfl
  use by decide, hdefault
  apply ((verified_declares_unless_default (by decide) {}).2.2 (logging ciAndTryParse)
    "Tools.dll" true [] ["Tools.dll"] ["Tools.dll", "Tools.dll"] (by decide) rfl rfl).mpr
    hdefault

end AliasBinding
