import AliasBinding.Proofs.Declaration.Forwarding
import AliasBinding.Proofs.TypeText.Void
import AliasBinding.Verification

/-!
# Void results and properties

A method whose result is `void` forwards without returning, and a property must not be `void`.
Both are decided on the type, while the header says what the type is written as.  The two agree
on a type exactly when it is not `void` in disguise (`returnsUnlessVoid_iff`): by-reference marks
are not written, and the test for `void` does not look behind them.
-/

namespace AliasBinding

open Text

/-! ### Methods -/

namespace MethodParts

/-- The statement is the call alone exactly when the parts say that the result is `void`. -/
theorem statement_eq_call_iff {d : MethodParts} :
  d.statement = d.call ↔ d.isVoid = true
  := by
  rw [statement]
  cases d.isVoid with
  | true => simp
  | false =>
    simp only [Bool.false_eq_true, if_false, iff_false]
    intro h
    have hlength := congrArg String.length h
    rw [String.length_append] at hlength
    have hreturn : "return ".length = 7 := rfl
    omega

end MethodParts

/-- Methods with this result return from the call in their bodies, unless their headers say
`void`. -/
def ReturnsUnlessVoid (style : Style) (t : TypeExpr) : Prop :=
  ∀ namespaces m text, m.result = t → (⟨namespaces, .method m⟩ : Alias).Declares style text →
    ∃ d : MethodParts, m.parts style = .ok d
      ∧ text = Line.join style (Obsolete.lines m.obsolete?
        ++ ⟨0, d.header⟩ :: TypeParameter.clauseLines d.clauses
        ++ [⟨0, "\x7b"⟩, ⟨1, d.statement⟩, ⟨0, Draft.closingBrace⟩])
      ∧ (d.statement = d.call ↔ d.result = "void")

/-- The header of a method says `void` when the result is `void`, openly or in disguise; but only
the first is forwarded without returning. -/
theorem Method.HasParts.result_eq_void_iff {style : Style} {m : Method} {d : MethodParts}
    (h : m.HasParts style d) :
  d.result = "void" ↔ d.statement = d.call ∨ m.result.IsDisguisedVoid style.qualify
  := by
  rw [MethodParts.statement_eq_call_iff, h.isVoid_eq, ← TypeExpr.text_eq_void_iff_isVoid_or,
    h.result_text, Except.ok.injEq]

/-- A method without parameters can be declared when its name and its types can be written. -/
theorem Alias.exists_declares_ofMethod {style : Style} {name : String} {owner result : TypeExpr}
    {ownerText resultText : String} (hname : isIdentifier name = true)
    (howner : owner.text style.qualify = .ok ownerText)
    (hresult : result.text style.qualify = .ok resultText) :
  ∃ text, (Alias.ofMethod name owner result).Declares style text
  := by
  apply exists_declares_iff.mpr
  rw [ofMethod, Member.draft, Method.outcome_draft,
    declaredName_eq_ok_iff.mpr ⟨hname, rfl⟩, hresult, howner]
  rfl

theorem returnsUnlessVoid_iff {style : Style} {t : TypeExpr} :
  ReturnsUnlessVoid style t ↔ ¬t.IsDisguisedVoid style.qualify
  := by
  constructor
  · intro h hdisguised
    have hvoid := TypeExpr.text_eq_void_iff_isVoid_or.mpr (.inr hdisguised)
    have hname : isIdentifier "Run" = true := by decide
    have howner : TypeExpr.text style.qualify (.plain "System" "Object") = .ok "object" := rfl
    obtain ⟨text, hdeclares⟩ := Alias.exists_declares_ofMethod hname howner hvoid
    obtain ⟨d, hd, -, hiff⟩ := h _ _ _ rfl hdeclares
    have hparts := Method.hasParts_of_parts hd
    have hstatement := hiff.mpr (hparts.result_eq_void_iff.mpr (.inr hdisguised))
    rw [MethodParts.statement_eq_call_iff, hparts.isVoid_eq,
      TypeExpr.isVoid_eq_false_of_isDisguisedVoid hdisguised] at hstatement
    cases hstatement
  · rintro hdisguised namespaces m text rfl hdeclares
    obtain ⟨d, hd, rfl⟩ := Method.declares_iff.mp hdeclares
    have hparts := Method.hasParts_of_parts hd
    use d, hd
    rw [hparts.result_eq_void_iff, or_iff_left hdisguised, d.lines_eq_header_statement,
      hparts.obsolete?_eq]
    exact ⟨rfl, Iff.rfl⟩

/-! ### Properties -/

/-- No property of this type has a declaration if the type is written as `void`. -/
def RejectsVoidProperties (style : Style) (t : TypeExpr) : Prop :=
  t.text style.qualify = .ok "void" → ∀ namespaces p text, p.type = t →
    ¬(⟨namespaces, .property p⟩ : Alias).Declares style text

/-- A property can be declared when its name and its types can be written, and its type neither
is `void` nor mentions a type parameter. -/
theorem Alias.exists_declares_ofProperty {style : Style} {name : String}
    {owner type : TypeExpr} {ownerText typeText : String} (hname : isIdentifier name = true)
    (hvoid : type.isVoid = false) (hparameter : type.firstParameter? = none)
    (howner : owner.text style.qualify = .ok ownerText)
    (htype : type.text style.qualify = .ok typeText) :
  ∃ text, (Alias.ofProperty name owner type).Declares style text
  := by
  have hparts := (Property.parts_eq_ok_iff (p := ⟨name, owner, type, false, none⟩)).mpr
    ⟨typeText, ownerText, hname, hvoid, hparameter, htype, howner, rfl⟩
  exact ⟨_, Property.declares_iff.mpr ⟨_, hparts, rfl⟩⟩

theorem rejectsVoidProperties_iff {style : Style} {t : TypeExpr} :
  RejectsVoidProperties style t ↔ ¬t.IsDisguisedVoid style.qualify
  := by
  constructor
  · intro h hdisguised
    have htext := TypeExpr.text_eq_void_iff_isVoid_or.mpr (.inr hdisguised)
    have hname : isIdentifier "Nothing" = true := by decide
    have howner : TypeExpr.text style.qualify (.plain "System" "Object") = .ok "object" := rfl
    obtain ⟨text, hdeclares⟩ := Alias.exists_declares_ofProperty hname
      (TypeExpr.isVoid_eq_false_of_isDisguisedVoid hdisguised)
      (TypeExpr.firstParameter?_of_isDisguisedVoid hdisguised) howner htext
    apply h htext _ _ _ rfl hdeclares
  · rintro hdisguised htext namespaces p text rfl hdeclares
    obtain ⟨d, hd, -⟩ := Property.declares_iff.mp hdeclares
    obtain ⟨-, -, -, hvoid, -⟩ := Property.parts_eq_ok_iff.mp hd
    obtain h | h := TypeExpr.text_eq_void_iff_isVoid_or.mp htext
    · rw [hvoid] at h
      cases h
    · apply hdisguised h

/-! ### Both -/

/-- For a type that is not `void` in disguise, in any style, methods that have it as their result
return from the call unless their headers say `void`, and properties of it are rejected if it is
written as `void`.  For one in disguise there are a method and a property for which this fails. -/
theorem detectsVoid_iff_not_disguised (style : Style) (t : TypeExpr) :
  (ReturnsUnlessVoid style t ↔ ¬t.IsDisguisedVoid style.qualify)
    ∧ (RejectsVoidProperties style t ↔ ¬t.IsDisguisedVoid style.qualify)
  := ⟨returnsUnlessVoid_iff, rejectsVoidProperties_iff⟩

/-- A method that hands over `void` by reference, for a script context. -/
def runByReference : Alias :=
  (Alias.ofMethod "Run" (.plain "Tools" "ToolAliases") (.byRef .void)).withParameter
    (.receiver "context" (.plain "Core" "IContext"))

/-- A property that hands over `void` by reference. -/
def nothingByReference : Alias :=
  Alias.ofProperty "Nothing" (.plain "Tools" "ToolAliases") (.byRef .void)

/-- With a by-reference mark, `void` is taken for another type: both aliases are verified, and
one returns from a `void` method while the other is a `void` property. -/
theorem void_by_reference_is_missed :
  Alias.verify [runByReference, nothingByReference] = []
    ∧ runByReference.Declares {}
      "public void Run()\n\x7b\n    return Tools.ToolAliases.Run(Context);\n\x7d"
    ∧ nothingByReference.Declares {} ("public void Nothing\n\x7b\n    get\n    \x7b\n"
      ++ "        return Tools.ToolAliases.Nothing(Context);\n    \x7d\n\x7d")
    ∧ ¬ReturnsUnlessVoid {} (.byRef .void)
    ∧ ¬RejectsVoidProperties {} (.byRef .void)
  := by
  have hdisguised : (TypeExpr.byRef .void).IsDisguisedVoid ({} : Style).qualify :=
    .inl ⟨.void, rfl, rfl⟩
  refine ⟨by decide, ?_, ?_, ?_, ?_⟩
  · apply Alias.declaration_eq_ok_iff.mp
    decide +kernel
  · apply Alias.declaration_eq_ok_iff.mp
    decide +kernel
  · rw [returnsUnlessVoid_iff, not_not]
    apply hdisguised
  · rw [rejectsVoidProperties_iff, not_not]
    apply hdisguised

end AliasBinding
