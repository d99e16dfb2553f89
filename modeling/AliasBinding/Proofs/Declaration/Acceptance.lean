import AliasBinding.Proofs.Declaration.Delivery
import AliasBinding.Proofs.Verification.Issues

/-!
# Acceptance of properties

All checks of a property come before anything of its declaration is written, and none of them
looks at the style, at the caching or at the obsolete mark.  So a property is declared whole or
not at all, and whether it is depends on its name and its types alone
(`Property.draft_whole_or_nothing`).
-/

namespace AliasBinding.Property

open TypeExpr

/-- The checks of a property, in the order in which they are made. -/
def check (p : Property) : Except DeclarationError Unit := do
  let _ ← p.checkedName
  Flaw.report p.type.firstFlaw?
  Flaw.report p.owner.firstFlaw?

/-- The declaration of a property goes as its checks do. -/
theorem outcome_draft_eq_check (style : Style) (p : Property) :
  (p.draft style).outcome = p.check
  := by
  rw [outcome_draft, check]
  refine bind_congr fun name => ?_
  rw [bind_const_eq_verdict_bind (p.type.text style.qualify),
    bind_const_eq_verdict_bind (p.owner.text style.qualify), verdict_text, verdict_text]
  refine bind_congr fun _ => ?_
  cases p.owner.firstFlaw? with
  | none => rfl
  | some flaw => rfl

/-- A property that fails a check has nothing written. -/
theorem written_draft_of_error {style : Style} {p : Property} {e : DeclarationError}
    (h : (p.draft style).outcome = .error e) :
  (p.draft style).written = []
  := by
  rw [outcome_draft] at h
  rw [draft]
  obtain hname | ⟨name, hname, h⟩ := bind_eq_error_iff.mp h
  · rw [hname]
    rfl
  obtain htype | ⟨type, htype, h⟩ := bind_eq_error_iff.mp h
  · rw [hname, htype]
    rfl
  obtain howner | ⟨owner, -, h⟩ := bind_eq_error_iff.mp h
  · rw [hname, htype, howner]
    rfl
  · cases h

/-- What is asked of a property that is to be declared. -/
structure IsDeclarable (p : Property) : Prop where
  name : Text.isIdentifier p.name = true
  not_void : ∀ isValue, p.type ≠ .named (some "System") "Void" [] isValue
  no_parameter : ∀ name, ¬Occurs (.parameter name) p.type
  type : p.type.IsFlawless
  owner : p.owner.IsFlawless

theorem check_eq_ok_iff {p : Property} :
  p.check = .ok () ↔ p.IsDeclarable
  := by
  have hname : (∃ name, p.checkedName = .ok name) ↔ Text.isIdentifier p.name = true
      ∧ (∀ isValue, p.type ≠ .named (some "System") "Void" [] isValue)
      ∧ ∀ name, ¬Occurs (.parameter name) p.type := by
    simp only [checkedName_eq_ok_iff, exists_and_right, exists_declaredName_eq_ok_iff,
      isVoid_eq_false_iff, firstParameter?_eq_none_iff]
  have htype : (∃ done, Flaw.report p.type.firstFlaw? = .ok done) ↔ p.type.IsFlawless := by
    rw [Unique.exists_iff, isFlawless_iff_firstFlaw?]
    apply Flaw.report_eq_ok_iff
  have howner : Flaw.report p.owner.firstFlaw? = .ok () ↔ p.owner.IsFlawless := by
    rw [Flaw.report_eq_ok_iff, isFlawless_iff_firstFlaw?]
  rw [check, bind_const_eq_ok_iff, bind_const_eq_ok_iff, hname, htype, howner]
  constructor
  · rintro ⟨⟨hname, hvoid, hparameter⟩, htype, howner⟩
    exact ⟨hname, hvoid, hparameter, htype, howner⟩
  · rintro ⟨hname, hvoid, hparameter, htype, howner⟩
    exact ⟨⟨hname, hvoid, hparameter⟩, htype, howner⟩

/-- A property of which the declaration fails leaves every sink as it was, unless it is the sink
that refuses.  It is declared exactly when its name is an identifier, its type is not void and
mentions no type parameter, and no name in its type and its owner is empty and no array without
dimensions.  Whether it is declared, and the error if not, is the same for all properties with this
name and these types, in all styles. -/
theorem draft_whole_or_nothing (p : Property) (style : Style) :
  (p.draft style).LeavesUntouched style
    ∧ (∀ held, (∃ text, Sink.unbounded.deliver held style (p.draft style) = (held ++ text, .ok ()))
      ↔ p.IsDeclarable)
    ∧ ∀ (cached : Bool) (obsolete? : Option Obsolete) (style' : Style) (held held' : String),
      (Sink.unbounded.deliver held' style'
          ({ p with cached := cached, obsolete? := obsolete? }.draft style')).2
        = (Sink.unbounded.deliver held style (p.draft style)).2
  := by
  refine ⟨?_, ?_, ?_⟩
  · cases h : (p.draft style).outcome with
    | ok _ => exact Draft.leavesUntouched_of_ok h
    | error e => exact Draft.leavesUntouched_of_written_eq_nil (written_draft_of_error h)
  · intro held
    rw [← check_eq_ok_iff, ← outcome_draft_eq_check style, Sink.deliver_unbounded]
    simp
  · intro cached obsolete? style' held held'
    rw [Sink.deliver_unbounded, Sink.deliver_unbounded, outcome_draft_eq_check,
      outcome_draft_eq_check]
    rfl

end AliasBinding.Property
