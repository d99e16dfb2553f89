import AliasBinding.Proofs.TypeText.Flaws
import AliasBinding.Proofs.Verification.Issues

/-!
# Texts and issues of types

A flaw keeps a type from having a text, and it is an issue of the type.  When the type parameters
in a type are declared, an empty one apart, there are no other issues.  Texts and issues are then
looked for in the same order: there is a text exactly when there is no issue, and otherwise the
error and the first issue come from the same type in it (`text_agrees_with_issues`).
-/

namespace AliasBinding.TypeExpr

/-- The issue that a flaw is. -/
def Flaw.issue : Flaw → Issue
  | .emptyName => .unnamedType
  | .emptyParameterName => .undeclaredTypeParameter ""
  | .noDimensions => .noDimensions

/-- The names are those of the type parameters in the type, and maybe further ones.  None of them is
empty, so a type parameter without a name is not declared. -/
structure DeclaredBy (declared : List String) (t : TypeExpr) : Prop where
  empty_notMem : "" ∉ declared
  mem_of_occurs : ∀ name, Occurs (.parameter name) t → name ≠ "" → name ∈ declared

section Declared

variable {declared : List String} {t : TypeExpr}

/-- Where the type parameters are declared, only flaws are issues. -/
theorem DeclaredBy.ownIssues_eq (h : t.DeclaredBy declared) {s : TypeExpr} (hs : Occurs s t) :
  s.ownIssues declared = (s.flaw?.map Flaw.issue).toList
  := by
  cases s with
  | named ns name arguments isValue =>
    by_cases hname : name = ""
    · simp [ownIssues, Issue.when, flaw?, hname, Flaw.issue]
    · simp [ownIssues, Issue.when, flaw?, hname]
  | parameter name =>
    by_cases hname : name = ""
    · subst hname
      simp [ownIssues, Issue.when, flaw?, h.empty_notMem, Flaw.issue]
    · simp [ownIssues, Issue.when, flaw?, hname, h.mem_of_occurs name hs hname]
  | array element rank =>
    by_cases hrank : rank = 0
    · simp [ownIssues, Issue.when, flaw?, hrank, Flaw.issue]
    · simp [ownIssues, Issue.when, flaw?, hrank]
  | nullable | byRef => rfl

theorem DeclaredBy.issues_eq (h : t.DeclaredBy declared) :
  t.issues declared = t.preorder.filterMap fun s => s.flaw?.map Flaw.issue
  := by
  rw [issues_eq_flatMap_preorder, List.filterMap_eq_flatMap_toList]
  apply List.flatMap_congr
  intro s hs
  apply h.ownIssues_eq (mem_preorder_iff.mp hs)

end Declared

/-- A type whose type parameters are declared has a text exactly when it has no issue.  Otherwise
the error is what is wrong with the first flawed type in it, in reading order, and the first issue
is about the same type, with those of the types behind it following.  Whether there is a text, and
the error if not, does not depend on the namespaces being written. -/
theorem text_agrees_with_issues {declared : List String} {t : TypeExpr}
    (h : t.DeclaredBy declared) :
  (∀ qualify, (∃ written, t.text qualify = .ok written) ↔ t.issues declared = [])
    ∧ (∀ qualify e, t.text qualify = .error e →
      ∃ before s after flaw, t.preorder = before ++ s :: after
        ∧ (∀ r ∈ before, r.flaw? = none ∧ r.ownIssues declared = [])
        ∧ s.flaw? = some flaw ∧ e = flaw.error
        ∧ s.ownIssues declared = [flaw.issue]
        ∧ t.issues declared = flaw.issue :: after.flatMap (ownIssues declared))
    ∧ ∀ qualify qualify' e, t.text qualify = .error e ↔ t.text qualify' = .error e
  := by
  refine ⟨?_, ?_, ?_⟩
  · intro qualify
    rw [exists_text_iff_firstFlaw?, firstFlaw?, List.findSome?_eq_none_iff, h.issues_eq,
      List.filterMap_eq_nil_iff]
    simp only [Option.map_eq_none_iff]
  · intro qualify e he
    obtain ⟨flaw, hflaw, rfl⟩ := text_eq_error_iff.mp he
    obtain ⟨before, s, after, hpreorder, hs, hbefore⟩ := List.findSome?_eq_some_iff.mp hflaw
    have hoccurs : ∀ r ∈ before ++ s :: after, Occurs r t := by
      intro r hr
      rw [← hpreorder] at hr
      apply mem_preorder_iff.mp hr
    have hissues : s.ownIssues declared = [flaw.issue] := by
      rw [h.ownIssues_eq (hoccurs s (by simp)), hs]
      rfl
    have hsound : ∀ r ∈ before, r.ownIssues declared = [] := by
      intro r hr
      rw [h.ownIssues_eq (hoccurs r (by simp [hr])), hbefore r hr]
      rfl
    use before, s, after, flaw, hpreorder
    refine ⟨fun r hr => ⟨hbefore r hr, hsound r hr⟩, hs, rfl, hissues, ?_⟩
    rw [issues_eq_flatMap_preorder, hpreorder, List.flatMap_append, List.flatMap_cons, hissues,
      List.flatMap_eq_nil_iff.mpr hsound]
    rfl
  · intro qualify qualify' e
    rw [text_eq_error_iff, text_eq_error_iff]

/-- A type of which the second argument holds an array without dimensions, of a type without a
name, and the third one is a type parameter without a name. -/
def tableOfArrays : TypeExpr :=
  .applied (.plain "Tools" "Table`3") [.array (.parameter "T") 1,
    .byRef (.array (.plain "System" "") 0), .parameter ""]

theorem text_agrees_with_issues_tableOfArrays :
  tableOfArrays.DeclaredBy ["T"]
    ∧ text true tableOfArrays = .error (.invalidType .noDimensions)
    ∧ text false tableOfArrays = .error (.invalidType .noDimensions)
    ∧ (tableOfArrays.issues ["T"]).head? = some .noDimensions
  := by
  have hdeclared : tableOfArrays.DeclaredBy ["T"] := by
    constructor
    · decide
    · intro name hname hne
      have hnames : name = "T" ∨ name = "" := by
        simpa [tableOfArrays, applied, plain, preorder, preorderIn]
          using mem_preorder_iff.mpr hname
      rw [hnames.resolve_right hne]
      exact List.mem_singleton_self _
  have htext : text true tableOfArrays = .error (.invalidType .noDimensions) := rfl
  obtain ⟨-, hfirst, hqualify⟩ := text_agrees_with_issues hdeclared
  obtain ⟨before, s, after, flaw, -, -, -, herror, -, hissues⟩ := hfirst true _ htext
  refine ⟨hdeclared, htext, (hqualify true false _).mp htext, ?_⟩
  rw [hissues]
  cases flaw with
  | noDimensions => rfl
  | emptyName | emptyParameterName => cases herror

end AliasBinding.TypeExpr
