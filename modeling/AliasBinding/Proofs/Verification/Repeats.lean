import AliasBinding.Proofs.Verification.Issues

/-!
# Repeated names

Of the occurrences of a name among the parameters of a method, all but the first are issues,
and so it is for the type parameters (`Method.count_issues_parameter`,
`Method.count_issues_typeParameter`).
-/

namespace AliasBinding

/-! ### Counting -/

/-- How often `name` is met in a list of names when it was met before: the names in `seen`
were. -/
def repeats (seen names : List String) (name : String) : Nat :=
  names.count name - if name ∈ seen then 0 else 1

theorem repeats_nil_left (names : List String) (name : String) :
  repeats [] names name = names.count name - 1
  := by
  simp [repeats]

theorem repeats_cons (seen names : List String) (first name : String) :
  repeats seen (first :: names) name
    = (if first ∈ seen ∧ first = name then 1 else 0) + repeats (first :: seen) names name
  := by
  unfold repeats
  rw [List.count_cons]
  by_cases hfirst : first = name
  · subst hfirst
    by_cases hseen : first ∈ seen
    · simp [hseen, Nat.add_comm]
    · simp [hseen]
  · have hname : name ∈ first :: seen ↔ name ∈ seen := by
      rw [List.mem_cons, or_iff_right]
      intro h
      apply hfirst h.symm
    simp [hfirst, hname]

namespace Issue

@[simp]
theorem mem_when_iff {condition : Bool} {i j : Issue} :
  i ∈ Issue.when condition j ↔ condition = true ∧ i = j
  := by
  cases condition with
  | true => simp [Issue.when]
  | false => simp [Issue.when]

theorem count_when (condition : Bool) (i j : Issue) :
  (Issue.when condition j).count i = if condition = true ∧ j = i then 1 else 0
  := by
  cases condition with
  | true => simp [Issue.when, List.count_singleton]
  | false => simp [Issue.when]

/-- The issue says that a name is repeated. -/
def IsRepeat : Issue → Prop
  | .repeatedTypeParameter _ | .repeatedParameter _ => True
  | .aliasName | .blankNamespace | .typeParameterName _ | .noReceiver | .parameterName _
  | .lateReceiver _ | .restNotLast _ | .restNotArray _ | .voidProperty | .unnamedType
  | .undeclaredTypeParameter _ | .noDimensions => False

end Issue

namespace TypeExpr

/-- No issue of a type is a repeated name. -/
theorem not_isRepeat_of_mem_issues (declared : List String) (t : TypeExpr) {i : Issue}
    (h : i ∈ t.issues declared) :
  ¬ i.IsRepeat
  := by
  obtain ⟨s, -, hi⟩ := mem_issues_iff.mp h
  cases s with
  | named | parameter | array =>
    rw [ownIssues, Issue.mem_when_iff] at hi
    obtain ⟨-, rfl⟩ := hi
    apply id
  | nullable | byRef => cases hi

theorem count_issues_of_isRepeat {declared : List String} {i : Issue} (hi : i.IsRepeat)
    (t : TypeExpr) :
  (t.issues declared).count i = 0
  := by
  apply List.count_eq_zero_of_not_mem
  intro h
  apply t.not_isRepeat_of_mem_issues declared h hi

end TypeExpr

/-! ### Parameters of either kind -/

namespace TypeParameter

theorem count_issues (seen : List String) (ps : List TypeParameter) (name : String) :
  (issues seen ps).count (.repeatedTypeParameter name) = repeats seen (ps.map (·.name)) name
  := by
  induction ps generalizing seen with
  | nil => simp [issues, repeats]
  | cons p ps ih => simp [issues, Issue.count_when, ih, repeats_cons]

theorem count_issues_parameter (seen : List String) (ps : List TypeParameter)
    (name : String) :
  (issues seen ps).count (.repeatedParameter name) = 0
  := by
  induction ps generalizing seen with
  | nil => rfl
  | cons p ps ih => simp [issues, Issue.count_when, ih]

theorem count_constraintIssues {declared : List String} {i : Issue} (hi : i.IsRepeat)
    (ps : List TypeParameter) :
  (ps.flatMap (·.constraintIssues declared)).count i = 0
  := by
  apply List.count_eq_zero_of_not_mem
  intro h
  obtain ⟨p, -, h⟩ := List.mem_flatMap.mp h
  obtain ⟨c, -, h⟩ := List.mem_flatMap.mp h
  cases c with
  | subtype t => apply t.not_isRepeat_of_mem_issues declared h hi
  | reference => cases h
  | value => cases h
  | constructible => cases h

end TypeParameter

namespace Parameter

theorem count_passingIssues {i : Issue} (hi : i.IsRepeat) (p : Parameter)
    (isFirst isLast : Bool) :
  (p.passingIssues isFirst isLast).count i = 0
  := by
  apply List.count_eq_zero_of_not_mem
  intro h
  unfold passingIssues at h
  cases hp : p.passing with
  | receiver =>
    rw [hp, Issue.mem_when_iff] at h
    obtain ⟨-, rfl⟩ := h
    apply hi
  | rest =>
    cases isLast with
    | true =>
      rw [hp, if_pos rfl, Issue.mem_when_iff] at h
      obtain ⟨-, rfl⟩ := h
      apply hi
    | false =>
      rw [hp, if_neg Bool.false_ne_true, List.mem_singleton] at h
      subst h
      apply hi
  | value =>
    rw [hp] at h
    cases h
  | reference =>
    rw [hp] at h
    cases h
  | output =>
    rw [hp] at h
    cases h
  | input =>
    rw [hp] at h
    cases h

theorem count_issues (declared seen : List String) (isFirst : Bool) (ps : List Parameter)
    (name : String) :
  (issues declared seen isFirst ps).count (.repeatedParameter name)
    = repeats seen (ps.map (·.name)) name
  := by
  induction ps generalizing seen isFirst with
  | nil => simp [issues, repeats]
  | cons p ps ih =>
    have hi : (Issue.repeatedParameter name).IsRepeat := trivial
    simp [issues, Issue.count_when, ih, repeats_cons, p.count_passingIssues hi,
      p.type.count_issues_of_isRepeat hi]

theorem count_issues_typeParameter (declared seen : List String) (isFirst : Bool)
    (ps : List Parameter) (name : String) :
  (issues declared seen isFirst ps).count (.repeatedTypeParameter name) = 0
  := by
  induction ps generalizing seen isFirst with
  | nil => rfl
  | cons p ps ih =>
    have hi : (Issue.repeatedTypeParameter name).IsRepeat := trivial
    simp [issues, Issue.count_when, ih, p.count_passingIssues hi,
      p.type.count_issues_of_isRepeat hi]

end Parameter

/-! ### Methods -/

/-- Of the occurrences of a name among the parameters, all but the first are issues. -/
theorem Method.count_issues_parameter (m : Method) (name : String) :
  m.issues.count (.repeatedParameter name) = (m.parameters.map (·.name)).count name - 1
  := by
  have hi : (Issue.repeatedParameter name).IsRepeat := trivial
  simp [issues, Issue.count_when, TypeParameter.count_issues_parameter,
    Parameter.count_issues, TypeExpr.count_issues_of_isRepeat hi,
    TypeParameter.count_constraintIssues hi, repeats_nil_left]

/-- Of the occurrences of a name among the type parameters, all but the first are issues. -/
theorem Method.count_issues_typeParameter (m : Method) (name : String) :
  m.issues.count (.repeatedTypeParameter name)
    = (m.typeParameters.map (·.name)).count name - 1
  := by
  have hi : (Issue.repeatedTypeParameter name).IsRepeat := trivial
  simp [issues, Issue.count_when, TypeParameter.count_issues,
    Parameter.count_issues_typeParameter, TypeExpr.count_issues_of_isRepeat hi,
    TypeParameter.count_constraintIssues hi, repeats_nil_left]

end AliasBinding
