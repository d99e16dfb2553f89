import AliasBinding.Proofs.Verification.Repeats

/-!
# The problems of a list of aliases

Verification reports the problems of each alias in turn, and an alias has none exactly when it
is well formed.  Every problem begins with the name of its alias, and a name that occurs
several times among the parameters of a method is reported once for each occurrence after the
first (`verify_reports_exactly`).
-/

namespace AliasBinding

/-- The wording of a repeated name is no other issue's. -/
theorem Issue.message_inj_of_isRepeat {i j : Issue} (hj : j.IsRepeat) :
  i.message = j.message ↔ i = j
  := by
  constructor
  · intro h
    unfold message at h
    -- issues of different kinds are worded differently from the start
    have hopening := congrArg (fun s => s.toList.take 11) h
    cases j with
    | repeatedParameter name =>
      cases i with
      | repeatedParameter other =>
        simp only [String.append_left_inj, String.append_right_inj] at h
        rw [h]
      | _ => simp at hopening
    | repeatedTypeParameter name =>
      cases i with
      | repeatedTypeParameter other =>
        simp only [String.append_left_inj, String.append_right_inj] at h
        rw [h]
      | _ => simp at hopening
    | _ => cases hj
  · rintro rfl
    rfl

namespace Alias

/-- The problem that an issue of an alias is reported as. -/
def problem (a : Alias) (i : Issue) : String := "`" ++ a.name ++ "`: " ++ i.message

theorem count_problems {a : Alias} {i : Issue} (hi : i.IsRepeat) :
  a.problems.count (a.problem i) = a.issues.count i
  := by
  rw [problems, List.count_eq_countP, List.countP_map, List.count_eq_countP]
  apply List.countP_congr
  intro j _
  simp only [Function.comp_apply, problem, beq_iff_eq, String.append_right_inj,
    Issue.message_inj_of_isRepeat hi]

theorem count_issues_of_isRepeat {a : Alias} {i : Issue} (hi : i.IsRepeat) :
  a.issues.count i = a.member.issues.count i
  := by
  have hname : Issue.aliasName ≠ i := by
    rintro rfl
    apply hi
  have hnamespace : Issue.blankNamespace ≠ i := by
    rintro rfl
    apply hi
  simp [issues, Issue.count_when, hname, hnamespace]

/-- Verification reports the problems of the aliases in turn, and nothing exactly when all are
well formed.  A problem begins with the name of its alias in backticks; an alias has none
exactly when it is well formed; and of the occurrences of a name among the parameters of a
method, or among its type parameters, all but the first are reported. -/
theorem verify_reports_exactly (aliases : List Alias) :
  verify aliases = aliases.flatMap problems
    ∧ (verify aliases = [] ↔ ∀ a ∈ aliases, a.WellFormed)
    ∧ ∀ a : Alias,
      (∀ p ∈ a.problems, ∃ wording, p = "`" ++ a.name ++ "`" ++ wording)
      ∧ (a.problems = [] ↔ a.WellFormed)
      ∧ ∀ m, a.member = .method m → ∀ name,
        a.problems.count ("`" ++ a.name ++ "`: " ++ ("duplicate parameter `" ++ name ++ "`"))
            = (m.parameters.map (·.name)).count name - 1
          ∧ a.problems.count
              ("`" ++ a.name ++ "`: " ++ ("duplicate generic parameter `" ++ name ++ "`"))
            = (m.typeParameters.map (·.name)).count name - 1
  := by
  use rfl, verify_eq_nil_iff
  intro a
  refine ⟨?_, problems_eq_nil_iff, ?_⟩
  · intro p hp
    obtain ⟨i, -, rfl⟩ := List.mem_map.mp hp
    use ": " ++ i.message
    have hcolon : "`: " = "`" ++ ": " := by decide
    rw [hcolon, ← String.append_assoc, ← String.append_assoc]
  · intro m hm name
    have hparameter : (Issue.repeatedParameter name).IsRepeat := trivial
    have htypeParameter : (Issue.repeatedTypeParameter name).IsRepeat := trivial
    constructor
    · apply Eq.trans (count_problems hparameter)
      rw [count_issues_of_isRepeat hparameter, hm]
      apply m.count_issues_parameter
    · apply Eq.trans (count_problems htypeParameter)
      rw [count_issues_of_isRepeat htypeParameter, hm]
      apply m.count_issues_typeParameter

/-- A method that has a receiver and three parameters of one name. -/
def threeOfOneName : Alias :=
  let x := Parameter.plain "x" (.plain "System" "Int32")
  ((((ofMethod "Get" (.plain "Tools" "ToolAliases") .void).withParameter
    (.receiver "context" (.plain "Core" "Context"))).withParameter x).withParameter
    x).withParameter x

theorem verify_reports_exactly_threeOfOneName :
  threeOfOneName.problems.count
    ("`" ++ threeOfOneName.name ++ "`: " ++ ("duplicate parameter `" ++ "x" ++ "`")) = 2
  := by
  apply (((verify_reports_exactly [threeOfOneName]).2.2 threeOfOneName).2.2 _ rfl "x").1

end Alias

end AliasBinding
