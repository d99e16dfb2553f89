import AliasBinding.Proofs.Verification.WellFormed
import Mathlib.Data.List.Count

/-!
# The issues of an alias

An alias has no issue exactly when it is well formed.  The issues are found in one walk over
the alias; each part of the walk is compared with the part of `Alias.WellFormed` that it looks
at, lists of parameters by induction with the names that were seen before.
-/

namespace AliasBinding

@[simp]
theorem Issue.when_eq_nil_iff {condition : Bool} {issue : Issue} :
  Issue.when condition issue = [] ↔ condition = false
  := by
  cases condition with
  | true => simp [Issue.when]
  | false => simp [Issue.when]

/-! ### Types -/

namespace TypeExpr

/-- The issues of a type, the types in it apart. -/
def ownIssues (declared : List String) : TypeExpr → List Issue
  | .named _ name _ _ => Issue.when (name == "") .unnamedType
  | .parameter name => Issue.when (!declared.contains name) (.undeclaredTypeParameter name)
  | .array _ rank => Issue.when (rank == 0) .noDimensions
  | .nullable _ | .byRef _ => []

mutual

/-- The issues of the types in a type are found in reading order. -/
theorem issues_eq_flatMap_preorder (declared : List String) :
  ∀ t : TypeExpr, t.issues declared = t.preorder.flatMap (ownIssues declared)
  | .named ns name arguments isValue => by
    rw [issues, preorder, List.flatMap_cons, issuesIn_eq_flatMap_preorderIn declared arguments]
    rfl
  | .parameter name => by
    rw [issues, preorder, List.flatMap_singleton]
    rfl
  | .array element rank => by
    rw [issues, preorder, List.flatMap_cons, issues_eq_flatMap_preorder declared element]
    rfl
  | .nullable inner => by
    rw [issues, preorder, List.flatMap_cons, issues_eq_flatMap_preorder declared inner]
    rfl
  | .byRef inner => by
    rw [issues, preorder, List.flatMap_cons, issues_eq_flatMap_preorder declared inner]
    rfl

theorem issuesIn_eq_flatMap_preorderIn (declared : List String) :
  ∀ ts : List TypeExpr, issuesIn declared ts = (preorderIn ts).flatMap (ownIssues declared)
  | [] => by rw [issuesIn, preorderIn, List.flatMap_nil]
  | t :: ts => by
    rw [issuesIn, preorderIn, List.flatMap_append, issues_eq_flatMap_preorder declared t,
      issuesIn_eq_flatMap_preorderIn declared ts]

end

/-- An issue of a type is an issue of a type that occurs in it. -/
theorem mem_issues_iff {declared : List String} {t : TypeExpr} {i : Issue} :
  i ∈ t.issues declared ↔ ∃ s, Occurs s t ∧ i ∈ s.ownIssues declared
  := by
  simp only [issues_eq_flatMap_preorder, List.mem_flatMap, mem_preorder_iff]

theorem ownIssues_eq_nil_iff {declared : List String} {t : TypeExpr} :
  t.ownIssues declared = [] ↔ t.IsSound declared
  := by
  cases t with
  | named => simp [ownIssues, IsSound]
  | parameter => simp [ownIssues, IsSound]
  | array => simp [ownIssues, IsSound, one_le_toNat_iff]
  | nullable | byRef => simp [ownIssues, IsSound]

/-- A type has no issue exactly when it is well formed. -/
theorem issues_eq_nil_iff (declared : List String) (t : TypeExpr) :
  t.issues declared = [] ↔ t.WellFormed declared
  := by
  simp only [issues_eq_flatMap_preorder, List.flatMap_eq_nil_iff, mem_preorder_iff,
    ownIssues_eq_nil_iff, WellFormed]

theorem isVoid_eq_false_iff {t : TypeExpr} :
  t.isVoid = false ↔ ∀ isValue, t ≠ .named (some "System") "Void" [] isValue
  := by rw [← Bool.not_eq_true, isVoid_iff, not_exists]

theorem isArray_iff {t : TypeExpr} :
  t.isArray = true ↔ ∃ element rank, t = .array element rank
  := by
  cases t with
  | array element rank => simp [isArray]
  | named ns name arguments isValue => simp [isArray]
  | parameter name => simp [isArray]
  | nullable inner => simp [isArray]
  | byRef inner => simp [isArray]

end TypeExpr

/-! ### Names -/

/-- The names are distinct from each other and from the names `seen`. -/
def Fresh (seen names : List String) : Prop := names.Nodup ∧ ∀ name ∈ names, name ∉ seen

theorem fresh_nil_left {names : List String} :
  Fresh [] names ↔ names.Nodup
  := by
  simp [Fresh]

/-- Of names that are distinct, each can be added to the names seen before the next. -/
theorem fresh_cons {seen names : List String} {name : String} :
  Fresh seen (name :: names) ↔ name ∉ seen ∧ Fresh (name :: seen) names
  := by
  rw [Fresh, Fresh, List.nodup_cons, List.forall_mem_cons]
  simp only [List.mem_cons, not_or]
  constructor
  · rintro ⟨⟨hname, hnames⟩, hseen, hnames'⟩
    use hseen, hnames
    intro other hother
    constructor
    · rintro rfl
      apply hname hother
    · apply hnames' other hother
  · rintro ⟨hseen, hnames, h⟩
    constructor
    · use fun hname => (h name hname).1 rfl, hnames
    · use hseen, fun other hother => (h other hother).2

/-! ### Type parameters -/

namespace TypeParameter

/-- Type parameters after those with the names `seen` have no issue exactly when their names
are identifiers, distinct from each other and from the names seen. -/
theorem issues_eq_nil_iff {seen : List String} {ps : List TypeParameter} :
  issues seen ps = [] ↔ (∀ p ∈ ps, Text.isIdentifier p.name = true)
    ∧ Fresh seen (ps.map (·.name))
  := by
  induction ps generalizing seen with
  | nil => simp [issues, Fresh]
  | cons p ps ih =>
    rw [issues, List.append_eq_nil_iff, List.append_eq_nil_iff, Issue.when_eq_nil_iff,
      Issue.when_eq_nil_iff, ih, List.forall_mem_cons, List.map_cons, fresh_cons,
      Bool.not_eq_false', List.contains_eq_mem, decide_eq_false_iff_not]
    tauto

theorem constraintIssues_eq_nil_iff {declared : List String} {p : TypeParameter} :
  p.constraintIssues declared = []
    ↔ ∀ t, .subtype t ∈ p.constraints → t.WellFormed declared
  := by
  rw [constraintIssues, List.flatMap_eq_nil_iff]
  constructor
  · intro h t ht
    apply (t.issues_eq_nil_iff declared).mp (h _ ht)
  · intro h c hc
    cases c with
    | subtype t => apply (t.issues_eq_nil_iff declared).mpr (h t hc)
    | reference => rfl
    | value => rfl
    | constructible => rfl

end TypeParameter

/-! ### Parameters -/

namespace Parameter

/-- What is asked of how a parameter is passed, given whether it comes first and whether it
comes last. -/
def PassedWell (p : Parameter) (isFirst isLast : Prop) : Prop :=
  (p.passing = .receiver → isFirst)
    ∧ (p.passing = .rest → isLast ∧ ∃ element rank, p.type = .array element rank)

theorem passingIssues_eq_nil_iff {p : Parameter} {isFirst isLast : Bool} :
  p.passingIssues isFirst isLast = [] ↔ p.PassedWell (isFirst = true) (isLast = true)
  := by
  rw [PassedWell, ← TypeExpr.isArray_iff, passingIssues]
  cases p.passing with
  | receiver => simp
  | rest =>
    cases isLast with
    | true => simp
    | false => simp
  | value => simp
  | reference => simp
  | output => simp
  | input => simp

/-- Every parameter of the list is passed well, where the flag says whether the list is the
beginning of a parameter list. -/
def AllPassedWell (isFirst : Prop) (ps : List Parameter) : Prop :=
  ∀ before p after, ps = before ++ p :: after →
    p.PassedWell (isFirst ∧ before = []) (after = [])

theorem allPassedWell_cons {isFirst : Prop} {p : Parameter} {ps : List Parameter} :
  AllPassedWell isFirst (p :: ps)
    ↔ p.PassedWell isFirst (ps = []) ∧ AllPassedWell False ps
  := by
  constructor
  · intro h
    constructor
    · simpa using h [] p ps rfl
    · intro before q after hps
      simpa using h (p :: before) q after (congrArg (p :: ·) hps)
  · rintro ⟨hp, hps⟩ before q after h
    cases before with
    | nil =>
      obtain ⟨rfl, rfl⟩ := List.cons.inj h
      simpa using hp
    | cons p' before =>
      obtain ⟨rfl, rfl⟩ := List.cons.inj h
      simpa using hps before q after rfl

/-- Parameters after those with the names `seen` have no issue exactly when their names are
identifiers, distinct from each other and from the names seen, and they are passed well and
of well-formed types. -/
theorem issues_eq_nil_iff {declared seen : List String} {isFirst : Bool}
    {ps : List Parameter} :
  issues declared seen isFirst ps = [] ↔ (∀ p ∈ ps, Text.isIdentifier p.name = true)
    ∧ Fresh seen (ps.map (·.name)) ∧ AllPassedWell (isFirst = true) ps
    ∧ ∀ p ∈ ps, p.type.WellFormed declared
  := by
  induction ps generalizing seen isFirst with
  | nil => simp [issues, Fresh, AllPassedWell]
  | cons p ps ih =>
    simp only [issues, List.append_eq_nil_iff, Issue.when_eq_nil_iff, ih, List.forall_mem_cons,
      List.map_cons, fresh_cons, Bool.not_eq_false', List.contains_eq_mem,
      decide_eq_false_iff_not, passingIssues_eq_nil_iff, TypeExpr.issues_eq_nil_iff,
      allPassedWell_cons, List.isEmpty_iff, Bool.false_eq_true]
    tauto

/-- A whole parameter list is passed well when the receiver comes only first, and the rest of
the arguments only last and as an array. -/
theorem allPassedWell_true_iff {ps : List Parameter} :
  AllPassedWell True ps ↔ (∀ p ∈ ps.tail, p.passing ≠ .receiver)
    ∧ (∀ before p after, ps = before ++ p :: after → p.passing = .rest → after = [])
    ∧ ∀ p ∈ ps, p.passing = .rest → ∃ element rank, p.type = .array element rank
  := by
  constructor
  · intro h
    refine ⟨?_, ?_, ?_⟩
    · intro p hp hpassing
      obtain ⟨before, after, hps⟩ := List.append_of_mem hp
      cases ps with
      | nil => cases hp
      | cons first ps =>
        have hfirst := h (first :: before) p after (congrArg (first :: ·) hps)
        simpa using hfirst.1 hpassing
    · intro before p after hps hpassing
      apply ((h before p after hps).2 hpassing).1
    · intro p hp hpassing
      obtain ⟨before, after, hps⟩ := List.append_of_mem hp
      apply ((h before p after hps).2 hpassing).2
  · rintro ⟨hreceiver, hlast, harray⟩ before p after rfl
    constructor
    · intro hpassing
      cases before with
      | nil => simp
      | cons first before =>
        apply absurd hpassing
        apply hreceiver
        simp
    · intro hpassing
      constructor
      · apply hlast before p after rfl hpassing
      · apply harray p _ hpassing
        simp

end Parameter

/-! ### Members and aliases -/

theorem Method.hasReceiver_iff {m : Method} :
  m.hasReceiver = true
    ↔ ∃ receiver rest, m.parameters = receiver :: rest ∧ receiver.passing = .receiver
  := by
  unfold hasReceiver
  cases m.parameters with
  | nil => simp
  | cons p ps => simp

/-- A method has no issue exactly when it is well formed. -/
theorem Method.issues_eq_nil_iff {m : Method} :
  m.issues = [] ↔ m.WellFormed
  := by
  simp only [issues, List.append_eq_nil_iff, TypeParameter.issues_eq_nil_iff,
    Issue.when_eq_nil_iff, Bool.not_eq_false', hasReceiver_iff, Parameter.issues_eq_nil_iff,
    fresh_nil_left, Parameter.allPassedWell_true_iff, TypeExpr.issues_eq_nil_iff,
    List.flatMap_eq_nil_iff, TypeParameter.constraintIssues_eq_nil_iff]
  constructor
  · rintro ⟨⟨⟨⟨⟨⟨htnames, htdistinct⟩, hreceiver⟩, hnames, hdistinct, ⟨honly, hlast, harray⟩,
      htypes⟩, hresult⟩, howner⟩, hsupertypes⟩
    exact ⟨htnames, htdistinct, hreceiver, hnames, hdistinct, honly, hlast, harray, htypes,
      hresult, hsupertypes, howner⟩
  · rintro ⟨htnames, htdistinct, hreceiver, hnames, hdistinct, honly, hlast, harray, htypes,
      hresult, hsupertypes, howner⟩
    exact ⟨⟨⟨⟨⟨⟨htnames, htdistinct⟩, hreceiver⟩, hnames, hdistinct, ⟨honly, hlast, harray⟩,
      htypes⟩, hresult⟩, howner⟩, hsupertypes⟩

/-- A property has no issue exactly when it is well formed. -/
theorem Property.issues_eq_nil_iff {p : Property} :
  p.issues = [] ↔ p.WellFormed
  := by
  rw [issues, List.append_eq_nil_iff, List.append_eq_nil_iff, Issue.when_eq_nil_iff,
    TypeExpr.isVoid_eq_false_iff, TypeExpr.issues_eq_nil_iff, TypeExpr.issues_eq_nil_iff]
  constructor
  · rintro ⟨⟨hvoid, htype⟩, howner⟩
    exact ⟨hvoid, htype, howner⟩
  · rintro ⟨hvoid, htype, howner⟩
    exact ⟨⟨hvoid, htype⟩, howner⟩

namespace Alias

/-- An alias has no issue exactly when it is well formed. -/
theorem issues_eq_nil_iff {a : Alias} :
  a.issues = [] ↔ a.WellFormed
  := by
  have hmember : a.member.issues = [] ↔ a.member.WellFormed := by
    cases a.member with
    | method m => apply Method.issues_eq_nil_iff
    | property p => apply Property.issues_eq_nil_iff
  rw [issues, List.append_eq_nil_iff, List.append_eq_nil_iff, Issue.when_eq_nil_iff,
    Issue.when_eq_nil_iff, hmember, Bool.not_eq_false', List.any_eq_false]
  simp only [Text.isBlankText, List.all_eq_true, not_forall, Bool.not_eq_true, exists_prop]
  constructor
  · rintro ⟨⟨hname, hnamespaces⟩, hmember⟩
    exact ⟨hname, hnamespaces, hmember⟩
  · rintro ⟨hname, hnamespaces, hmember⟩
    exact ⟨⟨hname, hnamespaces⟩, hmember⟩

theorem problems_eq_nil_iff {a : Alias} :
  a.problems = [] ↔ a.WellFormed
  := by
  rw [problems, List.map_eq_nil_iff, issues_eq_nil_iff]

theorem verify_eq_nil_iff {aliases : List Alias} :
  verify aliases = [] ↔ ∀ a ∈ aliases, a.WellFormed
  := by
  simp only [verify, List.flatMap_eq_nil_iff, problems_eq_nil_iff]

end Alias

end AliasBinding
