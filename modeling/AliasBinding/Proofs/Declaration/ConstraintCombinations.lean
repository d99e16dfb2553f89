import AliasBinding.Proofs.Declaration.WhereClauses
import AliasBinding.Verification

/-!
# Combinations of constraints

A type parameter can be constrained to reference types or to value types, once, and value types have
a constructor anyway, so `struct` and `new()` exclude each other.  Neither verification nor the
declaration of a method looks at the combination: the constraints that are no supertypes can be
changed at will, and the method stays verified and declared.  So the where clauses of a method are
legal exactly when the constraints of its type parameters are, as they are read in the clauses
(`Method.where_clauses_legal_iff`).
-/

namespace AliasBinding

open Text

/-! ### Legal combinations -/

/-- At most one item of the clause is `class` or `struct`, and `new()` does not stand with
`struct`. -/
structure WhereClause.IsLegal (w : WhereClause) : Prop where
  kind_once : w.items.countP (fun item => item = "class" ∨ item = "struct") ≤ 1
  not_both : "struct" ∈ w.items → "new()" ∉ w.items

namespace Constraint

/-- At most one of the constraints is to reference or to value types, and a constructor is not
demanded of value types. -/
structure AreLegal (cs : List Constraint) : Prop where
  kind_once : (inGroup .kind cs).length ≤ 1
  not_both : .value ∈ cs → .constructible ∉ cs

theorem areLegal_iff {cs : List Constraint} :
  AreLegal cs ↔ (inGroup .kind cs).length ≤ 1
    ∧ ¬ (cs.any (· matches .value) ∧ cs.any isConstructible)
  := by
  have hvalue : ∀ c : Constraint, (c matches .value) = true ↔ c = .value := by
    intro c
    cases c with
    | reference | value | constructible | subtype => simp
  have hconstructible : ∀ c : Constraint, c.isConstructible = true ↔ c = .constructible := by
    intro c
    cases c with
    | reference | value | constructible | subtype => simp [isConstructible]
  simp only [List.any_eq_true, hvalue, hconstructible, exists_eq_right, not_and]
  exact ⟨fun h => ⟨h.kind_once, h.not_both⟩, fun h => ⟨h.1, h.2⟩⟩

instance : DecidablePred AreLegal := fun _ => decidable_of_iff _ areLegal_iff.symm

theorem areLegal_nil :
  AreLegal []
  := ⟨Nat.zero_le 1, nofun⟩

/-- The constraint that the item of a constraint is read as.  It is another one only for a supertype
that is written like a keyword. -/
def read (qualify : Bool) (c : Constraint) : Constraint :=
  if c.text qualify = .ok "class" then .reference
  else if c.text qualify = .ok "struct" then .value
  else if c.text qualify = .ok "new()" then .constructible
  else c

section Reading

variable {qualify : Bool} {c : Constraint}

/-- A constraint is read as one to reference types exactly when its item says so, and likewise for
the other keywords. -/
theorem read_eq_iff :
  (c.read qualify = .reference ↔ c.text qualify = .ok "class")
    ∧ (c.read qualify = .value ↔ c.text qualify = .ok "struct")
    ∧ (c.read qualify = .constructible ↔ c.text qualify = .ok "new()")
  := by
  rw [read]
  by_cases hclass : c.text qualify = .ok "class"
  · simp [hclass]
  by_cases hstruct : c.text qualify = .ok "struct"
  · simp [hstruct]
  by_cases hnew : c.text qualify = .ok "new()"
  · simp [hnew]
  rw [if_neg hclass, if_neg hstruct, if_neg hnew]
  cases c with
  | reference => exact absurd rfl hclass
  | value => exact absurd rfl hstruct
  | constructible => exact absurd rfl hnew
  | subtype t => simp [hclass, hstruct, hnew]

theorem group_read_eq_kind_iff :
  (c.read qualify).group = .kind ↔ c.text qualify = .ok "class" ∨ c.text qualify = .ok "struct"
  := by
  rw [← read_eq_iff.1, ← read_eq_iff.2.1]
  cases c.read qualify with
  | reference | value | constructible | subtype => simp [group]

end Reading

/-- Whether the text of a constraint is `class` or `struct`. -/
def isKindText (text : Except DeclarationError String) : Bool :=
  text = .ok "class" ∨ text = .ok "struct"

/-- What does not count constructor constraints counts as many of the constraints as of the arranged
ones. -/
theorem countP_arranged {P : Constraint → Bool} (hP : P .constructible = false)
    (cs : List Constraint) :
  (arranged cs).countP P = cs.countP P
  := by
  have hchange : ∀ {cs cs'}, Change cs cs' → cs.countP P = cs'.countP P := by
    intro cs cs' h
    cases h with
    | exchange before after h =>
      simp only [List.countP_append, List.countP_cons]
      omega
    | repeated before between after => simp [List.countP_append, hP]
  exact ((sameClause_arranged cs).apply_eq hchange).symm

end Constraint

namespace TypeParameter

namespace IsWhereClause

variable {qualify : Bool} {p : TypeParameter} {w : WhereClause} (h : p.IsWhereClause qualify w)

include h

theorem map_text_arranged :
  (Constraint.arranged p.constraints).map (Constraint.text qualify) = w.items.map .ok
  := by
  rw [← List.forall₂_eq_eq_eq, List.forall₂_map_left_iff, List.forall₂_map_right_iff]
  exact h.items_text

theorem mem_items_iff {item : String} :
  item ∈ w.items ↔ ∃ c ∈ p.constraints, c.text qualify = .ok item
  := by
  have hok : item ∈ w.items ↔ .ok item ∈ w.items.map (Except.ok (ε := DeclarationError)) := by
    simp
  rw [hok, ← h.map_text_arranged, List.mem_map]
  simp only [Constraint.mem_arranged_iff]

/-- The constraints read as a keyword are those whose items are this keyword. -/
theorem mem_map_read_iff {d : Constraint} {keyword : String}
    (hd : ∀ {c}, Constraint.read qualify c = d ↔ c.text qualify = .ok keyword) :
  d ∈ p.constraints.map (Constraint.read qualify) ↔ keyword ∈ w.items
  := by
  rw [h.mem_items_iff, List.mem_map]
  simp only [hd]

/-- The clause has as many items `class` and `struct` as constraints are read as one of them. -/
theorem countP_items :
  w.items.countP (fun item => item = "class" ∨ item = "struct")
    = (Constraint.inGroup .kind (p.constraints.map (Constraint.read qualify))).length
  := by
  have hitems : w.items.countP (fun item => item = "class" ∨ item = "struct")
      = (w.items.map .ok).countP Constraint.isKindText := by
    rw [List.countP_map]
    congr 1
    funext item
    simp [Constraint.isKindText]
  rw [hitems, ← h.map_text_arranged, List.countP_map, Constraint.countP_arranged rfl,
    Constraint.inGroup, ← List.countP_eq_length_filter, List.countP_map]
  congr 1
  funext c
  simp [Constraint.isKindText, Constraint.group_read_eq_kind_iff]

/-- A where clause is legal exactly when the constraints are, as they are read in it. -/
theorem isLegal_iff :
  w.IsLegal ↔ Constraint.AreLegal (p.constraints.map (Constraint.read qualify))
  := by
  have hvalue := h.mem_map_read_iff Constraint.read_eq_iff.2.1
  have hconstructible := h.mem_map_read_iff Constraint.read_eq_iff.2.2
  constructor
  · rintro ⟨honce, hboth⟩
    exact ⟨h.countP_items ▸ honce, by rwa [hvalue, hconstructible]⟩
  · rintro ⟨honce, hboth⟩
    rw [hvalue, hconstructible] at hboth
    exact ⟨h.countP_items.symm ▸ honce, hboth⟩

end IsWhereClause

/-- The clauses of type parameters are legal exactly when the constraints of the type parameters
are: those without constraints have no clause, and are legal. -/
theorem forall_isLegal_iff {qualify : Bool} {ps : List TypeParameter} {ws : List WhereClause}
    (h : List.Forall₂ (IsWhereClause qualify) (ps.filter isConstrained) ws) :
  (∀ w ∈ ws, w.IsLegal)
    ↔ ∀ p ∈ ps, Constraint.AreLegal (p.constraints.map (Constraint.read qualify))
  := by
  induction ps generalizing ws with
  | nil =>
    cases h
    simp
  | cons p ps ih =>
    rw [List.forall_mem_cons]
    cases hconstraints : p.constraints with
    | nil =>
      rw [List.filter_cons_of_neg (by simp [isConstrained, hconstraints])] at h
      rw [ih h, List.map_nil]
      exact (and_iff_right Constraint.areLegal_nil).symm
    | cons c cs =>
      rw [List.filter_cons_of_pos (by simp [isConstrained, hconstraints])] at h
      obtain ⟨w, ws, hw, hws, rfl⟩ := List.forall₂_cons_left_iff.mp h
      rw [List.forall_mem_cons, ih hws, hw.isLegal_iff, hconstraints]

/-! ### Constraints that nothing looks at -/

/-- The type parameters have the same name and are constrained to the same supertypes. -/
structure SameTypes (p p' : TypeParameter) : Prop where
  name_eq : p'.name = p.name
  types_eq : p'.types = p.types

/-- Of the constraints of a type parameter, verification looks at the supertypes. -/
theorem constraintIssues_eq (declared : List String) (p : TypeParameter) :
  p.constraintIssues declared = p.types.flatMap (·.issues declared)
  := by
  rw [constraintIssues, types]
  induction p.constraints with
  | nil => rfl
  | cons c cs ih =>
    rw [List.flatMap_cons, ih]
    cases c with
    | reference | value | constructible | subtype => rfl

/-- A type parameter has a where clause, or needs none, exactly when its supertypes have texts. -/
theorem exists_clause?_iff {qualify : Bool} {p : TypeParameter} :
  (∃ clause, p.clause? qualify = .ok clause) ↔ ∀ t ∈ p.types, ∃ text, t.text qualify = .ok text
  := by
  rw [clause?]
  cases hconstraints : p.constraints with
  | nil =>
    have hnothing : ∃ clause, (pure none : Except DeclarationError (Option String)) = .ok clause :=
      ⟨none, rfl⟩
    simpa [types, hconstraints] using hnothing
  | cons c cs =>
    rw [if_neg (by simp), exists_bind_pure_eq_ok_iff, Constraint.items, exists_bind_pure_eq_ok_iff,
      exists_mapM_eq_ok_iff, types, hconstraints]

section Same

variable {ps ps' : List TypeParameter} (h : List.Forall₂ SameTypes ps ps')

include h

theorem map_name_eq_of_sameTypes :
  ps'.map (·.name) = ps.map (·.name)
  := by
  induction h with
  | nil => rfl
  | cons hp _ ih => rw [List.map_cons, List.map_cons, hp.name_eq, ih]

theorem issues_eq_of_sameTypes (seen : List String) :
  issues seen ps' = issues seen ps
  := by
  induction h generalizing seen with
  | nil => rfl
  | cons hp _ ih => rw [issues, issues, hp.name_eq, ih]

theorem flatMap_constraintIssues_eq_of_sameTypes (declared : List String) :
  ps'.flatMap (·.constraintIssues declared) = ps.flatMap (·.constraintIssues declared)
  := by
  induction h with
  | nil => rfl
  | cons hp _ ih =>
    rw [List.flatMap_cons, List.flatMap_cons, ih, constraintIssues_eq, constraintIssues_eq,
      hp.types_eq]

theorem exists_clauses_iff_of_sameTypes {qualify : Bool} :
  (∃ clauses, ps'.mapM (clause? qualify) = .ok clauses)
    ↔ ∃ clauses, ps.mapM (clause? qualify) = .ok clauses
  := by
  rw [exists_mapM_eq_ok_iff, exists_mapM_eq_ok_iff]
  simp only [exists_clause?_iff]
  induction h with
  | nil => rfl
  | cons hp _ ih => rw [List.forall_mem_cons, List.forall_mem_cons, hp.types_eq, ih]

end Same

end TypeParameter

namespace Method

section Same

variable {m : Method} {ps : List TypeParameter}
  (h : List.Forall₂ TypeParameter.SameTypes m.typeParameters ps)

include h

/-- Verification reports the same for methods that differ in other constraints than supertypes. -/
theorem verify_eq_of_sameTypes (namespaces : NameSet) :
  Alias.verify [⟨namespaces, .method { m with typeParameters := ps }⟩]
    = Alias.verify [⟨namespaces, .method m⟩]
  := by
  have hissues : ({ m with typeParameters := ps } : Method).issues = m.issues := by
    simp only [issues, hasReceiver, TypeParameter.map_name_eq_of_sameTypes h,
      TypeParameter.issues_eq_of_sameTypes h,
      TypeParameter.flatMap_constraintIssues_eq_of_sameTypes h]
  simp only [Alias.verify, List.flatMap_cons, List.flatMap_nil, Alias.problems, Alias.issues,
    Alias.name, Member.name, Member.issues, hissues]

/-- Whether a method is declared depends on no other constraints than supertypes. -/
theorem exists_declares_iff_of_sameTypes (style : Style) (namespaces : NameSet) :
  (∃ text, (⟨namespaces, .method { m with typeParameters := ps }⟩ : Alias).Declares style text)
    ↔ ∃ text, (⟨namespaces, .method m⟩ : Alias).Declares style text
  := by
  have hlist : (∃ text, TypeParameter.listText ps = .ok text)
      ↔ ∃ text, TypeParameter.listText m.typeParameters = .ok text := by
    have hnames : ∀ {ps : List TypeParameter}, (∀ p ∈ ps, isIdentifier p.name = true)
        ↔ ∀ name ∈ ps.map (·.name), isIdentifier name = true := by
      intro ps
      rw [List.forall_mem_map]
    rw [TypeParameter.exists_listText_iff, TypeParameter.exists_listText_iff, hnames, hnames,
      TypeParameter.map_name_eq_of_sameTypes h]
  rw [Alias.exists_declares_iff, Alias.exists_declares_iff]
  simp only [Member.draft, outcome_draft, bind_const_eq_ok_iff, hlist,
    TypeParameter.exists_clauses_iff_of_sameTypes h]
  rfl

end Same

/-- The where clauses of a declaration are legal exactly when the constraints of the type
parameters are, as they are read in the clauses.  Nothing but the supertypes among the constraints
is looked at: methods that differ in other constraints are verified and declared alike. -/
theorem where_clauses_legal_iff (style : Style) (m : Method) (namespaces : NameSet) :
  (∀ text, (⟨namespaces, .method m⟩ : Alias).Declares style text →
    ∃ d clauses, m.parts style = .ok d ∧ text = Line.join style d.lines
      ∧ d.HasClauses style m clauses
      ∧ ((∀ w ∈ clauses, w.IsLegal) ↔ ∀ p ∈ m.typeParameters,
        Constraint.AreLegal (p.constraints.map (Constraint.read style.qualify))))
    ∧ ∀ ps, List.Forall₂ TypeParameter.SameTypes m.typeParameters ps →
      Alias.verify [⟨namespaces, .method { m with typeParameters := ps }⟩]
          = Alias.verify [⟨namespaces, .method m⟩]
        ∧ ((∃ text, (⟨namespaces, .method { m with typeParameters := ps }⟩ : Alias).Declares style
            text)
          ↔ ∃ text, (⟨namespaces, .method m⟩ : Alias).Declares style text)
  := by
  constructor
  · intro text h
    obtain ⟨d, hd, rfl⟩ := declares_iff.mp h
    obtain ⟨clauses, hclauses⟩ := exists_hasClauses hd
    refine ⟨d, clauses, hd, rfl, hclauses, ?_⟩
    exact TypeParameter.forall_isLegal_iff hclauses.isWhereClause
  · intro ps h
    exact ⟨verify_eq_of_sameTypes h namespaces, exists_declares_iff_of_sameTypes h style namespaces⟩

end Method

/-- A method with a constrained type parameter. -/
def creation (cs : List Constraint) : Method where
  name := "Create"
  owner := .plain "Tools" "ToolAliases"
  result := .parameter "T"
  parameters := [.receiver "context" (.plain "Core" "IContext")]
  typeParameters := [⟨"T", cs⟩]
  obsolete? := none

/-- The declaration of the method with these items in its where clause. -/
def creationText (items : String) : String :=
  "public T Create<T>()\n    where T : " ++ items
    ++ "\n\x7b\n    return Tools.ToolAliases.Create<T>(Context);\n\x7d"

theorem Method.where_clauses_legal_iff_creation :
  ((⟨.empty, .method (creation [.value, .constructible])⟩ : Alias).Declares {}
      (creationText "struct, new()")
    ∧ ∃ d clauses, (creation [.value, .constructible]).parts {} = .ok d
      ∧ creationText "struct, new()" = Line.join {} d.lines
      ∧ d.HasClauses {} (creation [.value, .constructible]) clauses
      ∧ ¬ ∀ w ∈ clauses, w.IsLegal)
    ∧ List.Forall₂ TypeParameter.SameTypes [⟨"T", [.value, .constructible]⟩] [⟨"T", [.reference]⟩]
    ∧ Alias.verify [⟨.empty, .method (creation [.reference])⟩]
      = Alias.verify [⟨.empty, .method (creation [.value, .constructible])⟩]
  := by
  have hdeclares : (⟨.empty, .method (creation [.value, .constructible])⟩ : Alias).Declares {}
      (creationText "struct, new()") := by
    apply Alias.declaration_eq_ok_iff.mp
    decide +kernel
  have hsame : List.Forall₂ TypeParameter.SameTypes [⟨"T", [.value, .constructible]⟩]
      [⟨"T", [.reference]⟩] := .cons ⟨rfl, rfl⟩ .nil
  obtain ⟨d, clauses, hd, htext, hclauses, hlegal⟩ :=
    (where_clauses_legal_iff {} (creation [.value, .constructible]) .empty).1 _ hdeclares
  refine ⟨⟨hdeclares, d, clauses, hd, htext, hclauses, ?_⟩, hsame, ?_⟩
  · rw [hlegal]
    decide +kernel
  · exact ((where_clauses_legal_iff {} (creation [.value, .constructible]) .empty).2 _ hsame).1

/-- The verified method is declared with a where clause that is not legal. -/
structure Method.IsDeclaredIllegally (style : Style) (m : Method) (text : String) : Prop where
  verified : Alias.verify [⟨.empty, .method m⟩] = []
  declares : (⟨.empty, .method m⟩ : Alias).Declares style text
  illegal : ∃ d clauses, m.parts style = .ok d ∧ text = Line.join style d.lines
    ∧ d.HasClauses style m clauses ∧ ∃ w ∈ clauses, ¬ w.IsLegal

/-- A verified method is declared illegally when the constraints of its type parameters are not
legal. -/
theorem Method.isDeclaredIllegally_of {style : Style} {m : Method} {text : String}
    (verified : Alias.verify [⟨.empty, .method m⟩] = [])
    (declares : (⟨.empty, .method m⟩ : Alias).Declares style text)
    (illegal : ¬ ∀ p ∈ m.typeParameters,
      Constraint.AreLegal (p.constraints.map (Constraint.read style.qualify))) :
  m.IsDeclaredIllegally style text
  := by
  obtain ⟨d, hd, htext⟩ := declares_iff.mp declares
  obtain ⟨clauses, hclauses⟩ := exists_hasClauses hd
  rw [← TypeParameter.forall_isLegal_iff hclauses.isWhereClause] at illegal
  push Not at illegal
  exact ⟨verified, declares, d, clauses, hd, htext.symm, hclauses, illegal⟩

/-- A constructor can be demanded of value types, values and references of the same types, and
references twice. -/
theorem illegal_clauses_are_declared :
  (creation [.constructible, .value]).IsDeclaredIllegally {} (creationText "struct, new()")
    ∧ (creation [.reference, .value]).IsDeclaredIllegally {} (creationText "class, struct")
    ∧ (creation [.reference, .reference]).IsDeclaredIllegally {} (creationText "class, class")
  := by
  refine ⟨?both, ?kinds, ?twice⟩
  all_goals
    apply Method.isDeclaredIllegally_of
    case verified => decide
    case declares =>
      apply Alias.declaration_eq_ok_iff.mp
      decide +kernel
    case illegal => decide +kernel

end AliasBinding
