import AliasBinding.Proofs.Declaration.Defaults
import AliasBinding.Proofs.Declaration.SingleLines
import Mathlib.Logic.Relation

/-!
# Where clauses

Each type parameter that is constrained has a where clause, on a line of its own between the header
of a method and its body.  The clause has an item for every constraint, arranged in groups: those to
reference or value types, then the supertypes, and then the constructor constraint, which is
written once (`Constraint.arranged`).  Constraints are arranged alike exactly when they differ in
nothing but the order of groups and the number of constructor constraints
(`Constraint.sameClause_iff`), and then the declaration is the same
(`Method.where_clauses_keep_constraints`).
-/

namespace AliasBinding

open Text

/-! ### Constraints in order -/

namespace Constraint

/-- Where a constraint stands in a where clause. -/
inductive Group where
  | kind
  | supertype
  | constructor
  deriving DecidableEq

/-- The group of a constraint. -/
def group : Constraint → Group
  | .reference | .value => .kind
  | .subtype _ => .supertype
  | .constructible => .constructor

/-- The constraints of a group, in the given order. -/
def inGroup (g : Group) (cs : List Constraint) : List Constraint := cs.filter (·.group = g)

/-- The constraints in the order of a where clause. -/
def arranged (cs : List Constraint) : List Constraint :=
  inGroup .kind cs ++ inGroup .supertype cs ++ (inGroup .constructor cs).take 1

theorem group_eq_constructor_iff {c : Constraint} :
  c.group = .constructor ↔ c = .constructible
  := by
  cases c with
  | constructible => simp [group]
  | reference | value | subtype => simp [group]

theorem mem_inGroup_iff {g : Group} {cs : List Constraint} {c : Constraint} :
  c ∈ inGroup g cs ↔ c ∈ cs ∧ c.group = g
  := by
  rw [inGroup, List.mem_filter, decide_eq_true_eq]

section Cons

variable {g : Group} {c : Constraint} (cs : List Constraint)

theorem inGroup_cons_of_eq (h : c.group = g) :
  inGroup g (c :: cs) = c :: inGroup g cs
  := List.filter_cons_of_pos (decide_eq_true h)

theorem inGroup_cons_of_ne (h : c.group ≠ g) :
  inGroup g (c :: cs) = inGroup g cs
  := List.filter_cons_of_neg (by simpa using h)

end Cons

theorem inGroup_append (g : Group) (cs cs' : List Constraint) :
  inGroup g (cs ++ cs') = inGroup g cs ++ inGroup g cs'
  := List.filter_append _ _

/-- No constraint is lost, and none is added. -/
theorem mem_arranged_iff {cs : List Constraint} {c : Constraint} :
  c ∈ arranged cs ↔ c ∈ cs
  := by
  have hconstructor : c ∈ (inGroup .constructor cs).take 1 ↔ c ∈ inGroup .constructor cs := by
    constructor
    · apply List.mem_of_mem_take
    · intro hc
      have heq : ∀ d ∈ inGroup .constructor cs, d = c := by
        intro d hd
        rw [group_eq_constructor_iff.mp (mem_inGroup_iff.mp hd).2,
          group_eq_constructor_iff.mp (mem_inGroup_iff.mp hc).2]
      cases hgroup : inGroup .constructor cs with
      | nil =>
        rw [hgroup] at hc
        cases hc
      | cons d ds =>
        rw [hgroup] at heq
        rw [heq d List.mem_cons_self]
        apply List.mem_cons_self
  rw [arranged, List.mem_append, List.mem_append, hconstructor, mem_inGroup_iff, mem_inGroup_iff,
    mem_inGroup_iff]
  cases c with
  | reference | value | subtype | constructible => simp [group]

theorem arranged_eq_nil_iff {cs : List Constraint} :
  arranged cs = [] ↔ cs = []
  := by
  rw [List.eq_nil_iff_forall_not_mem, List.eq_nil_iff_forall_not_mem]
  simp only [mem_arranged_iff]

/-! ### The same clause -/

/-- A change of constraints that is none of their clause: two that stand next to each other and
belong to different groups are exchanged, or the constructor constraint is repeated. -/
inductive Change : List Constraint → List Constraint → Prop where
  | exchange (before after : List Constraint) {c d : Constraint} (h : c.group ≠ d.group) :
      Change (before ++ c :: d :: after) (before ++ d :: c :: after)
  | repeated (before between after : List Constraint) :
      Change (before ++ .constructible :: (between ++ after))
        (before ++ .constructible :: (between ++ .constructible :: after))

/-- The constraints become each other by changes that are none of their clause. -/
def SameClause : List Constraint → List Constraint → Prop := Relation.EqvGen Change

theorem Change.arranged_eq {cs cs' : List Constraint} (h : Change cs cs') :
  arranged cs = arranged cs'
  := by
  cases h with
  | exchange before after h =>
    rename_i c d
    have hgroup : ∀ g, inGroup g (before ++ c :: d :: after)
        = inGroup g (before ++ d :: c :: after) := by
      intro g
      rw [inGroup_append, inGroup_append]
      congr 1
      by_cases hc : c.group = g
      · have hd : d.group ≠ g := fun hd => h (hc.trans hd.symm)
        rw [inGroup_cons_of_eq _ hc, inGroup_cons_of_ne _ hd, inGroup_cons_of_ne _ hd,
          inGroup_cons_of_eq _ hc]
      · rw [inGroup_cons_of_ne _ hc]
        by_cases hd : d.group = g
        · rw [inGroup_cons_of_eq _ hd, inGroup_cons_of_eq _ hd, inGroup_cons_of_ne _ hc]
        · rw [inGroup_cons_of_ne _ hd, inGroup_cons_of_ne _ hd, inGroup_cons_of_ne _ hc]
    rw [arranged, arranged, hgroup, hgroup, hgroup]
  | repeated before between after =>
    have hgroup : ∀ g, g ≠ .constructor →
        inGroup g (before ++ .constructible :: (between ++ after))
          = inGroup g (before ++ .constructible :: (between ++ .constructible :: after)) := by
      intro g hg
      have hne : group .constructible ≠ g := hg.symm
      simp only [inGroup_append, inGroup_cons_of_ne _ hne]
    have hfirst : ∀ rest, (inGroup .constructor (before ++ constructible :: rest)).take 1
        = (inGroup .constructor before ++ [constructible]).take 1 := by
      intro rest
      rw [inGroup_append, inGroup_cons_of_eq (g := .constructor) (c := constructible) _ rfl]
      cases inGroup .constructor before with
      | nil => rfl
      | cons c cs => rfl
    rw [arranged, arranged, hgroup .kind nofun, hgroup .supertype nofun, hfirst, hfirst]

/-- What no change makes a difference to is the same for all constraints of the same clause. -/
theorem SameClause.apply_eq {β : Type} {f : List Constraint → β}
    (hf : ∀ {cs cs'}, Change cs cs' → f cs = f cs') {cs cs' : List Constraint}
    (h : SameClause cs cs') :
  f cs = f cs'
  := by
  induction h with
  | rel _ _ h => exact hf h
  | refl _ => rfl
  | symm _ _ _ ih => exact ih.symm
  | trans _ _ _ _ _ ih ih' => exact ih.trans ih'

theorem SameClause.arranged_eq {cs cs' : List Constraint} (h : SameClause cs cs') :
  arranged cs = arranged cs'
  := h.apply_eq Change.arranged_eq

namespace SameClause

variable {cs cs' cs'' : List Constraint}

theorem trans (h : SameClause cs cs') (h' : SameClause cs' cs'') :
  SameClause cs cs''
  := Relation.EqvGen.trans _ _ _ h h'

theorem cons (c : Constraint) (h : SameClause cs cs') :
  SameClause (c :: cs) (c :: cs')
  := by
  induction h with
  | rel _ _ h =>
    apply Relation.EqvGen.rel
    cases h with
    | exchange before after h => exact .exchange (c :: before) after h
    | repeated before between after => exact .repeated (c :: before) between after
  | refl _ => apply Relation.EqvGen.refl
  | symm _ _ _ ih => exact .symm _ _ ih
  | trans _ _ _ _ _ ih ih' => exact ih.trans ih'

/-- A constraint may be moved behind constraints of other groups. -/
theorem move {c : Constraint} {ds : List Constraint} (h : ∀ d ∈ ds, c.group ≠ d.group)
    (rest : List Constraint) :
  SameClause (c :: (ds ++ rest)) (ds ++ c :: rest)
  := by
  induction ds with
  | nil => apply Relation.EqvGen.refl
  | cons d ds ih =>
    rw [List.forall_mem_cons] at h
    have hexchange : SameClause (c :: d :: (ds ++ rest)) (d :: c :: (ds ++ rest)) :=
      .rel _ _ (.exchange [] (ds ++ rest) h.1)
    apply hexchange.trans
    apply cons d (ih h.2)

end SameClause

/-- A constraint in front of arranged ones is moved to its place among them. -/
theorem sameClause_cons_arranged (c : Constraint) (cs : List Constraint) :
  SameClause (c :: arranged cs) (arranged (c :: cs))
  := by
  have hne : ∀ {g}, c.group ≠ g → ∀ d ∈ inGroup g cs, c.group ≠ d.group := by
    intro g h d hd
    rw [(mem_inGroup_iff.mp hd).2]
    exact h
  unfold arranged
  cases hgroup : c.group with
  | kind =>
    rw [inGroup_cons_of_eq _ hgroup, inGroup_cons_of_ne _ (by simp [hgroup]),
      inGroup_cons_of_ne _ (by simp [hgroup])]
    apply Relation.EqvGen.refl
  | supertype =>
    rw [inGroup_cons_of_ne _ (by simp [hgroup]), inGroup_cons_of_eq _ hgroup,
      inGroup_cons_of_ne _ (by simp [hgroup]), List.append_assoc, List.append_assoc]
    apply SameClause.move
    apply hne (by simp [hgroup])
  | constructor =>
    have hc := group_eq_constructor_iff.mp hgroup
    have hothers : ∀ d ∈ inGroup .kind cs ++ inGroup .supertype cs, c.group ≠ d.group := by
      rw [List.forall_mem_append]
      exact ⟨hne (by simp [hgroup]), hne (by simp [hgroup])⟩
    rw [inGroup_cons_of_ne (g := .kind) _ (by simp [hgroup]),
      inGroup_cons_of_ne (g := .supertype) _ (by simp [hgroup]), inGroup_cons_of_eq _ hgroup]
    apply (SameClause.move hothers _).trans
    -- behind the other groups there may be a constructor constraint, which the moved one repeats
    cases hconstructors : inGroup .constructor cs with
    | nil => apply Relation.EqvGen.refl
    | cons d ds =>
      have hd : d = .constructible := by
        apply group_eq_constructor_iff.mp
        exact (mem_inGroup_iff.mp (hconstructors ▸ List.mem_cons_self)).2
      subst hc hd
      exact .symm _ _ (.rel _ _ (.repeated _ [] []))

/-- To arrange constraints changes nothing of their clause. -/
theorem sameClause_arranged (cs : List Constraint) :
  SameClause cs (arranged cs)
  := by
  induction cs with
  | nil => apply Relation.EqvGen.refl
  | cons c cs ih => exact (ih.cons c).trans (sameClause_cons_arranged c cs)

/-- Constraints are arranged alike exactly when they become each other by changes that are none of
their clause. -/
theorem sameClause_iff {cs cs' : List Constraint} :
  SameClause cs cs' ↔ arranged cs = arranged cs'
  := by
  constructor
  · apply SameClause.arranged_eq
  · intro h
    have hback : SameClause (arranged cs') cs' := .symm _ _ (sameClause_arranged cs')
    apply (sameClause_arranged cs).trans
    rw [h]
    exact hback

/-! ### Items -/

/-- The item of a where clause that stands for a constraint. -/
def text (qualify : Bool) : Constraint → Except DeclarationError String
  | .reference => .ok "class"
  | .value => .ok "struct"
  | .constructible => .ok "new()"
  | .subtype t => t.text qualify

theorem mapM_text_kind (qualify : Bool) (cs : List Constraint) :
  (inGroup .kind cs).mapM (text qualify) = .ok (cs.filterMap kindKeyword?)
  := by
  induction cs with
  | nil => rfl
  | cons c cs ih =>
    cases c with
    | reference | value =>
      rw [inGroup_cons_of_eq (g := .kind) _ rfl, List.mapM_cons, ih]
      rfl
    | constructible | subtype =>
      rw [inGroup_cons_of_ne (g := .kind) _ (by simp [group]), ih]
      rfl

theorem mapM_text_supertype (qualify : Bool) (cs : List Constraint) :
  (inGroup .supertype cs).mapM (text qualify)
    = (cs.filterMap supertype?).mapM (TypeExpr.text qualify)
  := by
  induction cs with
  | nil => rfl
  | cons c cs ih =>
    cases c with
    | subtype t =>
      rw [inGroup_cons_of_eq (g := .supertype) _ rfl, List.mapM_cons, ih,
        List.filterMap_cons_some (f := supertype?) rfl, List.mapM_cons]
      rfl
    | reference | value | constructible =>
      rw [inGroup_cons_of_ne (g := .supertype) _ (by simp [group]), ih]
      rfl

theorem mapM_text_constructor (qualify : Bool) (cs : List Constraint) :
  ((inGroup .constructor cs).take 1).mapM (text qualify)
    = .ok (if cs.any isConstructible then ["new()"] else [])
  := by
  induction cs with
  | nil => rfl
  | cons c cs ih =>
    cases c with
    | constructible =>
      rw [inGroup_cons_of_eq (g := .constructor) _ rfl]
      rfl
    | reference | value | subtype =>
      rw [inGroup_cons_of_ne (g := .constructor) _ (by simp [group]), ih]
      rfl

/-- The items of a clause are those of the constraints, arranged. -/
theorem items_eq (qualify : Bool) (cs : List Constraint) :
  items qualify cs = (arranged cs).mapM (text qualify)
  := by
  rw [items, arranged, List.mapM_append, List.mapM_append, mapM_text_kind, mapM_text_supertype,
    mapM_text_constructor]
  cases (cs.filterMap supertype?).mapM (TypeExpr.text qualify) with
  | ok supertypes => rfl
  | error e => rfl

/-- An item can be told apart in a list with commas when it stands for a keyword or a type made of
identifiers. -/
theorem isTopItem_of_text {qualify : Bool} {c : Constraint} {item : String}
    (hproper : ∀ t ∈ c.supertype?, t.IsProper) (h : c.text qualify = .ok item) :
  IsTopItem item
  := by
  have hcomma : [','] ⊆ separators := by decide
  cases c with
  | reference | value =>
    cases h
    exact ⟨Closed.of_all (by decide), _, _, rfl, by decide⟩
  | constructible =>
    cases h
    have hnothing : Closed [','] [] := Closed.nil
    have hbrackets : Closed [','] ['(', ')'] :=
      Closed.bracketed rfl (by decide) hnothing hnothing
    have hword : Closed [','] ['n', 'e', 'w'] := Closed.of_all (by decide)
    exact ⟨hword.append hbrackets, _, _, rfl, by decide⟩
  | subtype t =>
    have ht : t.IsProper := hproper t rfl
    exact ⟨(ht.closed_text h).mono hcomma, ht.hasHead h⟩

end Constraint

/-! ### Clauses -/

/-- The where clause of a type parameter. -/
structure WhereClause where
  /-- The name of the type parameter, as it is spelled. -/
  name : String
  items : List String

namespace WhereClause

/-- The text of the clause. -/
def text (w : WhereClause) : String := "where " ++ w.name ++ " : " ++ commaList w.items

/-- The line that the clause stands on. -/
def line (w : WhereClause) : Line := ⟨1, w.text⟩

end WhereClause

namespace TypeParameter

/-- Whether the type parameter is constrained. -/
def isConstrained (p : TypeParameter) : Bool := !p.constraints.isEmpty

/-- The clause names the type parameter as the header does, and has an item for each of its
constraints, in the order of a clause.  When the supertypes are made of identifiers, the items are
those of the text, told apart by the commas on the top level. -/
structure IsWhereClause (qualify : Bool) (p : TypeParameter) (w : WhereClause) : Prop where
  name_eq : w.name = escaped p.name
  items_text : List.Forall₂ (fun c item => c.text qualify = .ok item)
    (Constraint.arranged p.constraints) w.items
  topItems_eq : (∀ t ∈ p.types, t.IsProper) → topItems (commaList w.items) = w.items

theorem isWhereClause_of_items {qualify : Bool} {p : TypeParameter} {items : List String}
    (h : Constraint.items qualify p.constraints = .ok items) :
  p.IsWhereClause qualify ⟨escaped p.name, items⟩
  := by
  rw [Constraint.items_eq] at h
  constructor
  case name_eq => rfl
  case items_text => exact mapM_eq_ok_iff.mp h
  case topItems_eq =>
    intro hproper
    apply topItems_commaList
    apply forall_mem_of_forall₂ (P := IsTopItem) (mapM_eq_ok_iff.mp h)
    intro c hc item
    apply Constraint.isTopItem_of_text
    intro t ht
    apply hproper t
    exact List.mem_filterMap.mpr ⟨c, Constraint.mem_arranged_iff.mp hc, ht⟩

/-- The clauses of type parameters are those of the constrained ones, in their order. -/
theorem exists_clauseLines_eq {qualify : Bool} {ps : List TypeParameter}
    {clauses : List (Option String)} (h : ps.mapM (clause? qualify) = .ok clauses) :
  ∃ ws, List.Forall₂ (IsWhereClause qualify) (ps.filter isConstrained) ws
    ∧ clauseLines clauses = ws.map WhereClause.line
  := by
  induction ps generalizing clauses with
  | nil =>
    cases h
    exact ⟨[], .nil, rfl⟩
  | cons p ps ih =>
    rw [List.mapM_cons] at h
    obtain ⟨clause, hclause, h⟩ := bind_eq_ok_iff.mp h
    obtain ⟨rest, hrest, h⟩ := bind_eq_ok_iff.mp h
    cases h
    obtain ⟨ws, hws, hlines⟩ := ih hrest
    rw [clause?] at hclause
    cases hempty : p.constraints.isEmpty with
    | true =>
      rw [hempty] at hclause
      cases hclause
      refine ⟨ws, ?_, hlines⟩
      rw [List.filter_cons_of_neg (by simp [isConstrained, hempty])]
      exact hws
    | false =>
      rw [hempty] at hclause
      obtain ⟨items, hitems, hclause⟩ := bind_eq_ok_iff.mp hclause
      cases hclause
      refine ⟨⟨escaped p.name, items⟩ :: ws, ?_, ?_⟩
      · rw [List.filter_cons_of_pos (by simp [isConstrained, hempty])]
        exact .cons (isWhereClause_of_items hitems) hws
      · rw [List.map_cons, ← hlines]
        rfl

/-- The type parameters have the same name, and their constraints the same clause. -/
structure SameClause (p p' : TypeParameter) : Prop where
  name_eq : p'.name = p.name
  constraints : Constraint.SameClause p.constraints p'.constraints

theorem SameClause.clause?_eq {p p' : TypeParameter} (h : p.SameClause p') (qualify : Bool) :
  p'.clause? qualify = p.clause? qualify
  := by
  have harranged := h.constraints.arranged_eq
  have hempty : p'.constraints.isEmpty = p.constraints.isEmpty := by
    rw [Bool.eq_iff_iff, List.isEmpty_iff, List.isEmpty_iff, ← Constraint.arranged_eq_nil_iff,
      ← harranged, Constraint.arranged_eq_nil_iff]
  rw [clause?, clause?, hempty, h.name_eq, Constraint.items_eq, Constraint.items_eq, harranged]

section Same

variable {ps ps' : List TypeParameter} (h : List.Forall₂ SameClause ps ps')

include h

theorem listText_eq_of_sameClause :
  listText ps' = listText ps
  := by
  have hnames : (ps'.mapM fun p => declaredName p.name)
      = ps.mapM fun p => declaredName p.name := by
    induction h with
    | nil => rfl
    | cons hp _ ih => rw [List.mapM_cons, List.mapM_cons, ih, hp.name_eq]
  rw [listText, listText, hnames]

theorem draftClauses_eq_of_sameClause (style : Style) :
  Method.draftClauses style ps' = Method.draftClauses style ps
  := by
  induction h with
  | nil => rfl
  | cons hp _ ih => rw [Method.draftClauses, Method.draftClauses, hp.clause?_eq, ih]

end Same

end TypeParameter

/-! ### Methods -/

/-- The declaration lists all type parameters in its header, and has between header and body the
clauses of those that are constrained. -/
structure MethodParts.HasClauses (d : MethodParts) (style : Style) (m : Method)
    (clauses : List WhereClause) : Prop where
  called_eq : d.called = escaped m.name
    ++ TypeParameter.bracketed (m.typeParameters.map fun p => escaped p.name)
  lines_eq : d.lines = Obsolete.lines m.obsolete? ++ ⟨0, d.header⟩ :: clauses.map WhereClause.line
    ++ [⟨0, "\x7b"⟩, ⟨1, d.statement⟩, ⟨0, Draft.closingBrace⟩]
  isWhereClause : List.Forall₂ (TypeParameter.IsWhereClause style.qualify)
    (m.typeParameters.filter TypeParameter.isConstrained) clauses

namespace Method

/-- The clauses of the parts of a method. -/
theorem clauses_of_parts {style : Style} {m : Method} {d : MethodParts}
    (h : m.parts style = .ok d) :
  m.typeParameters.mapM (TypeParameter.clause? style.qualify) = .ok d.clauses
  := by
  obtain ⟨_, -, h⟩ := bind_eq_ok_iff.mp h
  obtain ⟨_, -, h⟩ := bind_eq_ok_iff.mp h
  obtain ⟨_, -, h⟩ := bind_eq_ok_iff.mp h
  obtain ⟨_, -, h⟩ := bind_eq_ok_iff.mp h
  obtain ⟨clauses, hclauses, h⟩ := bind_eq_ok_iff.mp h
  obtain ⟨_, -, h⟩ := bind_eq_ok_iff.mp h
  obtain ⟨_, -, h⟩ := bind_eq_ok_iff.mp h
  cases h
  exact hclauses

theorem exists_hasClauses {style : Style} {m : Method} {d : MethodParts}
    (h : m.parts style = .ok d) :
  ∃ clauses, d.HasClauses style m clauses
  := by
  have hparts := hasParts_of_parts h
  obtain ⟨clauses, hclauses, hlines⟩ := TypeParameter.exists_clauseLines_eq (clauses_of_parts h)
  use clauses
  constructor
  case called_eq =>
    rw [MethodParts.called, MethodParts.typeList, hparts.name_eq, hparts.typeParameters_eq]
  case lines_eq => rw [d.lines_eq_header_statement, hparts.obsolete?_eq, hlines]
  case isWhereClause => exact hclauses

/-- The declaration stays the same, and so does its error, when the constraints of type parameters
change in nothing of their clauses. -/
theorem draft_eq_of_sameClause (style : Style) {m : Method} {ps : List TypeParameter}
    (h : List.Forall₂ TypeParameter.SameClause m.typeParameters ps) :
  ({ m with typeParameters := ps } : Method).draft style = m.draft style
  := by
  rw [draft, draft, TypeParameter.listText_eq_of_sameClause h,
    TypeParameter.draftClauses_eq_of_sameClause h]
  rfl

/-- A declaration has one where clause for each type parameter that is constrained, in the order of
the type parameters, under the name that the header lists.  Its items are the constraints, of each
group in the given order, and the constructor constraint once.  No declaration changes when
constraints of different groups change places or the constructor constraint is repeated; other
constraints are not arranged alike. -/
theorem where_clauses_keep_constraints (style : Style) (m : Method) :
  (∀ namespaces text, (⟨namespaces, .method m⟩ : Alias).Declares style text →
    ∃ d clauses, m.parts style = .ok d ∧ text = Line.join style d.lines
      ∧ d.HasClauses style m clauses)
    ∧ (∀ ps, List.Forall₂ TypeParameter.SameClause m.typeParameters ps →
      ({ m with typeParameters := ps } : Method).draft style = m.draft style)
    ∧ ∀ cs cs', Constraint.SameClause cs cs' ↔ Constraint.arranged cs = Constraint.arranged cs'
  := by
  refine ⟨?_, ?_, ?_⟩
  · intro namespaces text h
    obtain ⟨d, hd, rfl⟩ := declares_iff.mp h
    obtain ⟨clauses, hclauses⟩ := exists_hasClauses hd
    exact ⟨d, clauses, hd, rfl, hclauses⟩
  · intro ps
    apply draft_eq_of_sameClause
  · intro cs cs'
    apply Constraint.sameClause_iff

end Method

/-- A method with constraints in no order. -/
def argumentMethod : Method where
  name := "Argument"
  owner := .plain "Tools" "ToolAliases"
  result := .parameter "T"
  parameters := [.receiver "context" (.plain "Core" "IContext"),
    .plain "name" (.plain "System" "String")]
  typeParameters := [⟨"T", [.constructible,
      .subtype (.applied (.plain "Core" "IMap`2") [.parameter "in", .parameter "T"]),
      .reference, .constructible, .subtype (.plain "System" "IConvertible")]⟩,
    ⟨"U", []⟩, ⟨"in", [.value]⟩]
  obsolete? := none

/-- The declaration of the method. -/
def argumentText : String :=
  "public T Argument<T, U, @in>(string name)\n"
    ++ "    where T : class, Core.IMap<@in, T>, System.IConvertible, new()\n"
    ++ "    where @in : struct\n\x7b\n"
    ++ "    return Tools.ToolAliases.Argument<T, U, @in>(Context, name);\n\x7d"

theorem Method.where_clauses_keep_constraints_argument :
  (⟨.empty, .method argumentMethod⟩ : Alias).Declares {} argumentText
    ∧ ∃ d clauses, argumentMethod.parts {} = .ok d ∧ argumentText = Line.join {} d.lines
      ∧ d.HasClauses {} argumentMethod clauses
  := by
  have hdeclares : (⟨.empty, .method argumentMethod⟩ : Alias).Declares {} argumentText := by
    apply Alias.declaration_eq_ok_iff.mp
    decide +kernel
  exact ⟨hdeclares,
    (where_clauses_keep_constraints {} argumentMethod).1 .empty argumentText hdeclares⟩

end AliasBinding
