import AliasBinding.Declaration
import AliasBinding.Proofs.Outcome

/-!
# The lines of a declaration

A declaration is laid out in lines, each indented to a level.  `Alias.lines` gives them, with the
checks in the order in which they are made, and the declaration is what they join to
(`Alias.declaration_eq`).  Only the joining depends on the width of the indentation.
-/

namespace AliasBinding

/-! ### Lines -/

/-- A line of a declaration: the level that it is indented to, and its text. -/
structure Line where
  level : Nat
  text : String

namespace Line

/-- The characters of a line. -/
def render (style : Style) (l : Line) : String := style.margin l.level ++ l.text

/-- The characters of a line, and the end of it. -/
def ended (style : Style) (l : Line) : String := l.render style ++ "\n"

/-- The text of lines, of which the last one is not ended. -/
def join (style : Style) (ls : List Line) : String := "\n".intercalate (ls.map (render style))

theorem render_zero (style : Style) (s : String) :
  render style ⟨0, s⟩ = s
  := by
  simp [render, Style.margin]

/-- All lines but the last one are ended. -/
theorem join_concat (style : Style) (ls : List Line) (l : Line) :
  join style (ls ++ [l]) = String.join (ls.map (ended style)) ++ l.render style
  := by
  induction ls with
  | nil => simp [join, String.intercalate_singleton]
  | cons l' ls ih =>
    obtain ⟨l'', rest, hrest⟩ : ∃ l'' rest, ls ++ [l] = l'' :: rest := by
      cases ls with
      | nil => exact ⟨_, _, rfl⟩
      | cons l'' ls => exact ⟨_, _, rfl⟩
    rw [join, List.cons_append, hrest, List.map_cons, List.map_cons,
      String.intercalate_cons_cons, ← List.map_cons, ← hrest]
    change _ ++ join style (ls ++ [l]) = _
    simp only [ih, List.map_cons, String.join_cons, ended, String.append_assoc]

end Line

/-! ### Drafts -/

namespace Draft

variable {α β : Type} (style : Style)

/-- What comes of a draft: its value and the text that it writes, or the error. -/
def result (d : Draft α) : Except DeclarationError (α × String) :=
  d.outcome.map fun a => (a, d.rendered style)

/-- The texts of drafts in a row are joined. -/
theorem result_bind (d : Draft α) (f : α → Draft β) :
  (d >>= f).result style = do
    let (a, s) ← d.result style
    let (b, t) ← (f a).result style
    return (b, s ++ t)
  := by
  obtain ⟨written, outcome⟩ := d
  cases outcome with
  | error e => rfl
  | ok a =>
    have hbind : (⟨written, .ok a⟩ : Draft α) >>= f
        = ⟨written ++ (f a).written, (f a).outcome⟩ := rfl
    rw [hbind, result, result]
    simp only [rendered, List.map_append, String.join_append]
    change _ = (f a).result style >>= fun x => pure (x.1, _ ++ x.2)
    rw [result]
    cases (f a).outcome with
    | error e => rfl
    | ok b => rfl

theorem result_lift (x : Except DeclarationError α) :
  (liftM x : Draft α).result style = do
    let a ← x
    return (a, "")
  := rfl

theorem result_write (pieces : List Piece) :
  (write pieces).result style = pure ((), String.join (pieces.map (Piece.render style)))
  := rfl

theorem result_text (s : String) :
  (text s).result style = pure ((), s)
  := by
  simp [text, result_write, Piece.render]

theorem result_line (level : Nat) (s : String) :
  (line level s).result style = pure ((), Line.ended style ⟨level, s⟩)
  := by
  simp [line, result_write, Piece.render, Line.ended, Line.render, String.append_assoc]

theorem result_openBlock (level : Nat) :
  (openBlock level).result style = pure ((), Line.ended style ⟨level, "\x7b"⟩)
  := result_line style level _

theorem result_closeBlock (level : Nat) :
  (closeBlock level).result style = pure ((), Line.ended style ⟨level, "\x7d"⟩)
  := result_line style level _

end Draft

/-! ### Attributes and where clauses -/

/-- The attribute line of an alias that is obsolete. -/
def Obsolete.lines (o : Option Obsolete) : List Line := o.toList.map fun o => ⟨0, o.attributeText⟩

theorem Obsolete.result_attributeLine (style : Style) (o : Option Obsolete) :
  (attributeLine o).result style
    = pure ((), String.join ((lines o).map (Line.ended style)))
  := by
  cases o with
  | none => rfl
  | some o => simp [attributeLine, Draft.result_line, lines]

/-- The lines of where clauses, for those type parameters that have one. -/
def TypeParameter.clauseLines (clauses : List (Option String)) : List Line :=
  clauses.filterMap fun clause => clause.map (⟨1, ·⟩)

theorem Method.result_draftClauses (style : Style) (ps : List TypeParameter) :
  (draftClauses style ps).result style = do
    let clauses ← ps.mapM (TypeParameter.clause? style.qualify)
    return ((), String.join ((TypeParameter.clauseLines clauses).map
      fun l => "\n" ++ l.render style))
  := by
  induction ps with
  | nil => rfl
  | cons p ps ih =>
    simp only [draftClauses, Draft.result_bind, Draft.result_lift, List.mapM_cons, bind_assoc,
      pure_bind]
    congr 1
    funext clause
    cases clause with
    | none =>
      simp [ih, TypeParameter.clauseLines]
    | some clause =>
      simp [Draft.result_bind, Draft.result_write, Piece.render, ih, TypeParameter.clauseLines,
        Line.render, String.append_assoc]

/-! ### Declarations -/

/-- The lines of the declaration of a method. -/
def Method.lines (style : Style) (m : Method) : Except DeclarationError (List Line) := do
  let name ← declaredName m.name
  let result ← m.result.text style.qualify
  let typeParameters ← TypeParameter.listText m.typeParameters
  let parameters ← Parameter.listText style.qualify m.scriptParameters
  let clauses ← m.typeParameters.mapM (TypeParameter.clause? style.qualify)
  let arguments ← m.callArguments style
  let owner ← m.owner.text style.qualify
  let header := "public " ++ result ++ " " ++ name ++ typeParameters ++ "(" ++ parameters ++ ")"
  let call := (if m.result.isVoid then "" else "return ") ++ owner ++ "." ++ name ++
    typeParameters ++ "(" ++ commaList arguments ++ ");"
  return Obsolete.lines m.obsolete? ++ [⟨0, header⟩] ++ TypeParameter.clauseLines clauses ++
    [⟨0, "\x7b"⟩, ⟨1, call⟩] ++ [⟨0, Draft.closingBrace⟩]

/-- Line ends in front of lines are the ends of what stands before each of them. -/
theorem Line.join_map_started (style : Style) (ls : List Line) (rest : String) :
  String.join (ls.map fun l => "\n" ++ l.render style) ++ ("\n" ++ rest)
    = "\n" ++ (String.join (ls.map (ended style)) ++ rest)
  := by
  induction ls with
  | nil => simp
  | cons l ls ih => simp only [List.map_cons, String.join_cons, String.append_assoc, ih, ended]

theorem Method.result_draft (style : Style) (m : Method) :
  (m.draft style).result style = do
    let ls ← m.lines style
    return ((), Line.join style ls)
  := by
  simp only [draft, lines, Draft.result_bind, Draft.result_lift, Draft.result_write,
    Draft.result_text, Draft.result_line, Draft.result_openBlock,
    Obsolete.result_attributeLine, result_draftClauses, bind_assoc, pure_bind]
  refine bind_congr fun name => bind_congr fun result => bind_congr fun typeParameters =>
    bind_congr fun parameters => bind_congr fun clauses => bind_congr fun arguments =>
    bind_congr fun owner => ?_
  generalize (if m.result.isVoid then "" else "return ") ++ owner ++ "." ++ name ++
    typeParameters ++ "(" ++ commaList arguments ++ ");" = call
  generalize "public " ++ result ++ " " ++ name ++ typeParameters ++ "(" ++ parameters ++ ")"
    = header
  simp only [Line.join_concat, List.map_append, List.map_cons, List.map_nil, String.join_append,
    String.join_cons, String.join_nil, String.empty_append, String.append_empty,
    String.append_assoc, Line.ended, Line.render_zero, Line.join_map_started, Piece.render]

/-- The lines of the declaration of a property. -/
def Property.lines (style : Style) (p : Property) : Except DeclarationError (List Line) := do
  let name ← p.checkedName
  let type ← p.type.text style.qualify
  let owner ← p.owner.text style.qualify
  let call := owner ++ "." ++ name ++ "(" ++ style.context ++ ")"
  let wrapped := p.needsNullableField
  let field := "private " ++ type ++ (if wrapped then "?" else "") ++ " " ++ p.fieldName ++ ";"
  let reading := if p.cached then [⟨2, "if (" ++ p.fieldName ++ " == null)"⟩, ⟨2, "\x7b"⟩,
      ⟨3, p.fieldName ++ " = " ++ call ++ ";"⟩, ⟨2, Draft.closingBrace⟩,
      ⟨2, "return " ++ p.fieldName ++ (if wrapped then ".Value" else "") ++ ";"⟩]
    else [⟨2, "return " ++ call ++ ";"⟩]
  return (if p.cached then [⟨0, field⟩] else []) ++ Obsolete.lines p.obsolete? ++
    [⟨0, "public " ++ type ++ " " ++ name⟩, ⟨0, "\x7b"⟩, ⟨1, "get"⟩, ⟨1, "\x7b"⟩] ++ reading ++
    [⟨1, Draft.closingBrace⟩] ++ [⟨0, Draft.closingBrace⟩]

theorem Property.result_draft (style : Style) (p : Property) :
  (p.draft style).result style = do
    let ls ← p.lines style
    return ((), Line.join style ls)
  := by
  simp only [draft, lines, Draft.result_bind, Draft.result_lift, bind_assoc, pure_bind]
  refine bind_congr fun name => bind_congr fun type => bind_congr fun owner => ?_
  cases p.cached with
  | true | false =>
    simp only [if_true, if_false, Bool.false_eq_true, Draft.result_bind, Draft.result_line,
      Draft.result_text, Draft.result_openBlock, Draft.result_closeBlock,
      Obsolete.result_attributeLine, pure_bind]
    simp only [Line.join_concat, List.map_append, List.map_cons, List.map_nil,
      String.join_append, String.join_cons, String.join_nil, String.empty_append,
      String.append_empty, String.append_assoc, Line.render_zero, Draft.closingBrace]

/-- The lines of the declaration of a member. -/
def Member.lines (style : Style) : Member → Except DeclarationError (List Line)
  | .method m => m.lines style
  | .property p => p.lines style

/-- The declaration of an alias is its lines, joined. -/
theorem Alias.declaration_eq (style : Style) (a : Alias) :
  a.declaration style = (a.member.lines style).map (Line.join style)
  := by
  have hresult : (a.member.draft style).result style = do
      let ls ← a.member.lines style
      return ((), Line.join style ls) := by
    cases a.member with
    | method m => apply m.result_draft
    | property p => apply p.result_draft
  have hdeclaration : a.declaration style
      = ((a.member.draft style).result style).map Prod.snd := by
    rw [declaration, Draft.result]
    cases (a.member.draft style).outcome with
    | ok _ => rfl
    | error e => rfl
  rw [hdeclaration, hresult]
  cases a.member.lines style with
  | ok ls => rfl
  | error e => rfl

end AliasBinding
