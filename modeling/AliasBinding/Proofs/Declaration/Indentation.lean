import AliasBinding.Proofs.Declaration.WhereClauses

/-!
# The width of the indentation

A declaration is split into rows at its line feeds.  The width of the indentation has no say in
whether there is a declaration, or in what its rows hold behind the spaces in front of them: a row
has as many spaces as its level takes at this width, and the level does not depend on the width
(`Alias.declaration_indented`).  When names hold no line feeds, the rows are the lines of the
declaration, and the kind of the alias, its mark, its caching and its constraints give the levels
(`Member.levels`).
-/

namespace AliasBinding

/-! ### Rows -/

namespace Text

/-- The rows of a text. -/
def rows (s : String) : List (List Char) := s.toList.splitOn '\n'

/-- A row without the spaces in front of it. -/
def unindented (row : List Char) : List Char := row.dropWhile (· = ' ')

/-- The row with spaces in front of it. -/
def indented (spaces : Nat) (row : List Char) : List Char := List.replicate spaces ' ' ++ row

theorem indented_zero (row : List Char) :
  indented 0 row = row
  := rfl

theorem unindented_indented (spaces : Nat) (row : List Char) :
  unindented (indented spaces row) = unindented row
  := by
  induction spaces with
  | zero => rfl
  | succ spaces ih =>
    rw [indented, List.replicate_succ, List.cons_append, unindented,
      List.dropWhile_cons_of_pos (by decide)]
    exact ih

/-- The rows with spaces in front of each, as many for a level as it takes at a width. -/
def shifted (width : Nat) (levels : List Nat) (rows : List (List Char)) : List (List Char) :=
  List.zipWith (fun level => indented (level * width)) levels rows

/-- At width zero nothing is shifted. -/
theorem shifted_zero {levels : List Nat} {rows : List (List Char)}
    (h : levels.length = rows.length) :
  shifted 0 levels rows = rows
  := by
  induction levels generalizing rows with
  | nil => exact (List.eq_nil_of_length_eq_zero h.symm).symm
  | cons level levels ih =>
    cases rows with
    | nil => cases h
    | cons row rows =>
      rw [shifted, List.zipWith_cons_cons, Nat.mul_zero, indented_zero]
      exact congrArg _ (ih (Nat.succ.inj h))

/-- At level zero nothing is shifted. -/
theorem shifted_replicate_zero (width : Nat) (rows : List (List Char)) :
  shifted width (List.replicate rows.length 0) rows = rows
  := by
  induction rows with
  | nil => rfl
  | cons row rows ih =>
    rw [List.length_cons, List.replicate_succ, shifted, List.zipWith_cons_cons, Nat.zero_mul,
      indented_zero]
    exact congrArg _ ih

theorem map_unindented_shifted (width : Nat) {levels : List Nat} {rows : List (List Char)}
    (h : levels.length = rows.length) :
  (shifted width levels rows).map unindented = rows.map unindented
  := by
  induction levels generalizing rows with
  | nil =>
    rw [List.eq_nil_of_length_eq_zero h.symm]
    rfl
  | cons level levels ih =>
    cases rows with
    | nil => cases h
    | cons row rows =>
      rw [shifted, List.zipWith_cons_cons, List.map_cons, List.map_cons, unindented_indented]
      exact congrArg _ (ih (Nat.succ.inj h))

/-- Spaces in front of a text stand in front of its first row. -/
theorem splitOn_indented (spaces : Nat) (cs : List Char) :
  (indented spaces cs).splitOn '\n' = (cs.splitOn '\n').modifyHead (indented spaces)
  := by
  induction spaces with
  | zero => exact (congrFun List.modifyHead_id _).symm
  | succ spaces ih =>
    have hsucc : ∀ cs, indented (spaces + 1) cs = ' ' :: indented spaces cs := fun _ => rfl
    rw [hsucc, splitOn_cons_of_ne (by decide), ih, List.modifyHead_modifyHead]
    rfl

/-- The rows of one text are those of the other with spaces in front of each, as many for the level
of a row as it takes at a width. -/
structure IsShifted (width : Nat) (levels : List Nat) (text text' : String) : Prop where
  length_eq : levels.length = (rows text').length
  rows_eq : rows text = shifted width levels (rows text')

theorem IsShifted.map_unindented_eq {width : Nat} {levels : List Nat} {text text' : String}
    (h : IsShifted width levels text text') :
  (rows text).map unindented = (rows text').map unindented
  := by
  rw [h.rows_eq, map_unindented_shifted width h.length_eq]

end Text

open Text

/-! ### Rows of lines -/

namespace Line

/-- The levels of the rows of a line: rows behind the first one are not indented. -/
def rowLevels (l : Line) : List Nat := l.level :: List.replicate ((rows l.text).length - 1) 0

theorem length_rowLevels (l : Line) :
  l.rowLevels.length = (rows l.text).length
  := by
  have hne : (rows l.text).length ≠ 0 := by simp [rows, List.splitOn_ne_nil]
  rw [rowLevels, List.length_cons, List.length_replicate]
  omega

/-- Only the first row of a line is indented. -/
theorem rows_render (style : Style) (l : Line) :
  rows (l.render style) = shifted style.indent l.rowLevels (rows l.text)
  := by
  have hrender : (l.render style).toList = indented (l.level * style.indent) l.text.toList := by
    rw [render, Style.margin, String.toList_append, String.toList_ofList]
    rfl
  -- the margin is in front of the first row, and no other row has one
  rw [rows, hrender, splitOn_indented, rowLevels]
  change (rows l.text).modifyHead _ = _
  cases rows l.text with
  | nil => rfl
  | cons row rest =>
    rw [List.modifyHead_cons, List.length_cons, Nat.add_sub_cancel, shifted,
      List.zipWith_cons_cons]
    exact congrArg _ (shifted_replicate_zero style.indent rest).symm

/-- The rows of joined lines are those of the lines. -/
theorem rows_join (style : Style) {ls : List Line} (hne : ls ≠ []) :
  rows (join style ls) = ls.flatMap fun l => rows (l.render style)
  := by
  induction ls with
  | nil => cases hne rfl
  | cons l ls ih =>
    cases ls with
    | nil => rw [join, List.map_singleton, String.intercalate_singleton, List.flatMap_singleton]
    | cons l' ls =>
      have hlineFeed : "\n".toList = ['\n'] := rfl
      rw [List.flatMap_cons, ← ih (List.cons_ne_nil _ _), join, List.map_cons, List.map_cons,
        String.intercalate_cons_cons, ← List.map_cons, rows, String.toList_append,
        String.toList_append, hlineFeed, List.append_assoc, List.singleton_append,
        splitOn_append_lineFeed]
      rfl

theorem rows_join_eq_shifted (style : Style) {ls : List Line} (hne : ls ≠ []) :
  rows (join style ls)
    = shifted style.indent (ls.flatMap rowLevels) (ls.flatMap fun l => rows l.text)
  := by
  rw [rows_join style hne]
  clear hne
  induction ls with
  | nil => rfl
  | cons l ls ih =>
    rw [List.flatMap_cons, List.flatMap_cons, List.flatMap_cons, shifted,
      List.zipWith_append l.length_rowLevels, ih, rows_render]
    rfl

/-- Lines joined at some width are those joined at width zero, shifted. -/
theorem isShifted_join (style : Style) (n : Nat) {ls : List Line} (hne : ls ≠ []) :
  IsShifted (min n Style.maxIndent) (ls.flatMap rowLevels) (join (style.withIndent n) ls)
    (join (style.withIndent 0) ls)
  := by
  have hlength : (ls.flatMap rowLevels).length = (ls.flatMap fun l => rows l.text).length := by
    rw [List.length_flatMap, List.length_flatMap]
    simp only [length_rowLevels]
  have hzero : rows (join (style.withIndent 0) ls) = ls.flatMap fun l => rows l.text := by
    rw [rows_join_eq_shifted _ hne]
    exact shifted_zero hlength
  constructor
  case length_eq => rw [hzero, hlength]
  case rows_eq =>
    rw [hzero, rows_join_eq_shifted _ hne]
    rfl

/-- A solid line is a row. -/
theorem IsSolid.rowLevels_eq {l : Line} (h : l.IsSolid) :
  l.rowLevels = [l.level]
  := by
  have hrows : rows l.text = [l.text.toList] := List.splitOn_eq_singleton h.singleLine_text
  rw [rowLevels, hrows]
  rfl

end Line

/-! ### Levels -/

/-- The level of the attribute line. -/
def Obsolete.levels (o : Option Obsolete) : List Nat := o.toList.map fun _ => 0

/-- The levels of the lines of a method: a where clause stands on level one, and so does the
statement. -/
def Method.levels (m : Method) : List Nat :=
  Obsolete.levels m.obsolete?
    ++ 0 :: (m.typeParameters.filter TypeParameter.isConstrained).map (fun _ => 1) ++ [0, 1, 0]

/-- The levels of the lines of a property: the getter reads on level two, and fills the backing
field on level three. -/
def Property.levels (p : Property) : List Nat :=
  (if p.cached then [0] else []) ++ Obsolete.levels p.obsolete? ++ [0, 0, 1, 1]
    ++ (if p.cached then [2, 2, 3, 2, 2] else [2]) ++ [1, 0]

namespace Member

/-- The levels of the lines of a member. -/
def levels : Member → List Nat
  | .method m => m.levels
  | .property p => p.levels

theorem le_of_mem_levels {m : Member} {level : Nat} (h : level ∈ m.levels) :
  level ≤ 3
  := by
  have hobsolete : ∀ o : Option Obsolete, ∀ level ∈ Obsolete.levels o, level ≤ 3 := by
    simp [Obsolete.levels]
  revert level
  cases m with
  | method m =>
    simp only [levels, Method.levels, List.forall_mem_append, List.forall_mem_cons]
    refine ⟨⟨hobsolete _, ?_, ?_⟩, ?_⟩
    · decide
    · rw [List.forall_mem_map]
      exact fun _ _ => by decide
    · decide
  | property p =>
    simp only [levels, Property.levels, List.forall_mem_append]
    refine ⟨⟨⟨⟨?_, hobsolete _⟩, ?_⟩, ?_⟩, ?_⟩
    · split
      · decide
      · decide
    · decide
    · split
      · decide
      · decide
    · decide

end Member

/-- The lines of a declaration stand on the levels of the member, in every style. -/
theorem Member.map_level_of_lines {style : Style} {m : Member} {ls : List Line}
    (h : m.lines style = .ok ls) :
  ls.map (·.level) = m.levels
  := by
  have hobsolete : ∀ o, (Obsolete.lines o).map (·.level) = Obsolete.levels o := by
    intro o
    rw [Obsolete.lines, List.map_map]
    rfl
  cases m with
  | method m =>
    rw [lines, Method.lines_eq] at h
    obtain ⟨d, hd, rfl⟩ := map_eq_ok_iff.mp h
    obtain ⟨clauses, hclauses⟩ := Method.exists_hasClauses hd
    have hlevels : (clauses.map WhereClause.line).map (·.level)
        = (m.typeParameters.filter TypeParameter.isConstrained).map fun _ => 1 := by
      have hlevel : (fun l : Line => l.level) ∘ WhereClause.line = fun _ => 1 := rfl
      rw [List.map_map, hlevel, List.map_const', List.map_const',
        hclauses.isWhereClause.length_eq]
    rw [hclauses.lines_eq, List.map_append, List.map_append, List.map_cons, hobsolete, hlevels]
    rfl
  | property p =>
    rw [lines, Property.lines_eq] at h
    obtain ⟨d, hd, rfl⟩ := map_eq_ok_iff.mp h
    obtain ⟨type, owner, -, -, -, -, -, rfl⟩ := Property.parts_eq_ok_iff.mp hd
    simp only [PropertyParts.lines, PropertyParts.reading, List.map_append, hobsolete,
      Property.field?, levels, Property.levels]
    cases p.cached with
    | true | false =>
      simp only [if_true, if_false, Bool.false_eq_true, Option.toList, PropertyParts.fieldLine,
        List.map_cons, List.map_nil, List.append_assoc, List.cons_append,
        List.nil_append]

theorem Member.le_of_mem_rowLevels {style : Style} {m : Member} {ls : List Line}
    (h : m.lines style = .ok ls) :
  ∀ level ∈ ls.flatMap Line.rowLevels, level ≤ 3
  := by
  intro level hlevel
  obtain ⟨l, hl, hlevel⟩ := List.mem_flatMap.mp hlevel
  rcases List.mem_cons.mp hlevel with rfl | hlevel
  · apply le_of_mem_levels
    rw [← map_level_of_lines h]
    apply List.mem_map_of_mem hl
  · rw [List.eq_of_mem_replicate hlevel]
    apply Nat.zero_le

/-- When names are on single lines, so are the lines of a declaration, and their levels are those of
the rows. -/
theorem Member.flatMap_rowLevels_of_lines {style : Style} (hcontext : SingleLine style.context)
    {m : Member} (htypes : ∀ t ∈ m.types, t.OnSingleLine) {ls : List Line}
    (h : m.lines style = .ok ls) :
  ls.flatMap Line.rowLevels = m.levels
  := by
  have hsolid := ((m.givesWithin_lines hcontext htypes).of_eq_ok ls h).isSolid
  rw [← map_level_of_lines h, List.map_eq_flatMap]
  exact List.flatMap_congr fun l hl => (hsolid l hl).rowLevels_eq

/-! ### Declarations -/

/-- The width of the indentation has no say in the lines of a declaration. -/
theorem Member.lines_withIndent (style : Style) (n : Nat) (m : Member) :
  m.lines (style.withIndent n) = m.lines style
  := by
  cases m with
  | method m => rfl
  | property p => rfl

namespace Alias

/-- A declaration has the same lines at every width of the indentation. -/
theorem declares_withIndent_iff {style : Style} {n : Nat} {a : Alias} {text : String} :
  a.Declares (style.withIndent n) text
    ↔ ∃ ls, a.member.lines style = .ok ls ∧ Line.join (style.withIndent n) ls = text
  := by
  rw [← declaration_eq_ok_iff, declaration_eq, Member.lines_withIndent]
  exact map_eq_ok_iff

/-- The width of the indentation is no reason to fail. -/
theorem failsToDeclare_withIndent_iff {style : Style} {n : Nat} {a : Alias}
    {e : DeclarationError} :
  a.FailsToDeclare (style.withIndent n) e ↔ a.member.lines style = .error e
  := by
  rw [← declaration_eq_error_iff, declaration_eq, Member.lines_withIndent]
  cases a.member.lines style with
  | ok ls => simp [Except.map]
  | error e => simp [Except.map]

/-- The levels of the rows of a declaration are those of its lines. -/
theorem isShifted_of_lines {style : Style} {n : Nat} {a : Alias} {ls : List Line}
    {text text' : String} (hls : a.member.lines style = .ok ls)
    (h : a.Declares (style.withIndent n) text) (h' : a.Declares (style.withIndent 0) text') :
  IsShifted (min n Style.maxIndent) (ls.flatMap Line.rowLevels) text text'
  := by
  obtain ⟨_, hls', rfl⟩ := declares_withIndent_iff.mp h
  cases hls.symm.trans hls'
  obtain ⟨_, hls'', rfl⟩ := declares_withIndent_iff.mp h'
  cases hls.symm.trans hls''
  apply Line.isShifted_join
  rintro rfl
  have hlevels := Member.map_level_of_lines hls
  cases hmember : a.member with
  | method m => simp [hmember, Member.levels, Method.levels] at hlevels
  | property p => simp [hmember, Member.levels, Property.levels] at hlevels

/-- The declarations of an alias at two widths of the indentation are equal but for the spaces in
front of their rows, or both fail with the same error.  A row has as many spaces as its level takes
at the width, which is at most sixteen for each of up to three levels, and the level does not depend
on the width.  When neither the script context nor a type has a line feed in its name or namespace,
the level depends on nothing but the alias. -/
theorem declaration_indented (style : Style) (a : Alias) :
  (∀ n n', (∃ e, a.FailsToDeclare (style.withIndent n) e ∧ a.FailsToDeclare (style.withIndent n') e)
    ∨ ∃ text text', a.Declares (style.withIndent n) text ∧ a.Declares (style.withIndent n') text'
      ∧ (rows text).map unindented = (rows text').map unindented)
    ∧ (∃ levels, (∀ level ∈ levels, level ≤ 3)
      ∧ ∀ n text text', a.Declares (style.withIndent n) text →
        a.Declares (style.withIndent 0) text' →
          IsShifted (min n Style.maxIndent) levels text text')
    ∧ (SingleLine style.context → (∀ t ∈ a.member.types, t.OnSingleLine) →
      (∀ level ∈ a.member.levels, level ≤ 3)
        ∧ ∀ n text text', a.Declares (style.withIndent n) text →
          a.Declares (style.withIndent 0) text' →
            IsShifted (min n Style.maxIndent) a.member.levels text text')
  := by
  refine ⟨?agree, ?shifted, ?levels⟩
  case agree =>
    intro n n'
    cases hls : a.member.lines style with
    | error e =>
      left
      exact ⟨e, failsToDeclare_withIndent_iff.mpr hls, failsToDeclare_withIndent_iff.mpr hls⟩
    | ok ls =>
      right
      have hdeclares : ∀ n, a.Declares (style.withIndent n) (Line.join (style.withIndent n) ls) :=
        fun n => declares_withIndent_iff.mpr ⟨ls, hls, rfl⟩
      refine ⟨_, _, hdeclares n, hdeclares n', ?_⟩
      rw [(isShifted_of_lines hls (hdeclares n) (hdeclares 0)).map_unindented_eq,
        (isShifted_of_lines hls (hdeclares n') (hdeclares 0)).map_unindented_eq]
  case shifted =>
    cases hls : a.member.lines style with
    | error e =>
      refine ⟨[], nofun, ?_⟩
      intro n text text' h
      obtain ⟨ls, hls', -⟩ := declares_withIndent_iff.mp h
      cases hls.symm.trans hls'
    | ok ls =>
      exact ⟨ls.flatMap Line.rowLevels, Member.le_of_mem_rowLevels hls,
        fun _ _ _ => isShifted_of_lines hls⟩
  case levels =>
    intro hcontext htypes
    refine ⟨fun _ => Member.le_of_mem_levels, ?_⟩
    intro n text text' h h'
    obtain ⟨ls, hls, -⟩ := declares_withIndent_iff.mp h
    rw [← Member.flatMap_rowLevels_of_lines hcontext htypes hls]
    exact isShifted_of_lines hls h h'

end Alias

/-- A property whose value is kept. -/
def keptCount : Alias :=
  (Alias.ofProperty "Count" (.plain "Tools" "ToolAliases") (.plain "System" "Int32")).withCaching
    true

/-- The declaration of the property with these margins on the first three levels. -/
def countText (first second third : String) : String :=
  "private int? _Count;\npublic int Count\n\x7b\n" ++ first ++ "get\n" ++ first ++ "\x7b\n"
    ++ second ++ "if (_Count == null)\n" ++ second ++ "\x7b\n"
    ++ third ++ "_Count = Tools.ToolAliases.Count(Context);\n" ++ second ++ "\x7d\n"
    ++ second ++ "return _Count.Value;\n" ++ first ++ "\x7d\n\x7d"

theorem Alias.declaration_indented_count :
  keptCount.Declares (({} : Style).withIndent 2) (countText "  " "    " "      ")
    ∧ keptCount.Declares (({} : Style).withIndent 0) (countText "" "" "")
    ∧ SingleLine ({} : Style).context ∧ (∀ t ∈ keptCount.member.types, t.OnSingleLine)
    ∧ IsShifted 2 [0, 0, 0, 1, 1, 2, 2, 3, 2, 2, 1, 0] (countText "  " "    " "      ")
      (countText "" "" "")
  := by
  have hdeclares : keptCount.Declares (({} : Style).withIndent 2)
      (countText "  " "    " "      ") := by
    apply Alias.declaration_eq_ok_iff.mp
    decide +kernel
  have hdeclares' : keptCount.Declares (({} : Style).withIndent 0) (countText "" "" "") := by
    apply Alias.declaration_eq_ok_iff.mp
    decide +kernel
  have hcontext : SingleLine ({} : Style).context := by decide
  have htypes : ∀ t ∈ keptCount.member.types, t.OnSingleLine := by
    simp +decide [keptCount, Alias.ofProperty, Alias.withCaching, Member.types, TypeExpr.plain,
      TypeExpr.onSingleLine_named]
  exact ⟨hdeclares, hdeclares', hcontext, htypes,
    ((declaration_indented {} keptCount).2.2 hcontext htypes).2 2 _ _ hdeclares hdeclares'⟩

end AliasBinding
