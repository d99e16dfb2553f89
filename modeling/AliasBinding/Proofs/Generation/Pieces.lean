import AliasBinding.Proofs.Declaration.SingleLines
import AliasBinding.Proofs.Generation.Steps

/-!
# Declarations recovered from a source

A declaration is a block: none of its lines is empty, and the last one ends in a closing brace.
So the two line feeds behind a declaration are the first two in a row, and a source that is
split at those has the declarations as its pieces (`pieces_of_generatesFrom`).
-/

namespace AliasBinding

open Text

/-! ### Blocks -/

/-- A text of lines of which none is empty and the last one ends in a closing brace, and so
not in a line feed. -/
structure Text.IsBlock (text : String) : Prop where
  ne_empty : text ≠ ""
  head?_ne : text.toList.head? ≠ some '\n'
  getLast?_eq : text.toList.getLast? = some '\x7d'
  line_ne_nil : ∀ line ∈ text.toList.splitOn '\n', line ≠ []

theorem head?_ne_lineFeed {cs : List Char} (h : ∀ line ∈ cs.splitOn '\n', line ≠ []) :
  cs.head? ≠ some '\n'
  := by
  cases cs with
  | nil => nofun
  | cons c cs =>
    rintro ⟨⟩
    rw [splitOn_lineFeed_cons] at h
    apply h [] List.mem_cons_self rfl

namespace Line

theorem IsSolid.render_ne_empty {l : Line} (h : l.IsSolid) (style : Style) :
  l.render style ≠ ""
  := by
  simp [render, h.text_ne_empty]

theorem IsSolid.singleLine_render {l : Line} (h : l.IsSolid) (style : Style) :
  SingleLine (l.render style)
  := by
  rw [render, singleLine_append, Style.margin, singleLine_ofList]
  simp [List.mem_replicate, h.singleLine_text]

/-- Joined lines are split into the lines. -/
theorem splitOn_join (style : Style) {ls : List Line} (hne : ls ≠ [])
    (hsolid : ∀ l ∈ ls, l.IsSolid) :
  (join style ls).toList.splitOn '\n' = ls.map fun l => (l.render style).toList
  := by
  rw [join, String.toList_intercalate, List.map_map]
  apply List.splitOn_intercalate
  · rw [List.forall_mem_map]
    intro l hl
    apply (hsolid l hl).singleLine_render
  · simpa using hne

theorem EndSolidly.isBlock_join {ls : List Line} (h : EndSolidly ls) (style : Style) :
  IsBlock (join style ls)
  := by
  obtain ⟨before, hclosed⟩ := h.closed
  have hlast : (join style ls).toList.getLast? = some '\x7d' := by
    rw [hclosed, join_concat, render_zero, String.toList_append, List.getLast?_append]
    rfl
  have hlines : ∀ line ∈ (join style ls).toList.splitOn '\n', line ≠ [] := by
    rw [splitOn_join style (by simp [hclosed]) h.isSolid, List.forall_mem_map]
    intro l hl
    rw [Ne, String.toList_eq_nil_iff]
    apply (h.isSolid l hl).render_ne_empty
  constructor
  case ne_empty =>
    intro hempty
    rw [hempty] at hlast
    cases hlast
  case head?_ne => apply head?_ne_lineFeed hlines
  case getLast?_eq => apply hlast
  case line_ne_nil => apply hlines

end Line

/-- A declaration is a block. -/
theorem Alias.isBlock_of_declares {style : Style} {a : Alias} {text : String}
    (hcontext : SingleLine style.context) (htypes : ∀ t ∈ a.member.types, t.OnSingleLine)
    (h : a.Declares style text) :
  IsBlock text
  := by
  rw [← declaration_eq_ok_iff, declaration_eq] at h
  obtain ⟨ls, hls, rfl⟩ := map_eq_ok_iff.mp h
  apply ((a.member.givesWithin_lines hcontext htypes).of_eq_ok ls hls).isBlock_join

/-! ### Pieces -/

/-- The texts between the occurrences of two line feeds in a row, taken from left to right. -/
def splitPairs : List Char → List (List Char)
  | [] => [[]]
  | [c] => [[c]]
  | c :: d :: rest =>
    if c = '\n' ∧ d = '\n' then [] :: splitPairs rest
    else (splitPairs (d :: rest)).modifyHead (c :: ·)

/-- The pieces of a source. -/
def pieces (source : String) : List String := (splitPairs source.toList).map String.ofList

theorem splitPairs_cons {c : Char} {cs : List Char} (h : c = '\n' → cs.head? ≠ some '\n') :
  splitPairs (c :: cs) = (splitPairs cs).modifyHead (c :: ·)
  := by
  cases cs with
  | nil => rfl
  | cons d rest =>
    rw [splitPairs, if_neg]
    rintro ⟨hc, rfl⟩
    apply h hc rfl

/-- Two line feeds behind lines that are not empty are the first two in a row. -/
theorem splitPairs_append {cs rest : List Char}
    (h : ∀ line ∈ (cs.splitOn '\n').tail, line ≠ []) :
  splitPairs (cs ++ '\n' :: '\n' :: rest) = cs :: splitPairs rest
  := by
  induction cs with
  | nil => simp [splitPairs]
  | cons c cs ih =>
    rw [List.cons_append, splitPairs_cons]
    · rw [ih, List.modifyHead_cons]
      by_cases hc : c = '\n'
      · subst hc
        rw [splitOn_lineFeed_cons, List.tail_cons] at h
        intro line hline
        apply h line (List.mem_of_mem_tail hline)
      · rw [splitOn_cons_of_ne hc, List.tail_modifyHead] at h
        apply h
    · rintro rfl
      rw [splitOn_lineFeed_cons, List.tail_cons] at h
      cases cs with
      | nil => cases h [] List.mem_cons_self rfl
      | cons d cs => apply head?_ne_lineFeed h

/-- Blocks with the separator behind each of them are the pieces of what they join to. -/
theorem pieces_join {texts : List String} (h : ∀ text ∈ texts, IsBlock text) :
  pieces (String.join (texts.map (· ++ declarationSeparator))) = texts ++ [""]
  := by
  induction texts with
  | nil => rfl
  | cons text texts ih =>
    rw [List.forall_mem_cons] at h
    have hsplit : splitPairs (text.toList ++ '\n' :: '\n' ::
        (String.join (texts.map (· ++ declarationSeparator))).toList)
          = text.toList :: splitPairs
            (String.join (texts.map (· ++ declarationSeparator))).toList := by
      apply splitPairs_append
      intro line hline
      apply h.1.line_ne_nil line (List.mem_of_mem_tail hline)
    rw [pieces] at ih ⊢
    rw [List.map_cons, String.join_cons, String.toList_append, String.toList_append,
      List.append_assoc]
    apply Eq.trans (congrArg (List.map String.ofList) hsplit)
    rw [List.map_cons, String.ofList_toList, ih h.2, List.cons_append]

/-- From the source that comes of aliases, their declarations can be recovered: each of them is
a block, and they are the pieces of the source, with nothing behind the last one.  Names of
types and of the context have to be on single lines; what is quoted need not be. -/
theorem pieces_of_generatesFrom {style : Style} {path : String} {aliases : List Alias}
    {script : Script} (hgenerates : GeneratesFrom style path aliases (.ok script))
    (hcontext : SingleLine style.context)
    (htypes : ∀ a ∈ aliases, ∀ t ∈ a.member.types, t.OnSingleLine) :
  ∃ texts, List.Forall₂ (Alias.Declares style) aliases texts
    ∧ (∀ text ∈ texts, IsBlock text) ∧ pieces script.source = texts ++ [""]
  := by
  obtain ⟨-, hscript⟩ := generatesFrom_ok_iff.mp hgenerates
  obtain ⟨texts, htexts, hsource⟩ := source_of_scriptOf_eq_ok hscript
  have hdeclared : List.Forall₂ (fun text a => IsBlock text ∧ a.Declares style text)
      texts aliases := by
    apply List.Forall₂.flip
    apply ((List.forall₂_and_left aliases texts).mpr ⟨htypes, htexts⟩).imp
    rintro a text ⟨ha, htext⟩
    exact ⟨a.isBlock_of_declares hcontext ha htext, htext⟩
  have hblocks := ((List.forall₂_and_left texts aliases).mp hdeclared).1
  use texts, htexts, hblocks
  rw [hsource]
  apply pieces_join hblocks

/-- Aliases with line feeds in a default and in a message. -/
def remarked : List Alias :=
  let owner := TypeExpr.plain "Tools" "ToolAliases"
  let text : Parameter :=
    ⟨"text", .plain "System" "String", .value, some (.string "\n\n\x7d\n\n")⟩
  let verbose := Alias.ofProperty "Verbose" owner (.plain "System" "Boolean")
  [(Alias.ofMethod "Log" owner .void).withParameter text,
    (verbose.withCaching true).withObsolete ⟨some "Gone.\n\nFor good.", true⟩]

/-- The script of these aliases. -/
def remarkedScript : Script where
  source := "public void Log(string text = \"\\n\\n\x7d\\n\\n\")\n\x7b\n"
    ++ "    Tools.ToolAliases.Log(text);\n\x7d\n\n"
    ++ "private bool? _Verbose;\n[System.Obsolete(\"Gone.\\n\\nFor good.\", true)]\n"
    ++ "public bool Verbose\n\x7b\n    get\n    \x7b\n"
    ++ "        if (_Verbose == null)\n        \x7b\n"
    ++ "            _Verbose = Tools.ToolAliases.Verbose(Context);\n        \x7d\n"
    ++ "        return _Verbose.Value;\n    \x7d\n\x7d\n\n"
  namespaces := .empty
  references := ["Tools.dll"]

theorem scriptOf_remarked :
  scriptOf {} "Tools.dll" remarked = .ok remarkedScript
  := by decide +kernel

theorem pieces_of_generatesFrom_remarked :
  GeneratesFrom {} "Tools.dll" remarked (.ok remarkedScript)
    ∧ SingleLine ({} : Style).context
    ∧ (∀ a ∈ remarked, ∀ t ∈ a.member.types, t.OnSingleLine)
    ∧ ∃ texts, List.Forall₂ (Alias.Declares {}) remarked texts
      ∧ (∀ text ∈ texts, IsBlock text) ∧ pieces remarkedScript.source = texts ++ [""]
  := by
  have hgenerates : GeneratesFrom {} "Tools.dll" remarked (.ok remarkedScript) :=
    generatesFrom_ok_iff.mpr ⟨by decide, scriptOf_remarked⟩
  have hcontext : SingleLine ({} : Style).context := by decide
  have htypes : ∀ a ∈ remarked, ∀ t ∈ a.member.types, t.OnSingleLine := by
    simp +decide [remarked, Alias.ofMethod, Alias.ofProperty, Alias.withParameter,
      Alias.withCaching, Alias.withObsolete, Member.types, TypeExpr.plain, TypeExpr.void,
      TypeExpr.onSingleLine_named]
  exact ⟨hgenerates, hcontext, htypes,
    pieces_of_generatesFrom hgenerates hcontext htypes⟩

end AliasBinding
