import AliasBinding.Proofs.Generation.Steps
import AliasBinding.Proofs.Text.SingleLine
import AliasBinding.Script.Format

/-!
# Script files read back

A script file is read line by line: first the lines of references, then those of namespaces up
to the first empty line, and what follows is the source (`Script.ofFile`).  So no two generated
scripts have the same file, as long as no name in them spans lines
(`Script.ofFile_of_isGenerated`).
-/

namespace AliasBinding

open Text

namespace Script

/-! ### Reading -/

/-- What is between the quotes of a reference, with quotes no longer escaped. -/
def unquote : List Char → List Char
  | '\\' :: '"' :: rest => '"' :: unquote rest
  | c :: rest => c :: unquote rest
  | [] => []

/-- Whether a line refers to a module. -/
def isReferenceLine (line : List Char) : Bool := ['#', 'r'].isPrefixOf line

/-- The path in a line that refers to a module. -/
def pathOfLine (line : List Char) : String := String.ofList (unquote (line.drop 4).dropLast)

/-- The name in a line that brings a namespace into scope. -/
def namespaceOfLine (line : List Char) : String := String.ofList (line.drop 6).dropLast

/-- The script in a file. -/
def ofFile (text : String) : Script :=
  let lines := text.toList.splitOn '\n'
  let rest := lines.dropWhile isReferenceLine
  let source := (rest.dropWhile (!·.isEmpty)).tail
  { source := String.ofList (['\n'].intercalate source)
    namespaces := .ofList ((rest.takeWhile (!·.isEmpty)).map namespaceOfLine)
    references := (lines.takeWhile isReferenceLine).map pathOfLine }

/-! ### Lines -/

/-- The line that refers to a module, without its end. -/
def referenceChars (path : String) : List Char :=
  '#' :: 'r' :: ' ' :: '"' :: ((quotePath path).toList ++ ['"'])

/-- The line that brings a namespace into scope, without its end. -/
def usingChars (ns : String) : List Char :=
  'u' :: 's' :: 'i' :: 'n' :: 'g' :: ' ' :: (ns.toList ++ [';'])

/-- The lines in front of the source. -/
def headLines (s : Script) : List (List Char) :=
  s.references.map referenceChars ++ s.namespaces.toList.map usingChars

theorem unquote_cons {c : Char} {cs : List Char} (h : cs.head? ≠ some '"') :
  unquote (c :: cs) = c :: unquote cs
  := by
  rw [unquote]
  rintro rest rfl rfl
  cases h rfl

/-- Quoting puts no quote at the front. -/
theorem head?_quotePath (cs : List Char) :
  (cs.flatMap fun c => if c = '"' then ['\\', '"'] else [c]).head? ≠ some '"'
  := by
  cases cs with
  | nil => nofun
  | cons c cs =>
    rw [List.flatMap_cons]
    split
    · nofun
    · simpa

theorem unquote_quotePath (path : String) :
  unquote (quotePath path).toList = path.toList
  := by
  rw [quotePath, String.toList_ofList]
  induction path.toList with
  | nil => rfl
  | cons c cs ih =>
    rw [List.flatMap_cons]
    split
    · rename_i hc
      subst hc
      apply congrArg ('"' :: ·) ih
    · rw [List.singleton_append, unquote_cons (head?_quotePath cs), ih]

theorem mem_of_mem_quotePath {c : Char} {path : String} (hc : c ≠ '\\')
    (h : c ∈ (quotePath path).toList) :
  c ∈ path.toList
  := by
  rw [quotePath, String.toList_ofList, List.mem_flatMap] at h
  obtain ⟨d, hd, hcd⟩ := h
  split at hcd
  · rename_i hquote
    simp only [List.mem_cons, hc, List.not_mem_nil, or_false, false_or] at hcd
    rw [hcd, ← hquote]
    apply hd
  · rw [List.mem_singleton.mp hcd]
    apply hd

theorem pathOfLine_referenceChars (path : String) :
  pathOfLine (referenceChars path) = path
  := by
  have hdrop : (referenceChars path).drop 4 = (quotePath path).toList ++ ['"'] := rfl
  rw [pathOfLine, hdrop, List.dropLast_concat, unquote_quotePath, String.ofList_toList]

theorem namespaceOfLine_usingChars (ns : String) :
  namespaceOfLine (usingChars ns) = ns
  := by
  have hdrop : (usingChars ns).drop 6 = ns.toList ++ [';'] := rfl
  rw [namespaceOfLine, hdrop, List.dropLast_concat, String.ofList_toList]

theorem toList_join_map {α : Type} {f : α → String} {g : α → List Char}
    (h : ∀ x, (f x).toList = g x ++ ['\n']) (xs : List α) :
  (String.join (xs.map f)).toList = (xs.map g).flatMap (· ++ ['\n'])
  := by
  rw [String.toList_join, List.flatMap_map, List.flatMap_map]
  apply List.flatMap_congr
  intro x _
  apply h

/-- What stands in front of the source is the head lines, each of them ended. -/
theorem toList_head (s : Script) :
  (s.referenceLines ++ s.usings).toList = s.headLines.flatMap (· ++ ['\n'])
  := by
  have hreference : ∀ path, (referenceLine path).toList = referenceChars path ++ ['\n'] := by
    intro path
    simp [referenceLine, referenceChars]
  have husing : ∀ ns, (usingLine ns).toList = usingChars ns ++ ['\n'] := by
    intro ns
    simp [usingLine, usingChars]
  rw [String.toList_append, referenceLines, usings, toList_join_map hreference,
    toList_join_map husing, headLines, List.flatMap_append]

/-- Lines that are ended are split off one by one. -/
theorem splitOn_ended {lines : List (List Char)} (h : ∀ line ∈ lines, '\n' ∉ line)
    (cs : List Char) :
  (lines.flatMap (· ++ ['\n']) ++ cs).splitOn '\n' = lines ++ cs.splitOn '\n'
  := by
  induction lines with
  | nil => rfl
  | cons line lines ih =>
    rw [List.forall_mem_cons] at h
    rw [List.flatMap_cons, List.append_assoc, List.append_assoc, List.singleton_append,
      splitOn_append_lineFeed, List.splitOn_eq_singleton h.1, ih h.2]
    rfl

/-! ### Scripts -/

/-- No path and no namespace of the script has a line feed. -/
structure NamesOnSingleLines (s : Script) : Prop where
  references : ∀ path ∈ s.references, SingleLine path
  namespaces : ∀ ns ∈ s.namespaces, SingleLine ns

theorem NamesOnSingleLines.lineFeed_notMem {s : Script} (h : s.NamesOnSingleLines) :
  ∀ line ∈ s.headLines, '\n' ∉ line
  := by
  rw [headLines, List.forall_mem_append, List.forall_mem_map, List.forall_mem_map]
  constructor
  · intro path hpath
    have hquoted : '\n' ∉ (quotePath path).toList :=
      fun hmem => h.references path hpath (mem_of_mem_quotePath (by decide) hmem)
    simp [referenceChars, hquoted]
  · intro ns hns
    have := h.namespaces ns hns
    simpa [usingChars, SingleLine] using this

/-- The lines behind the empty line that ends the head. -/
def sourceLines (s : Script) : List (List Char) :=
  if s.source = "" then [] else s.source.toList.splitOn '\n'

theorem intercalate_sourceLines (s : Script) :
  String.ofList (['\n'].intercalate s.sourceLines) = s.source
  := by
  rw [sourceLines]
  split
  · rename_i hsource
    rw [hsource]
    rfl
  · rw [List.intercalate_splitOn, String.ofList_toList]

/-- The lines of a script file: those of the head, an empty one, and those of the source. -/
theorem splitOn_toScriptFile {s : Script} (hnames : s.NamesOnSingleLines)
    (hhead : s.source ≠ "" → s.references ≠ []) :
  s.toScriptFile.toList.splitOn '\n' = s.headLines ++ [] :: s.sourceLines
  := by
  have hlines := splitOn_ended hnames.lineFeed_notMem
  by_cases hsource : s.source = ""
  · have hfile : s.toScriptFile = s.referenceLines ++ s.usings := by
      simp [toScriptFile, hsource]
    rw [hfile, toList_head, sourceLines, if_pos hsource,
      ← List.append_nil (s.headLines.flatMap _), hlines]
    rfl
  · have hfull : s.referenceLines ++ s.usings ≠ "" := by
      rw [Ne, ← String.toList_eq_nil_iff, toList_head, List.flatMap_eq_nil_iff, headLines]
      obtain ⟨path, paths, hpaths⟩ := List.exists_cons_of_ne_nil (hhead hsource)
      intro hempty
      cases hempty (referenceChars path) (by simp [hpaths])
    have hfile : s.toScriptFile = s.referenceLines ++ s.usings ++ "\n" ++ s.source := by
      simp only [toScriptFile, bne_iff_ne, Bool.and_eq_true, hfull, hsource, ne_eq,
        not_false_eq_true, and_self, if_true]
    rw [hfile, String.toList_append, String.toList_append, toList_head, List.append_assoc,
      hlines, sourceLines, if_neg hsource, ← splitOn_lineFeed_cons]
    rfl

/-- The longest front of a list that satisfies a condition ends at the first item that does
not. -/
theorem takeWhile_dropWhile_append_cons {α : Type} {p : α → Bool} {xs : List α} {y : α}
    (hxs : ∀ x ∈ xs, p x = true) (hy : p y = false) (ys : List α) :
  (xs ++ y :: ys).takeWhile p = xs ∧ (xs ++ y :: ys).dropWhile p = y :: ys
  := by
  rw [List.takeWhile_append_of_pos hxs, List.dropWhile_append_of_pos hxs]
  simp [hy]

/-- The lines behind the references begin with one that is no reference. -/
theorem exists_cons_usingLines (s : Script) :
  ∃ line lines, s.namespaces.toList.map usingChars ++ [] :: s.sourceLines = line :: lines
    ∧ isReferenceLine line = false
  := by
  cases s.namespaces.toList with
  | nil => exact ⟨_, _, rfl, rfl⟩
  | cons ns names => exact ⟨_, _, rfl, rfl⟩

theorem ofFile_toScriptFile {s : Script} (hnames : s.NamesOnSingleLines)
    (hhead : s.source ≠ "" → s.references ≠ []) :
  ofFile s.toScriptFile = s
  := by
  have hreferences : ∀ line ∈ s.references.map referenceChars, isReferenceLine line = true := by
    rw [List.forall_mem_map]
    intro path _
    rfl
  have husings : ∀ line ∈ s.namespaces.toList.map usingChars, (!line.isEmpty) = true := by
    rw [List.forall_mem_map]
    intro ns _
    rfl
  obtain ⟨line, lines, hrest, hline⟩ := s.exists_cons_usingLines
  obtain ⟨htaken, hdropped⟩ := takeWhile_dropWhile_append_cons hreferences hline lines
  obtain ⟨htaken', hdropped'⟩ :=
    takeWhile_dropWhile_append_cons (p := (!·.isEmpty)) (y := []) husings rfl s.sourceLines
  have hpaths : (s.references.map referenceChars).map pathOfLine = s.references := by
    rw [List.map_map]
    apply List.map_id'' pathOfLine_referenceChars
  have hnamespaces : (s.namespaces.toList.map usingChars).map namespaceOfLine
      = s.namespaces.toList := by
    rw [List.map_map]
    apply List.map_id'' namespaceOfLine_usingChars
  rw [ofFile, splitOn_toScriptFile hnames hhead, headLines, List.append_assoc, hrest,
    htaken, hdropped, ← hrest, htaken', hdropped', List.tail_cons, intercalate_sourceLines,
    hpaths, hnamespaces, NameSet.ofList_toList]

/-! ### Generated scripts -/

/-- A generated script that has a source refers to its module. -/
theorem IsGenerated.references_ne_nil {s : Script} (h : s.IsGenerated) (hsource : s.source ≠ "") :
  s.references ≠ []
  := by
  rcases isGenerated_iff.mp h with rfl | ⟨style, path, aliases, hgenerates⟩
  · cases hsource rfl
  · obtain ⟨-, hscript⟩ := generatesFrom_ok_iff.mp hgenerates
    rw [(namespaces_references_of_scriptOf_eq_ok hscript).2]
    nofun

/-- A generated script is read back from its script file, and so no two of them have the same
one, as long as no name in them has a line feed. -/
theorem ofFile_of_isGenerated {s s' : Script} (hs : s.IsGenerated) (hs' : s'.IsGenerated)
    (hnames : s.NamesOnSingleLines) (hnames' : s'.NamesOnSingleLines) :
  ofFile (s.render .script) = s ∧ (s.render .script = s'.render .script → s = s')
  := by
  have hread : ∀ t : Script, t.IsGenerated → t.NamesOnSingleLines →
      ofFile (t.render .script) = t := by
    intro t ht hnames
    apply ofFile_toScriptFile hnames ht.references_ne_nil
  use hread s hs hnames
  intro hrender
  rw [← hread s hs hnames, hrender, hread s' hs' hnames']

/-- A script of which the names hold quotes, backslashes and semicolons. -/
def punctuated : Script where
  source := "public void Clean()\n\x7b\n    Tools.ToolAliases.Clean();\n\x7d\n\n"
  namespaces := .ofList ["A\\\";", "B;\"\\"]
  references := ["C:\\\"Tools\";\\"]

/-- The alias that the script is generated for. -/
def punctuatedAlias : Alias :=
  let clean := Alias.ofMethod "Clean" (.plain "Tools" "ToolAliases") .void
  (clean.withNamespace "B;\"\\").withNamespace "A\\\";"

theorem ofFile_of_isGenerated_punctuated :
  punctuated.IsGenerated ∧ (⟨"", .empty, ["\\"]⟩ : Script).IsGenerated
    ∧ punctuated.NamesOnSingleLines ∧ (⟨"", .empty, ["\\"]⟩ : Script).NamesOnSingleLines
    ∧ ofFile (punctuated.render .script) = punctuated
    ∧ (punctuated.render .script = (⟨"", .empty, ["\\"]⟩ : Script).render .script →
      punctuated = ⟨"", .empty, ["\\"]⟩)
  := by
  have hscript : scriptOf {} "C:\\\"Tools\";\\" [punctuatedAlias] = .ok punctuated := by
    decide +kernel
  have hs : punctuated.IsGenerated :=
    isGenerated_iff.mpr (.inr ⟨_, _, _, generatesFrom_ok_iff.mpr ⟨by decide, hscript⟩⟩)
  have hs' : (⟨"", .empty, ["\\"]⟩ : Script).IsGenerated :=
    isGenerated_iff.mpr (.inr ⟨{}, "\\", [], generatesFrom_ok_iff.mpr ⟨by decide, rfl⟩⟩)
  have hnames : punctuated.NamesOnSingleLines :=
    ⟨by decide, by change ∀ ns ∈ punctuated.namespaces.toList, SingleLine ns; decide⟩
  have hnames' : (⟨"", .empty, ["\\"]⟩ : Script).NamesOnSingleLines := ⟨by decide, nofun⟩
  exact ⟨hs, hs', hnames, hnames', ofFile_of_isGenerated hs hs' hnames hnames'⟩

end Script

end AliasBinding
