import AliasBinding.Declaration
import AliasBinding.Proofs.Text.Quotation
import AliasBinding.Verification
import Mathlib.Data.Bool.AllAny
import Mathlib.Data.List.Basic

/-!
# Literals and the ends of source lines

C# ends a line with a line feed, a carriage return or a next line character, and also with the line
separator and the paragraph separator of Unicode.  A literal has to be closed on the line on which
it is opened.  The first three are control characters, so they are in no literal, whatever is
quoted.  The two separators are not, and stand in a literal as they are quoted: a literal stays on
its line, and is closed there, exactly when neither of them is quoted
(`literals_stay_on_line_iff`).
-/

namespace AliasBinding

namespace Text

/-- The characters with which C# ends a line. -/
def lineEnds : List Char := ['\n', '\r', '\x85', '\u2028', '\u2029']

/-- The line separator and the paragraph separator, which are no control characters. -/
def lineSeparators : List Char := ['\u2028', '\u2029']

/-- No character of the text ends a line. -/
def OnSourceLine (s : String) : Prop := ∀ c ∈ lineEnds, c ∉ s.toList

instance (s : String) : Decidable (OnSourceLine s) :=
  List.decidableBAll (· ∉ s.toList) lineEnds

/-- Neither separator is in the text. -/
def HasNoSeparator (s : String) : Prop := ∀ c ∈ lineSeparators, c ∉ s.toList

/-- The text up to the first end of a line. -/
def sourceLine (s : String) : String := String.ofList (s.toList.takeWhile (· ∉ lineEnds))

/-- The literal in front of the text is closed on the line on which it is opened. -/
def IsClosedOnLine (quote : Char) (s : String) : Prop :=
  (readLiteral? quote (sourceLine s)).isSome = true

instance (quote : Char) (s : String) : Decidable (IsClosedOnLine quote s) :=
  inferInstanceAs (Decidable ((readLiteral? quote (sourceLine s)).isSome = true))

@[simp]
theorem onSourceLine_append {s t : String} :
  OnSourceLine (s ++ t) ↔ OnSourceLine s ∧ OnSourceLine t
  := by
  simp only [OnSourceLine, String.toList_append, List.mem_append, not_or, forall_and]

theorem isPrintable_of_mem_lineEnds :
  ∀ c ∈ lineEnds, isPrintable c = false
  := List.all_iff_forall_prop.mp (by decide)

/-- The separators are the ends of lines that are no control characters. -/
theorem mem_lineSeparators_iff {c : Char} :
  c ∈ lineSeparators ↔ c ∈ lineEnds ∧ isControl c = false
  := by
  constructor
  · have hends : ∀ d ∈ lineSeparators, d ∈ lineEnds ∧ isControl d = false :=
      List.all_iff_forall_prop.mp (by decide)
    apply hends c
  · have hseparators : ∀ d ∈ lineEnds, isControl d = false → d ∈ lineSeparators :=
      List.all_iff_forall_prop.mp (by decide)
    rintro ⟨hc, hcontrol⟩
    apply hseparators c hc hcontrol

section Quoted

variable {quote : Char} (hquote : escape? quote = some quote)

include hquote

/-- The ends of lines in a spelling are separators, spelled as they are. -/
theorem mem_spellChar_iff_of_mem_lineEnds {e : Char} (he : e ∈ lineEnds) (c : Char) :
  e ∈ spellChar quote c ↔ e = c ∧ e ∈ lineSeparators
  := by
  rw [mem_spellChar_iff hquote (isPrintable_of_mem_lineEnds e he), mem_lineSeparators_iff,
    and_iff_right he]

/-- What is quoted stays on its line exactly when there is no separator in it. -/
theorem onSourceLine_quoted_iff (cs : List Char) :
  OnSourceLine (String.ofList (quoted quote cs)) ↔ ∀ c ∈ lineSeparators, c ∉ cs
  := by
  rw [OnSourceLine, String.toList_ofList]
  constructor
  · intro h c hc hmem
    obtain ⟨hend, hcontrol⟩ := mem_lineSeparators_iff.mp hc
    apply h c hend
    exact (mem_quoted_iff hquote (isPrintable_of_mem_lineEnds c hend) cs).mpr ⟨hmem, hcontrol⟩
  · intro h c hend hmem
    obtain ⟨hc, hcontrol⟩ :=
      (mem_quoted_iff hquote (isPrintable_of_mem_lineEnds c hend) cs).mp hmem
    exact h c (mem_lineSeparators_iff.mpr ⟨hend, hcontrol⟩) hc

/-- The line of a literal ends with what is quoted in front of the first separator. -/
theorem takeWhile_flatMap_spellChar {cs : List Char} (h : ∃ c ∈ lineSeparators, c ∈ cs)
    (tail : List Char) :
  (cs.flatMap (spellChar quote) ++ tail).takeWhile (· ∉ lineEnds)
    = (cs.takeWhile (· ∉ lineSeparators)).flatMap (spellChar quote)
  := by
  induction cs with
  | nil =>
    obtain ⟨c, -, hc⟩ := h
    cases hc
  | cons c cs ih =>
    rw [List.flatMap_cons, List.append_assoc]
    by_cases hc : c ∈ lineSeparators
    · obtain ⟨hend, hcontrol⟩ := mem_lineSeparators_iff.mp hc
      rw [spellChar_eq_singleton hquote (isPrintable_of_mem_lineEnds c hend) hcontrol,
        List.singleton_append, List.takeWhile_cons_of_neg (by simpa using hend),
        List.takeWhile_cons_of_neg (by simpa using hc), List.flatMap_nil]
    · have hspelled : ∀ e ∈ spellChar quote c, decide (e ∉ lineEnds) = true := by
        intro e he
        apply decide_eq_true
        intro hend
        obtain ⟨rfl, hseparator⟩ := (mem_spellChar_iff_of_mem_lineEnds hquote hend c).mp he
        exact hc hseparator
      have hrest : ∃ d ∈ lineSeparators, d ∈ cs := by
        obtain ⟨d, hd, hmem⟩ := h
        obtain rfl | hmem := List.mem_cons.mp hmem
        · exact absurd hd hc
        · exact ⟨d, hd, hmem⟩
      rw [List.takeWhile_append_of_pos hspelled, ih hrest,
        List.takeWhile_cons_of_pos (by simpa using hc), List.flatMap_cons]

/-- What is quoted is closed by its quote only. -/
theorem readQuoted?_flatMap_spellChar_eq_none (cs : List Char) :
  readQuoted? quote (cs.flatMap (spellChar quote)) = none
  := by
  induction cs with
  | nil => rw [List.flatMap_nil, readQuoted?]
  | cons c cs ih => rw [List.flatMap_cons, readQuoted?_spellChar hquote, ih, Option.map_none]

/-- A literal, whatever follows it, is closed on its line exactly when there is no separator in
it. -/
theorem isClosedOnLine_quoted_iff (hne : quote ≠ '\\') (cs : List Char) (rest : String) :
  IsClosedOnLine quote (String.ofList (quoted quote cs) ++ rest)
    ↔ ∀ c ∈ lineSeparators, c ∉ cs
  := by
  have hstart : quote ∉ lineEnds := by
    intro hend
    have hprintable := (isPrintable_of_escape? hquote).1
    rw [isPrintable_of_mem_lineEnds quote hend] at hprintable
    cases hprintable
  have hread (line : List Char) : (readLiteral? quote (String.ofList (quote :: line))).isSome
      = (readQuoted? quote line).isSome := by
    rw [readLiteral?, String.toList_ofList]
    simp only [if_true, Option.isSome_map]
  by_cases h : ∀ c ∈ lineSeparators, c ∉ cs
  · have hclosed : ∀ c ∈ quoted quote cs, decide (c ∉ lineEnds) = true := by
      intro c hc
      have honLine := (onSourceLine_quoted_iff hquote cs).mpr h
      rw [OnSourceLine, String.toList_ofList] at honLine
      apply decide_eq_true
      intro hend
      exact honLine c hend hc
    rw [iff_true_right h, IsClosedOnLine, sourceLine, String.toList_append, String.toList_ofList,
      List.takeWhile_append_of_pos hclosed, quoted, List.cons_append, hread, List.append_assoc,
      List.singleton_append, readQuoted?_flatMap_spellChar hquote hne]
    rfl
  · rw [iff_false_right h, IsClosedOnLine, sourceLine, String.toList_append, String.toList_ofList,
      quoted, List.cons_append, List.takeWhile_cons_of_pos (by simpa using hstart),
      List.append_assoc, takeWhile_flatMap_spellChar hquote (by simpa using h), hread,
      readQuoted?_flatMap_spellChar_eq_none hquote]
    apply Bool.false_ne_true

end Quoted

theorem notMem_singleton_iff {c : Char} :
  (∀ d ∈ lineSeparators, d ∉ [c]) ↔ c ∉ lineSeparators
  := by
  simp only [List.mem_singleton]
  constructor
  · intro h hc
    exact h c hc rfl
  · rintro h d hd rfl
    exact h hd

theorem onSourceLine_stringLiteral_iff {s : String} :
  OnSourceLine (stringLiteral s) ↔ HasNoSeparator s
  := onSourceLine_quoted_iff rfl s.toList

theorem onSourceLine_charLiteral_iff {c : Char} :
  OnSourceLine (charLiteral c) ↔ c ∉ lineSeparators
  := (onSourceLine_quoted_iff rfl [c]).trans notMem_singleton_iff

end Text

open Text

/-- The attribute of an alias stays on its line exactly when there is no separator in its
message. -/
theorem Obsolete.onSourceLine_attributeText_iff {o : Obsolete} :
  OnSourceLine o.attributeText ↔ ∀ message, o.message? = some message → HasNoSeparator message
  := by
  obtain ⟨message?, isError⟩ := o
  cases message? with
  | none =>
    rw [iff_true_right nofun]
    cases isError with
    | true | false => decide
  | some message =>
    have htext : attributeText ⟨some message, isError⟩
        = "[System.Obsolete(" ++ stringLiteral message
          ++ (if isError then ", true)]" else ")]") := by
      cases isError with
      | true => simp [attributeText, arguments, String.append_assoc]
      | false => simp [attributeText, arguments]
    have hopening : OnSourceLine "[System.Obsolete(" := by decide
    have hclosing : OnSourceLine (if isError then ", true)]" else ")]") := by
      cases isError with
      | true | false => decide
    simp only [Option.some.injEq, forall_eq', htext]
    rw [onSourceLine_append, onSourceLine_append, and_iff_right hopening, and_iff_left hclosing,
      onSourceLine_stringLiteral_iff]

/-- A literal, whatever follows it, stays on its line and is closed there exactly when no separator
is quoted.  So the attribute of an alias stays on its line exactly when there is none in the
message, and a default exactly when there is none in its string, or when it is not its
character. -/
theorem literals_stay_on_line_iff (s rest : String) (c : Char) (o : Obsolete) (qualify : Bool)
    (name : String) (type : TypeExpr) :
  ((OnSourceLine (stringLiteral s) ↔ HasNoSeparator s)
      ∧ (IsClosedOnLine '"' (stringLiteral s ++ rest) ↔ HasNoSeparator s))
    ∧ ((OnSourceLine (charLiteral c) ↔ c ∉ lineSeparators)
      ∧ (IsClosedOnLine '\'' (charLiteral c ++ rest) ↔ c ∉ lineSeparators))
    ∧ (OnSourceLine o.attributeText
      ↔ ∀ message, o.message? = some message → HasNoSeparator message)
    ∧ (∃ text, Constant.text qualify name type (.string s) = .ok text
      ∧ (OnSourceLine text ↔ HasNoSeparator s))
    ∧ ∃ text, Constant.text qualify name type (.char c) = .ok text
      ∧ (OnSourceLine text ↔ c ∉ lineSeparators)
  := by
  have hstring : IsClosedOnLine '"' (stringLiteral s ++ rest) ↔ HasNoSeparator s :=
    isClosedOnLine_quoted_iff rfl (by decide) s.toList rest
  have hchar : IsClosedOnLine '\'' (charLiteral c ++ rest) ↔ c ∉ lineSeparators :=
    (isClosedOnLine_quoted_iff rfl (by decide) [c] rest).trans notMem_singleton_iff
  exact ⟨⟨onSourceLine_stringLiteral_iff, hstring⟩, ⟨onSourceLine_charLiteral_iff, hchar⟩,
    o.onSourceLine_attributeText_iff, ⟨stringLiteral s, rfl, onSourceLine_stringLiteral_iff⟩,
    ⟨charLiteral c, rfl, onSourceLine_charLiteral_iff⟩⟩

/-- An obsolete method with a line separator in its message and a paragraph separator as a
default. -/
def markParagraph : Alias :=
  (((Alias.ofMethod "Mark" (.plain "Tools" "ToolAliases") .void).withParameter
      (.receiver "context" (.plain "Core" "IContext"))).withParameter
      ⟨"mark", .plain "System" "Char", .value, some (.char '\u2029')⟩).withObsolete
    ⟨some "Old.\u2028Use Part.", false⟩

/-- The separators are accepted and written as they are, so neither literal is closed on its
line. -/
theorem separators_stand_in_literals :
  Alias.verify [markParagraph] = []
    ∧ markParagraph.declaration {} = .ok ("[System.Obsolete(\"Old.\u2028Use Part.\")]\n"
      ++ "public void Mark(char mark = '\u2029')\n\x7b\n"
      ++ "    Tools.ToolAliases.Mark(Context, mark);\n\x7d")
    ∧ ¬OnSourceLine (stringLiteral "Old.\u2028Use Part.")
    ∧ ¬IsClosedOnLine '"' (stringLiteral "Old.\u2028Use Part." ++ ")]")
    ∧ ¬OnSourceLine (charLiteral '\u2029')
    ∧ ¬IsClosedOnLine '\'' (charLiteral '\u2029' ++ ")")
  := by
  refine ⟨by decide, by decide +kernel, by decide, by decide, by decide, by decide⟩

end AliasBinding
