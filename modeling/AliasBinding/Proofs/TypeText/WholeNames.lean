import AliasBinding.Proofs.TypeText.Agreement
import AliasBinding.Proofs.TypeText.Skeleton
import Mathlib.Data.List.Chain

/-!
# Names that are written whole

A type without a name has no text.  The name is looked at before it is cut, though: of a part that
begins with a backtick nothing is written, and a part may be empty from the start.  The text of a
type with such a name has a path with an empty segment.  In all other texts no segment of a path
is empty, and dots stand between other characters only (`writesWholeNames_iff`).
-/

namespace AliasBinding

/-! ### Dots in texts -/

namespace Text

/-- Dots stand neither at the ends of the text nor next to each other. -/
structure HasInnerDots (cs : List Char) : Prop where
  head?_ne : cs.head? ≠ some '.'
  getLast?_ne : cs.getLast? ≠ some '.'
  apart : cs.IsChain fun c d => c ≠ '.' ∨ d ≠ '.'

namespace HasInnerDots

variable {cs cs' : List Char}

theorem of_notMem (h : '.' ∉ cs) :
  HasInnerDots cs
  := by
  constructor
  case head?_ne =>
    intro hhead
    apply h (List.mem_of_mem_head? hhead)
  case getLast?_ne =>
    intro hlast
    apply h (List.mem_of_mem_getLast? hlast)
  case apart =>
    apply List.Pairwise.isChain
    apply List.pairwise_of_forall_mem_list
    rintro c hc d -
    left
    rintro rfl
    exact h hc

theorem append (h : HasInnerDots cs) (h' : HasInnerDots cs') :
  HasInnerDots (cs ++ cs')
  := by
  constructor
  case head?_ne =>
    rw [List.head?_append, ne_eq, Option.or_eq_some_iff, not_or, not_and]
    exact ⟨h.head?_ne, fun _ => h'.head?_ne⟩
  case getLast?_ne =>
    rw [List.getLast?_append, ne_eq, Option.or_eq_some_iff, not_or, not_and]
    exact ⟨h'.getLast?_ne, fun _ => h.getLast?_ne⟩
  case apart =>
    rw [List.isChain_append]
    refine ⟨h.apart, h'.apart, ?_⟩
    rintro c hc d -
    left
    rintro rfl
    exact h.getLast?_ne hc

/-- A dot may be put between texts that are not empty. -/
theorem append_dot_append (h : HasInnerDots cs) (h' : HasInnerDots cs') (hne : cs ≠ [])
    (hne' : cs' ≠ []) :
  HasInnerDots (cs ++ '.' :: cs')
  := by
  constructor
  case head?_ne =>
    rw [List.head?_append_of_ne_nil _ hne]
    apply h.head?_ne
  case getLast?_ne =>
    rw [List.getLast?_append_cons, List.getLast?_cons_of_ne_nil hne']
    apply h'.getLast?_ne
  case apart =>
    rw [List.isChain_append, List.isChain_cons]
    refine ⟨h.apart, ⟨?_, h'.apart⟩, ?_⟩
    · rintro d hd
      right
      rintro rfl
      exact h'.head?_ne hd
    · rintro c hc d -
      left
      rintro rfl
      exact h.getLast?_ne hc

end HasInnerDots

end Text

/-- A piece of a text that was split has its characters from the text, the separator apart. -/
theorem mem_of_mem_splitOn {separator : Char} {cs piece : List Char}
    (h : piece ∈ cs.splitOn separator) :
  ∀ c ∈ piece, c ≠ separator ∧ c ∈ cs
  := by
  induction cs generalizing piece with
  | nil =>
    rw [List.splitOn_nil, List.mem_singleton] at h
    rw [h]
    nofun
  | cons d cs ih =>
    obtain ⟨first, rest, hsplit⟩ := List.exists_cons_of_ne_nil (List.splitOn_ne_nil separator cs)
    rw [List.splitOn_cons_eq_if_modifyHead] at h
    split at h
    case isTrue =>
      obtain rfl | h := List.mem_cons.mp h
      · nofun
      · intro c hc
        exact (ih h c hc).imp_right (List.mem_cons_of_mem d)
    case isFalse hd =>
      rw [hsplit, List.modifyHead_cons, List.mem_cons] at h
      rw [hsplit, List.forall_mem_cons] at ih
      intro c hc
      obtain rfl | h := h
      · obtain rfl | hc := List.mem_cons.mp hc
        · exact ⟨by simpa using hd, List.mem_cons_self⟩
        · exact (ih.1 c hc).imp_right (List.mem_cons_of_mem d)
      · exact (ih.2 piece h c hc).imp_right (List.mem_cons_of_mem d)

namespace Skeleton

/-- The segments of a path are neither empty nor dotted. -/
def IsWholePath (path : List String) : Prop :=
  path ≠ [] ∧ ∀ segment ∈ path, segment ≠ "" ∧ '.' ∉ segment.toList

theorem IsWholePath.pathText_ne_empty {path : List String} (h : IsWholePath path) :
  pathText path ≠ ""
  := Skeleton.pathText_ne_empty h.1 fun segment hsegment => (h.2 segment hsegment).1

theorem hasInnerDots_pathText {path : List String} (h : IsWholePath path) :
  Text.HasInnerDots (pathText path).toList
  := by
  induction path with
  | nil => exact absurd rfl h.1
  | cons segment path ih =>
    obtain ⟨hsegment, hsegments⟩ := List.forall_mem_cons.mp h.2
    have hinner := Text.HasInnerDots.of_notMem hsegment.2
    cases path with
    | nil =>
      rw [pathText_singleton]
      apply hinner
    | cons next path =>
      have hrest : IsWholePath (next :: path) := ⟨List.cons_ne_nil _ _, hsegments⟩
      rw [pathText_cons_cons]
      apply hinner.append_dot_append (ih hrest)
      · simpa using hsegment.1
      · simpa using hrest.pathText_ne_empty

theorem hasInnerDots_commaList {texts : List String}
    (h : ∀ text ∈ texts, Text.HasInnerDots text.toList) :
  Text.HasInnerDots (commaList texts).toList
  := by
  induction texts with
  | nil => exact .of_notMem (by decide)
  | cons text texts ih =>
    rw [List.forall_mem_cons] at h
    obtain ⟨htext, htexts⟩ := h
    cases texts with
    | nil =>
      rw [commaList, String.intercalate_singleton]
      apply htext
    | cons next texts =>
      rw [commaList, String.intercalate_cons_cons, String.toList_append, String.toList_append]
      exact (htext.append (.of_notMem (by decide))).append (ih htexts)

theorem hasInnerDots_argumentList {texts : List String}
    (h : ∀ text ∈ texts, Text.HasInnerDots text.toList) :
  Text.HasInnerDots (argumentList texts).toList
  := by
  cases texts with
  | nil => exact .of_notMem (by decide)
  | cons text texts =>
    rw [argumentList_cons, String.toList_append, String.toList_append]
    apply Text.HasInnerDots.append (Text.HasInnerDots.append _ (hasInnerDots_commaList h))
    · exact .of_notMem (by decide)
    · exact .of_notMem (by decide)

theorem hasInnerDots_suffixes (suffixes : List Suffix) :
  Text.HasInnerDots (String.join (suffixes.map Suffix.text)).toList
  := by
  apply Text.HasInnerDots.of_notMem
  induction suffixes with
  | nil => decide
  | cons suffix suffixes ih =>
    rw [List.map_cons, String.join_cons, String.toList_append, List.mem_append, not_or]
    refine ⟨?_, ih⟩
    cases suffix with
    | question => decide
    | rank commas => simp [Suffix.text]

mutual

/-- A text with whole paths has dots inside of paths only. -/
theorem hasInnerDots_text :
  ∀ s : Skeleton, (∀ path ∈ s.paths, IsWholePath path) → Text.HasInnerDots s.text.toList
  | .mk path arguments suffixes, h => by
    rw [paths, List.forall_mem_cons] at h
    obtain ⟨hpath, harguments⟩ := h
    have htexts := hasInnerDots_argumentList (hasInnerDots_texts arguments harguments)
    rw [text, String.toList_append, String.toList_append]
    exact ((hasInnerDots_pathText hpath).append htexts).append (hasInnerDots_suffixes suffixes)

theorem hasInnerDots_texts :
  ∀ ss : List Skeleton, (∀ path ∈ pathsIn ss, IsWholePath path) →
    ∀ text ∈ texts ss, Text.HasInnerDots text.toList
  | [], _ => nofun
  | s :: ss, h => by
    rw [pathsIn, List.forall_mem_append] at h
    rw [texts, List.forall_mem_cons]
    exact ⟨hasInnerDots_text s h.1, hasInnerDots_texts ss h.2⟩

end

/-- The names in a skeleton, from left to right. -/
def names (s : Skeleton) : List String := s.paths.map pathText

theorem text_ne_empty {s : Skeleton} (h : ∀ path ∈ s.paths, IsWholePath path) :
  s.text ≠ ""
  := by
  cases s with
  | mk path arguments suffixes =>
    rw [paths, List.forall_mem_cons] at h
    have hpath := h.1.pathText_ne_empty
    simp [text, hpath]

end Skeleton

namespace TypeExpr

/-! ### Whole names -/

/-- What is asked of a type apart from the types in it: a dot is no part of its name, and no segment
of its namespace is empty; a type parameter has an identifier or nothing for a name. -/
def IsUndottedItself : TypeExpr → Prop
  | .named ns name _ _ => '.' ∉ name.toList
    ∧ ∀ n ∈ ns, n = "" ∨ ∀ segment ∈ dotSegments n, segment ≠ ""
  | .parameter name => name = "" ∨ Text.isIdentifier name = true
  | .array _ _ | .nullable _ | .byRef _ => True

instance : DecidablePred IsUndottedItself
  | .named _ _ _ _ => inferInstanceAs (Decidable (_ ∧ _))
  | .parameter _ => inferInstanceAs (Decidable (_ ∨ _))
  | .array _ _ | .nullable _ | .byRef _ => inferInstanceAs (Decidable True)

/-- Every type that occurs in the type is undotted itself. -/
def IsUndotted (t : TypeExpr) : Prop := ∀ s, Occurs s t → s.IsUndottedItself

instance (t : TypeExpr) : Decidable t.IsUndotted :=
  inferInstanceAs (Decidable (∀ s, Occurs s t → s.IsUndottedItself))

/-- The segments of the name of a type, without those of the types in it. -/
def ownSegments : TypeExpr → List String
  | .named _ name _ _ => nameSegments name
  | .parameter _ | .array _ _ | .nullable _ | .byRef _ => []

/-- Something is written of each part of each name: no part is empty or begins with a backtick. -/
def HasWholeParts (t : TypeExpr) : Prop :=
  ∀ s, Occurs s t → ∀ segment ∈ s.ownSegments, segment ≠ ""

instance (t : TypeExpr) : Decidable t.HasWholeParts :=
  inferInstanceAs (Decidable (∀ s, Occurs s t → ∀ segment ∈ s.ownSegments, segment ≠ ""))

/-- The text of a type has names with segments that are not empty, and so has dots inside of names
only. -/
structure WritesWholeNames (qualify : Bool) (t : TypeExpr) (written : String) : Prop where
  written_eq : written = (t.skeleton qualify).text
  segment_ne : ∀ name ∈ (t.skeleton qualify).names, ∀ segment ∈ dotSegments name, segment ≠ ""
  name_dots : ∀ name ∈ (t.skeleton qualify).names, Text.HasInnerDots name.toList
  written_ne : written ≠ ""
  written_dots : Text.HasInnerDots written.toList

theorem dot_notMem_of_mem_dotSegments {segment s : String} (h : segment ∈ dotSegments s) :
  '.' ∉ segment.toList
  := by
  obtain ⟨piece, hpiece, rfl⟩ := List.mem_map.mp h
  rw [String.toList_ofList]
  intro hdot
  exact (mem_of_mem_splitOn hpiece '.' hdot).1 rfl

theorem dot_notMem_of_mem_nameSegments {segment name : String} (hname : '.' ∉ name.toList)
    (h : segment ∈ nameSegments name) :
  '.' ∉ segment.toList
  := by
  obtain ⟨piece, hpiece, rfl⟩ := List.mem_map.mp h
  rw [String.toList_ofList]
  intro hdot
  exact hname (mem_of_mem_splitOn hpiece '.' ((List.takeWhile_subset _) hdot)).2

section Undotted

variable {qualify : Bool} {t : TypeExpr}

/-- No segment has a dot, and none is empty, those of names apart. -/
theorem IsUndotted.segments (h : t.IsUndotted) (hflawless : t.IsFlawless) {path : List String}
    (hpath : path ∈ (t.skeleton qualify).paths) :
  path ≠ [] ∧ ∀ segment ∈ path, '.' ∉ segment.toList
    ∧ (segment ≠ "" ∨ ∃ s, Occurs s t ∧ segment ∈ s.ownSegments)
  := by
  obtain ⟨s, hs, hown⟩ := mem_paths_skeleton_iff.mp hpath
  have hundotted := h s hs
  cases s with
  | named ns name arguments isValue =>
    cases hown
    obtain ⟨hname, hnamespace⟩ := hundotted
    refine ⟨namedPath_ne_nil, fun segment hsegment => ?_⟩
    obtain ⟨name', hkeyword⟩ | ⟨n, hn, hne, hsegment⟩ | hsegment := mem_namedPath hsegment
    · have hkeywords : ∀ k ∈ keywords, '.' ∉ k.2.toList ∧ k.2 ≠ "" := by decide
      obtain ⟨hdot, hne⟩ := hkeywords _ hkeyword
      exact ⟨hdot, .inl hne⟩
    · have hsegments := (hnamespace n hn).resolve_left hne
      exact ⟨dot_notMem_of_mem_dotSegments hsegment, .inl (hsegments segment hsegment)⟩
    · exact ⟨dot_notMem_of_mem_nameSegments hname hsegment,
        .inr ⟨_, hs, hsegment⟩⟩
  | parameter name =>
    cases hown
    have hspelling := Text.isSpelling_escaped
      (hundotted.resolve_left (hflawless.parameter_ne name hs))
    refine ⟨List.cons_ne_nil _ _, ?_⟩
    rw [List.forall_mem_singleton]
    exact ⟨Text.notMem_of_isSpelling (by decide) (by decide) hspelling, .inl hspelling.ne_empty⟩
  | array | nullable | byRef => cases hown

/-- Where something is written of every part of a name, paths are whole. -/
theorem IsUndotted.isWholePath (h : t.IsUndotted) (hflawless : t.IsFlawless)
    (hparts : t.HasWholeParts) {path : List String} (hpath : path ∈ (t.skeleton qualify).paths) :
  Skeleton.IsWholePath path
  := by
  obtain ⟨hne, hsegments⟩ := h.segments hflawless hpath
  refine ⟨hne, fun segment hsegment => ?_⟩
  obtain ⟨hdot, hsegment | ⟨s, hs, hsegment⟩⟩ := hsegments segment hsegment
  · exact ⟨hsegment, hdot⟩
  · exact ⟨hparts s hs segment hsegment, hdot⟩

/-- The segments of a name are written, unless there is a keyword for it. -/
theorem mem_paths_or_keyword (qualify : Bool) {ns : Option String} {name : String}
    {arguments : List TypeExpr} {isValue : Bool}
    (hs : Occurs (.named ns name arguments isValue) t) :
  (∃ path ∈ (t.skeleton qualify).paths, ∀ segment ∈ nameSegments name, segment ∈ path)
    ∨ ∃ keyword, (name, keyword) ∈ keywords
  := by
  cases hkeyword : keyword? (.named ns name arguments isValue) with
  | some keyword => exact .inr ⟨keyword, (mem_keywords_of_keyword? hkeyword).2.2⟩
  | none =>
    refine .inl ⟨namespaceSegments qualify ns ++ nameSegments name, ?_, ?_⟩
    · apply mem_paths_skeleton_iff.mpr ⟨_, hs, ?_⟩
      rw [ownPath?, hkeyword]
      rfl
    · intro segment hsegment
      apply List.mem_append_right _ hsegment

/-- The names in the text of an undotted type are whole exactly when something is written of each
part of each name in the type. -/
theorem writesWholeNames_iff {written : String} (h : t.IsUndotted)
    (hwritten : t.text qualify = .ok written) :
  t.WritesWholeNames qualify written ↔ t.HasWholeParts
  := by
  obtain ⟨hflawless, rfl⟩ := text_eq_ok_iff.mp hwritten
  constructor
  · intro hwhole s hs segment hsegment
    cases s with
    | named ns name arguments isValue =>
      obtain ⟨path, hpath, hmem⟩ | ⟨keyword, hkeyword⟩ := mem_paths_or_keyword qualify hs
      · obtain ⟨hne, hsegments⟩ := h.segments hflawless hpath
        apply hwhole.segment_ne _ (List.mem_map_of_mem hpath)
        rw [dotSegments_pathText hne fun segment hsegment => (hsegments segment hsegment).1]
        apply hmem segment hsegment
      · have hkeywords : ∀ k ∈ keywords, ∀ segment ∈ nameSegments k.1, segment ≠ "" := by decide
        apply hkeywords _ hkeyword segment hsegment
    | parameter | array | nullable | byRef => cases hsegment
  · intro hparts
    have hpaths : ∀ path ∈ (t.skeleton qualify).paths, Skeleton.IsWholePath path :=
      fun _ hpath => h.isWholePath hflawless hparts hpath
    constructor
    case written_eq => rfl
    case segment_ne =>
      rw [Skeleton.names, List.forall_mem_map]
      intro path hpath segment hsegment
      obtain ⟨hne, hsegments⟩ := hpaths path hpath
      rw [dotSegments_pathText hne fun segment hsegment => (hsegments segment hsegment).2]
        at hsegment
      apply (hsegments segment hsegment).1
    case name_dots =>
      rw [Skeleton.names, List.forall_mem_map]
      intro path hpath
      apply Skeleton.hasInnerDots_pathText (hpaths path hpath)
    case written_ne => apply Skeleton.text_ne_empty hpaths
    case written_dots => apply Skeleton.hasInnerDots_text _ hpaths

end Undotted

/-- A row of a table, with a part of its name that only counts type arguments. -/
def rowOfTable : TypeExpr :=
  .applied (.plain "Tools.Data" "Table`2+Row`1") [.array (.plain "" "Cell<>") 2, .parameter "in"]

theorem writesWholeNames_iff_rowOfTable :
  rowOfTable.IsUndotted ∧ rowOfTable.text true = .ok "Tools.Data.Table.Row<Cell<>[,], @in>"
    ∧ rowOfTable.WritesWholeNames true "Tools.Data.Table.Row<Cell<>[,], @in>"
  := by
  have hundotted : rowOfTable.IsUndotted := by decide
  have htext : rowOfTable.text true = .ok "Tools.Data.Table.Row<Cell<>[,], @in>" := by decide
  exact ⟨hundotted, htext, (writesWholeNames_iff hundotted htext).mpr (by decide)⟩

/-- A name that consists of a count of type arguments is accepted, and nothing is written of it. -/
theorem nameless_type_is_written :
  IsUndotted (.plain "Tools" "`1") ∧ issues [] (.plain "Tools" "`1") = []
    ∧ text true (.plain "Tools" "`1") = .ok "Tools."
    ∧ ¬WritesWholeNames true (.plain "Tools" "`1") "Tools."
    ∧ text false (.plain "Tools" "`1") = .ok ""
    ∧ ¬WritesWholeNames false (.plain "Tools" "`1") ""
  := by
  refine ⟨by decide, by decide, by decide, ?_, by decide, ?_⟩
  · intro h
    exact absurd h.written_dots.getLast?_ne (by decide)
  · intro h
    exact h.written_ne rfl

end TypeExpr

end AliasBinding
