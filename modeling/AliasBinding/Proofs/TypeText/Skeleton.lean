import AliasBinding.Proofs.Text.SingleLine
import AliasBinding.Proofs.TypeText.Flaws

/-!
# What is written of a type

The skeleton of a type is what its text says: the segments of a path, the skeletons of the type
arguments, and the suffixes behind them, question marks and rank specifiers, from the inside out.
By-reference marks leave nothing in it, nor do namespaces that are left out, or the counts of
type arguments in names.  A flawless type has the text of its skeleton (`text_eq_ok_iff`), and
the paths in the skeleton are those of the types in the type, in reading order
(`paths_skeleton`).
-/

namespace AliasBinding

/-! ### Skeletons -/

/-- What is added to the text of a type: a question mark, or a rank specifier with its commas. -/
inductive Suffix where
  | question
  | rank (commas : Nat)
  deriving DecidableEq

/-- The text of a suffix. -/
def Suffix.text : Suffix → String
  | .question => "?"
  | .rank commas => String.ofList ('[' :: (List.replicate commas ',' ++ [']']))

/-- What is written of a type. -/
inductive Skeleton where
  | mk (path : List String) (arguments : List Skeleton) (suffixes : List Suffix)

namespace Skeleton

/-- The skeleton with a further suffix. -/
def suffixed : Skeleton → Suffix → Skeleton
  | .mk path arguments suffixes, suffix => .mk path arguments (suffixes ++ [suffix])

/-- The segments of a path with dots between them. -/
def pathText (path : List String) : String := ".".intercalate path

/-- Texts of type arguments in angle brackets, or nothing when there are none. -/
def argumentList : List String → String
  | [] => ""
  | texts => "<" ++ commaList texts ++ ">"

theorem argumentList_cons (text : String) (texts : List String) :
  argumentList (text :: texts) = "<" ++ commaList (text :: texts) ++ ">"
  := rfl

mutual

/-- The text of a skeleton. -/
def text : Skeleton → String
  | .mk path arguments suffixes =>
    pathText path ++ argumentList (texts arguments) ++ String.join (suffixes.map Suffix.text)

/-- The texts of a list of skeletons. -/
def texts : List Skeleton → List String
  | [] => []
  | s :: rest => s.text :: texts rest

end

mutual

/-- The paths in a skeleton, from left to right. -/
def paths : Skeleton → List (List String)
  | .mk path arguments _ => path :: pathsIn arguments

/-- The paths in a list of skeletons, from left to right. -/
def pathsIn : List Skeleton → List (List String)
  | [] => []
  | s :: rest => s.paths ++ pathsIn rest

end

theorem pathText_singleton (segment : String) :
  pathText [segment] = segment
  := String.intercalate_singleton

theorem pathText_append {path path' : List String} (hpath : path ≠ []) (hpath' : path' ≠ []) :
  pathText (path ++ path') = pathText path ++ "." ++ pathText path'
  := String.intercalate_append_of_ne_nil hpath hpath'

theorem pathText_cons_cons (segment next : String) (path : List String) :
  (pathText (segment :: next :: path)).toList
    = segment.toList ++ '.' :: (pathText (next :: path)).toList
  := by
  rw [pathText, String.intercalate_cons_cons, String.toList_append, String.toList_append,
    List.append_assoc]
  rfl

theorem pathText_ne_empty {path : List String} (hne : path ≠ [])
    (hpath : ∀ segment ∈ path, segment ≠ "") :
  pathText path ≠ ""
  := by
  cases path with
  | nil => exact absurd rfl hne
  | cons segment path => apply Text.intercalate_ne_empty "." (hpath segment List.mem_cons_self)

theorem text_suffixed (s : Skeleton) (suffix : Suffix) :
  (s.suffixed suffix).text = s.text ++ suffix.text
  := by
  cases s with
  | mk path arguments suffixes =>
    rw [suffixed, text, text, List.map_append, String.join_append, List.map_singleton,
      String.join_cons, String.join_nil, String.append_empty, ← String.append_assoc]

theorem paths_suffixed (s : Skeleton) (suffix : Suffix) :
  (s.suffixed suffix).paths = s.paths
  := by
  cases s with
  | mk path arguments suffixes => rw [suffixed, paths, paths]

end Skeleton

/-! ### Spellings -/

namespace Text

/-- An identifier, as it stands or with a mark in front. -/
def IsSpelling (s : String) : Prop :=
  ∃ name, isIdentifier name = true ∧ (s = name ∨ s = "@" ++ name)

theorem isSpelling_of_isIdentifier {s : String} (h : isIdentifier s = true) :
  IsSpelling s
  := ⟨s, h, .inl rfl⟩

theorem isSpelling_escaped {name : String} (h : isIdentifier name = true) :
  IsSpelling (escaped name)
  := by
  refine ⟨name, h, ?_⟩
  rw [escaped]
  split
  · exact .inr rfl
  · exact .inl rfl

theorem IsSpelling.ne_empty {s : String} (h : IsSpelling s) :
  s ≠ ""
  := by
  obtain ⟨name, hname, rfl | rfl⟩ := h
  · apply isIdentifier_ne_empty hname
  · simp

/-- A spelling has none of the characters, the mark apart, with which an identifier cannot go on. -/
theorem notMem_of_isSpelling {s : String} {c : Char} (hc : continuesIdentifier c = false)
    (hmark : c ≠ '@') (h : IsSpelling s) :
  c ∉ s.toList
  := by
  obtain ⟨name, hname, rfl | rfl⟩ := h
  · apply notMem_of_isIdentifier hc hname
  · simpa [hmark] using notMem_of_isIdentifier hc hname

end Text

namespace TypeExpr

/-! ### Names -/

/-- The segments between dots. -/
def dotSegments (s : String) : List String := (s.toList.splitOn '.').map String.ofList

/-- The segments of a name: its parts between `+`, each without the backtick in it and what
follows. -/
def nameSegments (name : String) : List String :=
  (name.toList.splitOn '+').map fun part => String.ofList (part.takeWhile (· ≠ '\x60'))

/-- The segments of a namespace, if it is written. -/
def namespaceSegments (qualify : Bool) : Option String → List String
  | some ns => if qualify && ns != "" then dotSegments ns else []
  | none => []

theorem dotSegments_ne_nil (s : String) :
  dotSegments s ≠ []
  := by
  rw [dotSegments, ne_eq, List.map_eq_nil_iff]
  apply List.splitOn_ne_nil

theorem nameSegments_ne_nil (name : String) :
  nameSegments name ≠ []
  := by
  rw [nameSegments, ne_eq, List.map_eq_nil_iff]
  apply List.splitOn_ne_nil

private theorem map_toList_map_ofList (css : List (List Char)) :
  (css.map String.ofList).map String.toList = css
  := by
  rw [List.map_map]
  have hid : String.toList ∘ String.ofList = id := funext fun _ => String.toList_ofList
  rw [hid, List.map_id]

theorem pathText_dotSegments (s : String) :
  Skeleton.pathText (dotSegments s) = s
  := by
  rw [Skeleton.pathText, ← String.toList_inj, String.toList_intercalate, dotSegments,
    map_toList_map_ofList]
  apply List.intercalate_splitOn

/-- In a text without dots in its segments these are found again. -/
theorem dotSegments_pathText {path : List String} (hne : path ≠ [])
    (hpath : ∀ segment ∈ path, '.' ∉ segment.toList) :
  dotSegments (Skeleton.pathText path) = path
  := by
  have hmap : path.map (String.ofList ∘ String.toList) = path := by
    have hid : String.ofList ∘ String.toList = id := funext fun _ => String.ofList_toList
    rw [hid, List.map_id]
  rw [dotSegments, Skeleton.pathText, String.toList_intercalate]
  apply Eq.trans _ hmap
  rw [← List.map_map]
  apply congrArg (List.map String.ofList)
  apply List.splitOn_intercalate
  · simpa using hpath
  · simpa using hne

/-- Dotting a name puts its segments together.  While the end of a part is left out, nothing more
of this part is written. -/
private theorem dotted_eq_intercalate (cs : List Char) :
  ∀ (dropping : Bool) {part : List Char} {parts : List (List Char)},
    cs.splitOn '+' = part :: parts →
      dotted cs dropping = ['.'].intercalate
        ((if dropping then [] else part.takeWhile (· ≠ '\x60'))
          :: parts.map (List.takeWhile (· ≠ '\x60')))
  := by
  induction cs with
  | nil =>
    intro dropping part parts h
    cases h
    cases dropping with
    | true | false => rfl
  | cons c cs ih =>
    intro dropping part parts h
    obtain ⟨next, rest, hsplit⟩ := List.exists_cons_of_ne_nil (List.splitOn_ne_nil '+' cs)
    rw [List.splitOn_cons_eq_if_modifyHead, hsplit] at h
    rw [dotted]
    by_cases hplus : c = '+'
    · rw [if_pos (beq_iff_eq.mpr hplus)] at h
      cases h
      rw [if_pos hplus, ih false hsplit]
      cases dropping with
      | true | false => rfl
    · rw [if_neg (by simpa using hplus)] at h
      cases h
      rw [if_neg hplus, ih true hsplit, ih false hsplit]
      cases dropping with
      | true => rfl
      | false =>
        by_cases htick : c = '\x60'
        · simp [htick]
        · simp [htick]

theorem ofList_dotted (name : String) :
  String.ofList (dotted name.toList false) = Skeleton.pathText (nameSegments name)
  := by
  obtain ⟨part, parts, hsplit⟩ := List.exists_cons_of_ne_nil (List.splitOn_ne_nil '+' name.toList)
  have hsegments : nameSegments name
      = ((part :: parts).map (List.takeWhile (· ≠ '\x60'))).map String.ofList := by
    rw [nameSegments, hsplit, List.map_map]
    rfl
  rw [hsegments, Skeleton.pathText, ← String.toList_inj, String.toList_ofList,
    String.toList_intercalate, map_toList_map_ofList, dotted_eq_intercalate _ false hsplit]
  rfl

/-- The name in front of the type arguments has the segments of the namespace, if it is written,
and then those of the name. -/
theorem path_eq_pathText (qualify : Bool) (ns : Option String) (name : String) :
  path qualify ns name
    = Skeleton.pathText (namespaceSegments qualify ns ++ nameSegments name)
  := by
  unfold path
  rw [ofList_dotted]
  cases ns with
  | none => rfl
  | some ns =>
    dsimp only
    rw [namespaceSegments]
    split
    · rw [Skeleton.pathText_append (dotSegments_ne_nil ns) (nameSegments_ne_nil name),
        pathText_dotSegments]
    · rfl

/-! ### The skeleton of a type -/

/-- The path of a named type: its keyword, if there is one, or its namespace, if it is written, and
its name. -/
def namedPath (qualify : Bool) (ns : Option String) (name : String) (keyword? : Option String) :
    List String :=
  match keyword? with
  | some keyword => [keyword]
  | none => namespaceSegments qualify ns ++ nameSegments name

section NamedPath

variable {qualify : Bool} {ns : Option String} {name : String} {arguments : List TypeExpr}
  {isValue : Bool}

theorem namedPath_ne_nil {keyword? : Option String} :
  namedPath qualify ns name keyword? ≠ []
  := by
  cases keyword? with
  | some keyword => apply List.cons_ne_nil
  | none => exact List.append_ne_nil_of_right_ne_nil _ (nameSegments_ne_nil name)

/-- A segment of a path is a keyword, or a segment of the namespace or of the name. -/
theorem mem_namedPath {segment : String}
    (h : segment ∈ namedPath qualify ns name (keyword? (.named ns name arguments isValue))) :
  (∃ name', (name', segment) ∈ keywords)
    ∨ (∃ n, ns = some n ∧ n ≠ "" ∧ segment ∈ dotSegments n) ∨ segment ∈ nameSegments name
  := by
  cases hkeyword : keyword? (.named ns name arguments isValue) with
  | some keyword =>
    rw [hkeyword, namedPath, List.mem_singleton] at h
    subst h
    obtain ⟨-, -, hmem⟩ := mem_keywords_of_keyword? hkeyword
    exact .inl ⟨name, hmem⟩
  | none =>
    rw [hkeyword, namedPath, List.mem_append] at h
    refine .inr (h.imp_left fun h => ?_)
    cases ns with
    | none => cases h
    | some n =>
      rw [namespaceSegments] at h
      split at h
      case isTrue hwritten =>
        rw [Bool.and_eq_true, bne_iff_ne] at hwritten
        exact ⟨n, rfl, hwritten.2, h⟩
      case isFalse => cases h

end NamedPath

mutual

/-- What is written of a type. -/
def skeleton (qualify : Bool) : TypeExpr → Skeleton
  | .named ns name arguments isValue =>
    .mk (namedPath qualify ns name (keyword? (.named ns name arguments isValue)))
      (skeletons qualify arguments) []
  | .parameter name => .mk [Text.escaped name] [] []
  | .array element rank => (element.skeleton qualify).suffixed (.rank (rank.toNat - 1))
  | .nullable inner => (inner.skeleton qualify).suffixed .question
  | .byRef inner => inner.skeleton qualify

/-- What is written of a list of types. -/
def skeletons (qualify : Bool) : List TypeExpr → List Skeleton
  | [] => []
  | t :: rest => t.skeleton qualify :: skeletons qualify rest

end

mutual

/-- The text of a type, if it has one, is that of its skeleton. -/
theorem eq_text_skeleton {qualify : Bool} {written : String} :
  ∀ t : TypeExpr, t.text qualify = .ok written → written = (t.skeleton qualify).text
  | .named ns name arguments isValue, h => by
    rw [text] at h
    split at h
    case isTrue => cases h
    case isFalse =>
      rw [skeleton, Skeleton.text, List.map_nil, String.join_nil, String.append_empty]
      split at h
      case h_1 keyword hkeyword =>
        cases h
        obtain ⟨-, rfl, -⟩ := mem_keywords_of_keyword? hkeyword
        rw [hkeyword, namedPath, Skeleton.pathText_singleton, skeletons, Skeleton.texts,
          Skeleton.argumentList, String.append_empty]
      case h_2 hkeyword =>
        obtain ⟨texts, htexts, h⟩ := bind_eq_ok_iff.mp h
        rw [hkeyword, namedPath, ← path_eq_pathText, ← eq_texts_skeletons arguments htexts]
        cases texts with
        | nil =>
          cases h
          rw [Skeleton.argumentList, String.append_empty]
        | cons =>
          cases h
          rw [Skeleton.argumentList_cons, String.append_assoc, String.append_assoc,
            String.append_assoc]
  | .parameter name, h => by
    rw [text] at h
    split at h
    case isTrue => cases h
    case isFalse =>
      cases h
      rw [skeleton, Skeleton.text, Skeleton.pathText_singleton, Skeleton.texts,
        Skeleton.argumentList, List.map_nil, String.join_nil, String.append_empty,
        String.append_empty]
  | .array element rank, h => by
    rw [text] at h
    split at h
    case isTrue => cases h
    case isFalse =>
      obtain ⟨inner, hinner, h⟩ := bind_eq_ok_iff.mp h
      cases h
      rw [skeleton, Skeleton.text_suffixed, ← eq_text_skeleton element hinner]
      rfl
  | .nullable inner, h => by
    rw [text] at h
    obtain ⟨inner', hinner, h⟩ := bind_eq_ok_iff.mp h
    cases h
    rw [skeleton, Skeleton.text_suffixed, ← eq_text_skeleton inner hinner]
    rfl
  | .byRef inner, h => by
    rw [text] at h
    rw [skeleton]
    apply eq_text_skeleton inner h

theorem eq_texts_skeletons {qualify : Bool} {written : List String} :
  ∀ ts : List TypeExpr, texts qualify ts = .ok written →
    written = Skeleton.texts (skeletons qualify ts)
  | [], h => by
    cases h
    rfl
  | t :: ts, h => by
    rw [texts] at h
    obtain ⟨s, hs, h⟩ := bind_eq_ok_iff.mp h
    obtain ⟨ss, hss, h⟩ := bind_eq_ok_iff.mp h
    cases h
    rw [skeletons, Skeleton.texts, ← eq_text_skeleton t hs, ← eq_texts_skeletons ts hss]

end

/-- A type has a text when it is flawless, and this is the text of its skeleton. -/
theorem text_eq_ok_iff {qualify : Bool} {t : TypeExpr} {written : String} :
  t.text qualify = .ok written ↔ t.IsFlawless ∧ written = (t.skeleton qualify).text
  := by
  constructor
  · intro h
    exact ⟨exists_text_iff_isFlawless.mp ⟨written, h⟩, eq_text_skeleton t h⟩
  · rintro ⟨hflawless, rfl⟩
    obtain ⟨written, h⟩ : ∃ written, t.text qualify = .ok written :=
      exists_text_iff_isFlawless.mpr hflawless
    rw [h, eq_text_skeleton t h]

/-! ### Paths -/

/-- The path that is written for a type, apart from those of the types in it. -/
def ownPath? (qualify : Bool) : TypeExpr → Option (List String)
  | .named ns name arguments isValue =>
    some (namedPath qualify ns name (keyword? (.named ns name arguments isValue)))
  | .parameter name => some [Text.escaped name]
  | .array _ _ | .nullable _ | .byRef _ => none

mutual

/-- The paths are written in reading order. -/
theorem paths_skeleton (qualify : Bool) :
  ∀ t : TypeExpr, (t.skeleton qualify).paths = t.preorder.filterMap (ownPath? qualify)
  | .named ns name arguments isValue => by
    rw [skeleton, Skeleton.paths, pathsIn_skeletons qualify arguments, preorder]
    rfl
  | .parameter name => rfl
  | .array element rank => by
    rw [skeleton, Skeleton.paths_suffixed, paths_skeleton qualify element, preorder]
    rfl
  | .nullable inner => by
    rw [skeleton, Skeleton.paths_suffixed, paths_skeleton qualify inner, preorder]
    rfl
  | .byRef inner => by
    rw [skeleton, paths_skeleton qualify inner, preorder]
    rfl

theorem pathsIn_skeletons (qualify : Bool) :
  ∀ ts : List TypeExpr,
    Skeleton.pathsIn (skeletons qualify ts) = (preorderIn ts).filterMap (ownPath? qualify)
  | [] => rfl
  | t :: ts => by
    rw [skeletons, Skeleton.pathsIn, paths_skeleton qualify t, pathsIn_skeletons qualify ts,
      preorderIn, List.filterMap_append]

end

theorem mem_paths_skeleton_iff {qualify : Bool} {t : TypeExpr} {path : List String} :
  path ∈ (t.skeleton qualify).paths ↔ ∃ s, Occurs s t ∧ s.ownPath? qualify = some path
  := by
  rw [paths_skeleton, List.mem_filterMap]
  simp only [mem_preorder_iff]

/-! ### Proper types -/

/-- What is asked of a type apart from the types in it.  Names are made of identifiers: the parts of
the name of a type, without what follows a backtick in them, the segments of a namespace, and the
name of a type parameter.  An array has dimensions. -/
def IsProperItself : TypeExpr → Prop
  | .named ns name _ _ => (∀ segment ∈ nameSegments name, Text.isIdentifier segment = true)
    ∧ ∀ n ∈ ns, n = "" ∨ ∀ segment ∈ dotSegments n, Text.isIdentifier segment = true
  | .parameter name => Text.isIdentifier name = true
  | .array _ rank => 1 ≤ rank.toNat
  | .nullable _ | .byRef _ => True

instance : DecidablePred IsProperItself
  | .named _ _ _ _ => inferInstanceAs (Decidable (_ ∧ _))
  | .parameter _ => inferInstanceAs (Decidable (_ = _))
  | .array _ _ => inferInstanceAs (Decidable (_ ≤ _))
  | .nullable _ | .byRef _ => inferInstanceAs (Decidable True)

/-- Every type that occurs in the type is proper itself. -/
def IsProper (t : TypeExpr) : Prop := ∀ s, Occurs s t → s.IsProperItself

instance (t : TypeExpr) : Decidable t.IsProper :=
  inferInstanceAs (Decidable (∀ s, Occurs s t → s.IsProperItself))

namespace IsProper

variable {t : TypeExpr}

theorem isFlawless (h : t.IsProper) :
  t.IsFlawless
  := by
  constructor
  case name_ne =>
    rintro ns _ arguments isValue hs rfl
    have hempty := (h _ hs).1 "" (by decide)
    cases hempty
  case parameter_ne =>
    intro name hs
    apply Text.isIdentifier_ne_empty (h _ hs)
  case rank_pos =>
    intro element rank hs
    apply h _ hs

/-- What is written in a path are identifiers, maybe with a mark in front. -/
theorem isSpelling_of_mem_paths (h : t.IsProper) {qualify : Bool} {path : List String}
    (hpath : path ∈ (t.skeleton qualify).paths) :
  path ≠ [] ∧ ∀ segment ∈ path, Text.IsSpelling segment
  := by
  obtain ⟨s, hs, hown⟩ := mem_paths_skeleton_iff.mp hpath
  have hproper := h s hs
  cases s with
  | named ns name arguments isValue =>
    cases hown
    obtain ⟨hname, hnamespace⟩ := hproper
    refine ⟨namedPath_ne_nil, fun segment hsegment => ?_⟩
    apply Text.isSpelling_of_isIdentifier
    obtain ⟨name', hkeyword⟩ | ⟨n, hn, hne, hsegment⟩ | hsegment := mem_namedPath hsegment
    · have hkeywords : ∀ k ∈ keywords, Text.isIdentifier k.2 = true := by decide +kernel
      apply hkeywords _ hkeyword
    · apply (hnamespace n hn).resolve_left hne segment hsegment
    · apply hname segment hsegment
  | parameter name =>
    cases hown
    refine ⟨List.cons_ne_nil _ _, ?_⟩
    rw [List.forall_mem_singleton]
    apply Text.isSpelling_escaped hproper
  | array | nullable | byRef => cases hown

end IsProper

/-! ### Texts of paths -/

theorem mem_pathText {path : List String} {c : Char} (h : c ∈ (Skeleton.pathText path).toList) :
  c = '.' ∨ ∃ segment ∈ path, c ∈ segment.toList
  := by
  induction path with
  | nil => cases h
  | cons segment path ih =>
    rw [List.exists_mem_cons_iff]
    cases path with
    | nil =>
      rw [Skeleton.pathText_singleton] at h
      exact .inr (.inl h)
    | cons next path =>
      rw [Skeleton.pathText_cons_cons, List.mem_append, List.mem_cons] at h
      obtain h | h | h := h
      · exact .inr (.inl h)
      · exact .inl h
      · exact (ih h).imp_right .inr

section Spellings

variable {path : List String} (hpath : ∀ segment ∈ path, Text.IsSpelling segment)

include hpath

/-- A path made of identifiers has only characters of these, marks and dots. -/
theorem notMem_pathText {c : Char} (hc : Text.continuesIdentifier c = false) (hmark : c ≠ '@')
    (hdot : c ≠ '.') :
  c ∉ (Skeleton.pathText path).toList
  := by
  intro h
  obtain h | ⟨segment, hsegment, h⟩ := mem_pathText h
  · exact hdot h
  · exact Text.notMem_of_isSpelling hc hmark (hpath segment hsegment) h

/-- A path made of identifiers is read back from its text. -/
theorem dotSegments_pathText_of_isSpelling (hne : path ≠ []) :
  dotSegments (Skeleton.pathText path) = path
  := by
  apply dotSegments_pathText hne
  intro segment hsegment
  exact Text.notMem_of_isSpelling (by decide) (by decide) (hpath segment hsegment)

end Spellings

end TypeExpr

end AliasBinding
