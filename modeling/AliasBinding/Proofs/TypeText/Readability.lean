import AliasBinding.Proofs.TypeText.Skeleton
import Mathlib.Data.Bool.AllAny
import Mathlib.Data.List.Induction

/-!
# Texts of types are uniquely readable

A reader takes the text of a type character by character.  It keeps the paths whose type arguments
it is in, and knows a comma between type arguments from one in a rank specifier by where it is.  It
reads the text of a skeleton as this skeleton when the paths in it are made of identifiers
(`Skeleton.ofText?_text`), so proper types have the same text exactly when they have the same
skeleton (`text_eq_iff_skeleton_eq`).
-/

namespace AliasBinding

/-! ### The reader -/

namespace Skeleton

/-- Where in a type the reader is. -/
inductive Stage where
  /-- In a path, behind the given characters. -/
  | path (cs : List Char)
  /-- Behind a type argument and a comma. -/
  | comma
  /-- Behind a type that is complete, or has further suffixes. -/
  | type (s : Skeleton)
  /-- In a rank specifier behind the given type, after a number of commas. -/
  | rank (s : Skeleton) (commas : Nat)

/-- The type that was read, if it may end here. -/
def Stage.type? : Stage → Option Skeleton
  | .path cs => some (.mk (TypeExpr.dotSegments (String.ofList cs)) [] [])
  | .type s => some s
  | .comma | .rank _ _ => none

/-- A reader of types. -/
structure Reader where
  /-- The paths whose type arguments the reader is in, from the inside out, and the type arguments
  that it has read. -/
  frames : List (List Char × List Skeleton)
  stage : Stage

namespace Reader

/-- Takes a character behind a type. -/
def behind (frames : List (List Char × List Skeleton)) (s : Skeleton) (c : Char) :
    Option Reader :=
  if c = '?' then some ⟨frames, .type (s.suffixed .question)⟩
  else if c = '[' then some ⟨frames, .rank s 0⟩
  else
    match frames with
    | [] => none
    | (cs, arguments) :: frames =>
      if c = ',' then some ⟨(cs, arguments ++ [s]) :: frames, .comma⟩
      else if c = '>' then
        let path := TypeExpr.dotSegments (String.ofList cs)
        some ⟨frames, .type (.mk path (arguments ++ [s]) [])⟩
      else none

/-- Whether a type in front of `c` is complete. -/
def endsPath (c : Char) : Bool := c == '?' || c == '[' || c == ',' || c == '>'

/-- Takes a character. -/
def step (r : Reader) (c : Char) : Option Reader :=
  match r.stage with
  | .path cs =>
    if c = '<' then some ⟨(cs, []) :: r.frames, .path []⟩
    else if endsPath c then (Stage.path cs).type?.bind (behind r.frames · c)
    else some { r with stage := .path (cs ++ [c]) }
  | .comma => if c = ' ' then some { r with stage := .path [] } else none
  | .type s => behind r.frames s c
  | .rank s commas =>
    if c = ',' then some { r with stage := .rank s (commas + 1) }
    else if c = ']' then some { r with stage := .type (s.suffixed (.rank commas)) }
    else none

/-- Takes the characters of a text. -/
def run (r : Reader) (cs : List Char) : Option Reader := cs.foldlM step r

theorem run_cons {r r' : Reader} {c : Char} (h : r.step c = some r') (cs : List Char) :
  r.run (c :: cs) = r'.run cs
  := by
  rw [run, List.foldlM_cons, h]
  rfl

theorem run_append {r r' : Reader} {cs : List Char} (h : r.run cs = some r') (cs' : List Char) :
  r.run (cs ++ cs') = r'.run cs'
  := by
  rw [run] at h
  rw [run, List.foldlM_append, h]
  rfl

end Reader

/-- The skeleton that a text is read as. -/
def ofText? (text : String) : Option Skeleton := do
  let r ← Reader.run ⟨[], .path []⟩ text.toList
  if r.frames.isEmpty then r.stage.type? else none

/-! ### Steps of the reader -/

namespace Reader

section Steps

variable {frames : List (List Char × List Skeleton)} {s : Skeleton}

/-- Behind a type it does not matter how it came to its end. -/
theorem step_of_type? {stage : Stage} (h : stage.type? = some s) {c : Char}
    (hc : endsPath c = true) :
  step ⟨frames, stage⟩ c = behind frames s c
  := by
  cases stage with
  | path cs =>
    have hne : c ≠ '<' := by
      rintro rfl
      cases hc
    simp only [step, if_neg hne, if_pos hc, h, Option.bind_some]
  | type t =>
    cases h
    rfl
  | comma | rank => cases h

theorem run_path {done cs : List Char} (hcs : ∀ c ∈ cs, c ≠ '<' ∧ endsPath c = false) :
  run ⟨frames, .path done⟩ cs = some ⟨frames, .path (done ++ cs)⟩
  := by
  induction cs generalizing done with
  | nil =>
    rw [List.append_nil]
    rfl
  | cons c cs ih =>
    rw [List.forall_mem_cons] at hcs
    obtain ⟨⟨hne, hends⟩, hcs⟩ := hcs
    have hstep : step ⟨frames, .path done⟩ c = some ⟨frames, .path (done ++ [c])⟩ := by
      simp only [step, if_neg hne, hends, Bool.false_eq_true, if_false]
    rw [run_cons hstep, ih hcs, List.append_assoc, List.singleton_append]

theorem run_commas (commas more : Nat) :
  run ⟨frames, .rank s commas⟩ (List.replicate more ',')
    = some ⟨frames, .rank s (commas + more)⟩
  := by
  induction more generalizing commas with
  | zero => rfl
  | succ more ih =>
    have hstep : step ⟨frames, .rank s commas⟩ ',' = some ⟨frames, .rank s (commas + 1)⟩ := rfl
    rw [List.replicate_succ, run_cons hstep, ih, Nat.add_right_comm, Nat.add_assoc]

end Steps

/-! ### Reading a skeleton -/

/-- In front of a type, the characters are read as the given skeleton. -/
def Reads (frames : List (List Char × List Skeleton)) (cs : List Char) (s : Skeleton) : Prop :=
  ∃ stage : Stage, run ⟨frames, .path []⟩ cs = some ⟨frames, stage⟩ ∧ stage.type? = some s

/-- A suffix is read behind a type. -/
theorem Reads.suffixed {frames : List (List Char × List Skeleton)} {cs : List Char}
    {s : Skeleton} (h : Reads frames cs s) (suffix : Suffix) :
  Reads frames (cs ++ suffix.text.toList) (s.suffixed suffix)
  := by
  obtain ⟨stage, hread, htype⟩ := h
  refine ⟨.type (s.suffixed suffix), ?_, rfl⟩
  rw [run_append hread]
  cases suffix with
  | question =>
    have hstep : step ⟨frames, stage⟩ '?' = some ⟨frames, .type (s.suffixed .question)⟩ :=
      step_of_type? htype rfl
    exact run_cons hstep []
  | rank commas =>
    have hopen : step ⟨frames, stage⟩ '[' = some ⟨frames, .rank s 0⟩ := step_of_type? htype rfl
    rw [Suffix.text, String.toList_ofList, run_cons hopen, run_append (run_commas 0 commas),
      Nat.zero_add]
    rfl

end Reader

/-- The paths in the skeleton are made of identifiers, maybe with a mark in front. -/
def IsReadable (s : Skeleton) : Prop :=
  ∀ path ∈ s.paths, path ≠ [] ∧ ∀ segment ∈ path, Text.IsSpelling segment

theorem mem_pathsIn_iff {path : List String} {ss : List Skeleton} :
  path ∈ pathsIn ss ↔ ∃ s ∈ ss, path ∈ s.paths
  := by
  induction ss with
  | nil => simp [pathsIn]
  | cons s ss ih => simp [pathsIn, ih]

theorem isReadable_mk {path : List String} {arguments : List Skeleton} {suffixes : List Suffix} :
  IsReadable (.mk path arguments suffixes)
    ↔ (path ≠ [] ∧ ∀ segment ∈ path, Text.IsSpelling segment) ∧ ∀ s ∈ arguments, s.IsReadable
  := by
  simp only [IsReadable, paths, List.forall_mem_cons, mem_pathsIn_iff]
  grind

/-- A path has none of the characters that end it. -/
theorem plain_of_mem_pathText {path : List String}
    (hpath : ∀ segment ∈ path, Text.IsSpelling segment) :
  ∀ c ∈ (pathText path).toList, c ≠ '<' ∧ Reader.endsPath c = false
  := by
  intro c hc
  have hne : ∀ mark ∈ ['<', '?', '[', ',', '>'], c ≠ mark := by
    rintro mark hmark rfl
    have hplain : ∀ mark ∈ ['<', '?', '[', ',', '>'],
        Text.continuesIdentifier mark = false ∧ mark ≠ '@' ∧ mark ≠ '.' :=
      List.all_iff_forall_prop.mp (by decide)
    obtain ⟨hcontinues, hmarked, hdot⟩ := hplain c hmark
    exact TypeExpr.notMem_pathText hpath hcontinues hmarked hdot hc
  simp only [List.forall_mem_cons] at hne
  obtain ⟨hbracket, hquestion, hrank, hcomma, hclose, -⟩ := hne
  refine ⟨hbracket, ?_⟩
  simp [Reader.endsPath, hquestion, hrank, hcomma, hclose]

namespace Reader

theorem reads_path (frames : List (List Char × List Skeleton)) {path : List String}
    (hne : path ≠ []) (hpath : ∀ segment ∈ path, Text.IsSpelling segment) :
  Reads frames (pathText path).toList (.mk path [] [])
  := by
  refine ⟨.path (pathText path).toList, ?_, ?_⟩
  · exact run_path (plain_of_mem_pathText hpath)
  · rw [Stage.type?, String.ofList_toList, TypeExpr.dotSegments_pathText_of_isSpelling hpath hne]

/-- Suffixes are read behind a type one by one. -/
theorem reads_suffixes {frames : List (List Char × List Skeleton)} {path : List String}
    {arguments : List Skeleton} (suffixes : List Suffix)
    (h : Reads frames (text (.mk path arguments [])).toList (.mk path arguments [])) :
  Reads frames (text (.mk path arguments suffixes)).toList (.mk path arguments suffixes)
  := by
  induction suffixes using List.reverseRecOn with
  | nil => apply h
  | append_singleton suffixes suffix ih =>
    have hsuffixed := ih.suffixed suffix
    rw [← String.toList_append, ← text_suffixed] at hsuffixed
    apply hsuffixed

mutual

/-- The text of a skeleton is read as this skeleton. -/
theorem reads_text :
  ∀ s : Skeleton, s.IsReadable → ∀ frames, Reads frames s.text.toList s
  | .mk path [] suffixes, h, frames => by
    obtain ⟨⟨hne, hpath⟩, -⟩ := isReadable_mk.mp h
    apply reads_suffixes suffixes
    rw [text, texts, argumentList, List.map_nil, String.join_nil, String.append_empty,
      String.append_empty]
    apply reads_path frames hne hpath
  | .mk path (s :: rest) suffixes, h, frames => by
    obtain ⟨⟨hne, hpath⟩, harguments⟩ := isReadable_mk.mp h
    apply reads_suffixes suffixes
    refine ⟨.type (.mk path (s :: rest) []), ?_, rfl⟩
    have hread : run ⟨frames, .path []⟩ (pathText path).toList
        = some ⟨frames, .path (pathText path).toList⟩ := run_path (plain_of_mem_pathText hpath)
    have hopen : step ⟨frames, .path (pathText path).toList⟩ '<'
        = some ⟨((pathText path).toList, []) :: frames, .path []⟩ := rfl
    have htext : (text (.mk path (s :: rest) [])).toList = (pathText path).toList
        ++ '<' :: ((commaList (texts (s :: rest))).toList ++ ['>']) := by
      simp [text, texts, argumentList_cons]
    rw [htext, run_append hread, run_cons hopen,
      run_arguments frames _ (s :: rest) (List.cons_ne_nil _ _) harguments, String.ofList_toList,
      TypeExpr.dotSegments_pathText_of_isSpelling hpath hne]
    rfl

/-- Type arguments are read up to the closing bracket. -/
theorem run_arguments (frames : List (List Char × List Skeleton)) (cs : List Char) :
  ∀ ss : List Skeleton, ss ≠ [] → (∀ s ∈ ss, s.IsReadable) → ∀ done,
    run ⟨(cs, done) :: frames, .path []⟩ ((commaList (texts ss)).toList ++ ['>'])
      = some ⟨frames, .type (.mk (TypeExpr.dotSegments (String.ofList cs)) (done ++ ss) [])⟩
  | [], hne, _, _ => absurd rfl hne
  | [s], _, h, done => by
    rw [List.forall_mem_singleton] at h
    obtain ⟨stage, hread, htype⟩ := reads_text s h ((cs, done) :: frames)
    rw [texts, texts, commaList, String.intercalate_singleton, run_append hread]
    exact run_cons (step_of_type? htype rfl) []
  | s :: t :: rest, _, h, done => by
    rw [List.forall_mem_cons] at h
    obtain ⟨hs, hrest⟩ := h
    obtain ⟨stage, hread, htype⟩ := reads_text s hs ((cs, done) :: frames)
    have hcomma : step ⟨(cs, done) :: frames, stage⟩ ','
        = some ⟨(cs, done ++ [s]) :: frames, .comma⟩ := step_of_type? htype rfl
    have hspace : step ⟨(cs, done ++ [s]) :: frames, .comma⟩ ' '
        = some ⟨(cs, done ++ [s]) :: frames, .path []⟩ := rfl
    have hlist : (commaList (texts (s :: t :: rest))).toList ++ ['>']
        = s.text.toList ++ ',' :: ' ' :: ((commaList (texts (t :: rest))).toList ++ ['>']) := by
      simp only [texts, commaList, String.intercalate_cons_cons, String.toList_append,
        List.append_assoc]
      rfl
    rw [hlist, run_append hread, run_cons hcomma, run_cons hspace,
      run_arguments frames cs (t :: rest) (List.cons_ne_nil _ _) hrest (done ++ [s]),
      List.append_assoc, List.singleton_append]

end

end Reader

/-- A skeleton is read back from its text. -/
theorem ofText?_text {s : Skeleton} (h : s.IsReadable) :
  ofText? s.text = some s
  := by
  obtain ⟨stage, hread, htype⟩ := Reader.reads_text s h []
  rw [ofText?, hread]
  apply htype

end Skeleton

namespace TypeExpr

theorem IsProper.isReadable_skeleton {t : TypeExpr} (h : t.IsProper) (qualify : Bool) :
  (t.skeleton qualify).IsReadable
  := fun _ hpath => h.isSpelling_of_mem_paths hpath

theorem IsProper.text_eq {t : TypeExpr} (h : t.IsProper) (qualify : Bool) :
  t.text qualify = .ok (t.skeleton qualify).text
  := text_eq_ok_iff.mpr ⟨h.isFlawless, rfl⟩

/-- Proper types have texts, from which their skeletons are read back.  So two of them have the same
text exactly when they have the same skeleton. -/
theorem text_eq_iff_skeleton_eq {t t' : TypeExpr} (h : t.IsProper) (h' : t'.IsProper)
    (qualify : Bool) :
  ∃ written written', t.text qualify = .ok written ∧ t'.text qualify = .ok written'
    ∧ Skeleton.ofText? written = some (t.skeleton qualify)
    ∧ Skeleton.ofText? written' = some (t'.skeleton qualify)
    ∧ (written = written' ↔ t.skeleton qualify = t'.skeleton qualify)
  := by
  have hread := Skeleton.ofText?_text (h.isReadable_skeleton qualify)
  have hread' := Skeleton.ofText?_text (h'.isReadable_skeleton qualify)
  refine ⟨_, _, h.text_eq qualify, h'.text_eq qualify, hread, hread', ?_⟩
  constructor
  · intro hwritten
    rw [hwritten, hread', Option.some_inj] at hread
    apply hread.symm
  · apply congrArg

/-- A table whose type arguments have commas of all kinds in them. -/
def tableOfMatrices : TypeExpr :=
  .applied (.plain "Tools" "Table`2+Row`1")
    [.array (.array (.nullable (.plain "System" "Int32")) 2) 1,
      .applied (.plain "" "List`1") [.byRef (.parameter "params")]]

/-- The same table, in other words. -/
def tableOfMatrices' : TypeExpr :=
  .byRef (.applied (.plain "Tools.Table" "Row")
    [.array (.array (.nullable (.named none "int" [] true)) 2) 1,
      .named none "List" [.parameter "params"] false])

theorem text_eq_iff_skeleton_eq_tableOfMatrices :
  tableOfMatrices.IsProper ∧ tableOfMatrices'.IsProper
    ∧ tableOfMatrices.text true = .ok "Tools.Table.Row<int?[,][], List<@params>>"
    ∧ tableOfMatrices'.text true = .ok "Tools.Table.Row<int?[,][], List<@params>>"
    ∧ tableOfMatrices.skeleton true = tableOfMatrices'.skeleton true
  := by
  have h : tableOfMatrices.IsProper := by decide +kernel
  have h' : tableOfMatrices'.IsProper := by decide +kernel
  have htext : tableOfMatrices.text true = .ok "Tools.Table.Row<int?[,][], List<@params>>" := by
    decide +kernel
  have htext' : tableOfMatrices'.text true = .ok "Tools.Table.Row<int?[,][], List<@params>>" := by
    decide +kernel
  obtain ⟨written, written', hwritten, hwritten', -, -, hiff⟩ := text_eq_iff_skeleton_eq h h' true
  rw [htext] at hwritten
  rw [htext'] at hwritten'
  cases hwritten
  cases hwritten'
  exact ⟨h, h', htext, htext', hiff.mp rfl⟩

end TypeExpr

end AliasBinding
