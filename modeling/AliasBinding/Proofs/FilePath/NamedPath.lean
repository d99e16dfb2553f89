import AliasBinding.Proofs.FilePath.Components
import Mathlib.Data.List.TakeWhile

/-!
# File names

A path with a file name is a directory, the name, and what counts for nothing behind it; the name is
a stem with an extension, if it has one (`NamedPath`).  Every path with a file name is made up like
that (`exists_namedPath`).  Another extension takes the place of the present one and of what stands
behind the name (`NamedPath.withExtension_text`), unless the stem is a dot and nothing stands behind
the name: then the name is lost (`NamedPath.withExtension_text_of_losesName`).
-/

namespace AliasBinding.FilePath

/-- A stem with an extension, if there is one. -/
def joinedName (stem : List Char) (extension? : Option (List Char)) : List Char :=
  match extension? with
  | some extension => stem ++ '.' :: extension
  | none => stem

/-- A path with a file name. -/
structure NamedPath where
  /-- The path in front of the name. -/
  dir : List Char
  stem : List Char
  /-- What stands behind the last dot of the name, unless this dot begins the name. -/
  extension? : Option (List Char)
  /-- What stands behind the name and counts for nothing. -/
  trailing : List Char
  isDirectory_dir : IsDirectory dir
  slash_notMem : '/' ∉ joinedName stem extension?
  isFileName_name : isFileName (joinedName stem extension?) = true
  stem_ne_nil : stem ≠ []
  dot_notMem : '.' ∉ extension?.getD stem.tail
  dropTrailing_trailing : dropTrailing trailing.reverse = []

theorem isFileName_iff {name : List Char} :
  isFileName name = true ↔ isComponent name = true ∧ name ≠ ['.', '.']
  := by
  simp [isFileName, isComponent]

theorem isFileName_reverse (name : List Char) :
  isFileName name.reverse = isFileName name
  := by
  have hreverse : ∀ cs : List Char, cs.reverse = cs → (name.reverse = cs ↔ name = cs) := by
    intro cs hcs
    rw [List.reverse_eq_iff, hcs]
  rw [Bool.eq_iff_iff]
  simp [isFileName, hreverse ['.'] rfl, hreverse ['.', '.'] rfl]

/-- With an extension, a name is that of a file unless it is two dots. -/
theorem isFileName_joinedName_iff {stem extension : List Char} (h : stem ≠ []) :
  isFileName (joinedName stem (some extension)) = true ↔ (stem = ['.'] → extension ≠ [])
  := by
  cases stem with
  | nil => exact absurd rfl h
  | cons c stem =>
    cases stem with
    | nil => simp [isFileName, joinedName]
    | cons d stem => simp [isFileName, joinedName]

namespace NamedPath

variable (p : NamedPath)

/-- The file name. -/
def name : List Char := joinedName p.stem p.extension?

theorem mem_name_of_mem_stem {c : Char} (h : c ∈ p.stem) :
  c ∈ p.name
  := by
  rw [name]
  cases p.extension? with
  | some extension => exact List.mem_append_left _ h
  | none => exact h

/-- The characters of the path. -/
def chars : List Char := p.dir ++ p.name ++ p.trailing

/-- The text of the path. -/
def text : String := String.ofList p.chars

theorem isName_name :
  IsName p.name
  := ⟨p.slash_notMem, (isFileName_iff.mp p.isFileName_name).1⟩

/-- The components of a path with a file name are those of the directory, and the name. -/
theorem components_text :
  components p.text = componentsOf p.dir ++ [String.ofList p.name]
  := by
  rw [components_eq, text, String.toList_ofList]
  exact p.isName_name.componentsOf_path p.isDirectory_dir p.dropTrailing_trailing

theorem fileName?_chars :
  fileName? p.chars.reverse = some p.name.reverse
  := by
  rw [fileName?, chars, p.isName_name.lastName_path p.isDirectory_dir p.dropTrailing_trailing,
    if_pos]
  rw [isFileName_reverse]
  exact p.isFileName_name

theorem dropTrailing_chars :
  dropTrailing p.chars.reverse = p.name.reverse ++ p.dir.reverse
  := p.isName_name.dropTrailing_path p.dropTrailing_trailing

theorem parent?_chars :
  parent? p.chars.reverse = some (withoutTrailing p.dir.reverse)
  := p.isName_name.parent?_path p.isDirectory_dir p.dropTrailing_trailing

theorem parentComponents?_text :
  parentComponents? p.text = some (componentsOf p.dir)
  := p.isName_name.parentComponents?_path p.isDirectory_dir p.dropTrailing_trailing

theorem extensionLength?_name :
  extensionLength? p.name.reverse = p.extension?.map List.length
  := by
  have hdot := p.dot_notMem
  rw [name]
  cases hextension : p.extension? with
  | some extension =>
    rw [hextension, Option.getD_some] at hdot
    have htail : (extension.reverse ++ '.' :: p.stem.reverse).takeWhile (· != '.')
        = extension.reverse := by
      rw [List.takeWhile_append_of_pos]
      · exact List.append_nil _
      · intro c hc
        simpa using ne_of_mem_of_not_mem (List.mem_reverse.mp hc) hdot
    have hstem := List.length_pos_iff.mpr p.stem_ne_nil
    rw [joinedName, List.reverse_append, List.reverse_cons, List.append_assoc,
      List.singleton_append, extensionLength?, htail, if_pos, List.length_reverse]
    · rfl
    · simp only [List.length_append, List.length_cons, List.length_reverse]
      omega
  | none =>
    rw [hextension, Option.getD_none] at hdot
    cases hstem : p.stem with
    | nil => exact absurd hstem p.stem_ne_nil
    | cons c tail =>
      rw [hstem, List.tail_cons] at hdot
      rw [joinedName, List.reverse_cons, extensionLength?, List.takeWhile_append_of_pos, if_neg]
      · rfl
      · simp only [List.length_append, List.length_reverse, List.length_singleton]
        omega
      · intro d hd
        simpa using ne_of_mem_of_not_mem (List.mem_reverse.mp hd) hdot

/-- The path up to the end of the stem. -/
theorem stem?_chars :
  stem? p.chars.reverse = some (p.dir ++ p.stem).reverse
  := by
  rw [stem?, p.fileName?_chars, Option.map_some, p.extensionLength?_name, p.dropTrailing_chars,
    List.reverse_append, name]
  cases p.extension? with
  | some extension =>
    simp only [Option.map_some, joinedName, List.reverse_append, List.reverse_cons,
      List.append_assoc, List.cons_append]
    rw [← List.length_reverse, ← List.drop_drop, List.drop_left]
    rfl
  | none => rfl

end NamedPath

/-- A name has a stem, and an extension if a dot stands in it behind its beginning. -/
theorem exists_joinedName {name : List Char} (h : name ≠ []) :
  ∃ stem extension?, joinedName stem extension? = name ∧ stem ≠ []
    ∧ '.' ∉ extension?.getD stem.tail
  := by
  cases name with
  | nil => exact absurd rfl h
  | cons c tail =>
    by_cases hdot : '.' ∈ tail
    · obtain ⟨extension, before, htail, hextension⟩ :=
        List.eq_append_cons_of_mem (List.mem_reverse.mpr hdot)
      refine ⟨c :: before.reverse, some extension.reverse, ?_, List.cons_ne_nil _ _, ?_⟩
      · rw [joinedName, ← List.reverse_reverse tail, htail]
        simp
      · rw [Option.getD_some, List.mem_reverse]
        exact hextension
    · exact ⟨c :: tail, none, rfl, List.cons_ne_nil _ _, hdot⟩

/-- A path without its last component is a directory. -/
theorem isDirectory_dropWhile (path : List Char) :
  IsDirectory (path.dropWhile (· != '/')).reverse
  := by
  intro c hc
  rw [List.getLast?_reverse] at hc
  have hhead := List.head?_dropWhile_not (· != '/') path
  rw [hc] at hhead
  simpa using hhead

/-- Every path with a file name is made up of a directory, a stem, an extension if there is one, and
what counts for nothing. -/
theorem exists_namedPath {path : String} {name : List Char}
    (h : fileName? path.toList.reverse = some name) :
  ∃ p : NamedPath, p.text = path ∧ p.name.reverse = name
  := by
  rw [fileName?] at h
  split at h
  case isFalse => cases h
  case isTrue hname =>
    obtain rfl := Option.some.inj h
    obtain ⟨trailing, htrailing, hpath⟩ := exists_append_dropTrailing path.toList.reverse
    revert hname hpath
    rw [lastName]
    generalize dropTrailing path.toList.reverse = kept
    intro hname hpath
    rw [← isFileName_reverse] at hname
    have hne : (kept.takeWhile (· != '/')).reverse ≠ [] := by
      intro hempty
      rw [hempty] at hname
      cases hname
    obtain ⟨stem, extension?, hjoined, hstem, hdot⟩ := exists_joinedName hne
    have hdir := isDirectory_dropWhile kept
    have hslash : '/' ∉ joinedName stem extension? := by
      rw [hjoined, List.mem_reverse]
      intro hslash
      simpa using List.mem_takeWhile_imp hslash
    have hfile : isFileName (joinedName stem extension?) = true := by rw [hjoined, hname]
    have hdropped : dropTrailing trailing.reverse.reverse = [] := by
      rw [List.reverse_reverse, htrailing]
    refine ⟨⟨_, stem, extension?, _, hdir, hslash, hfile, hstem, hdot, hdropped⟩, ?text, ?name⟩
    case text =>
      change String.ofList ((kept.dropWhile (· != '/')).reverse ++ joinedName stem extension?
        ++ trailing.reverse) = path
      rw [hjoined, ← List.reverse_append, List.takeWhile_append_dropWhile, ← List.reverse_append,
        ← hpath, List.reverse_reverse, String.ofList_toList]
    case name =>
      change (joinedName stem extension?).reverse = _
      rw [hjoined, List.reverse_reverse]

/-! ### Other extensions -/

theorem withExtension_eq (path extension : String) :
  withExtension path extension
    = match stem? (shorten path.toList.reverse) with
      | some stem => String.ofList stem.reverse ++ "." ++ extension
      | none => String.ofList (shorten path.toList.reverse).reverse
  := by
  unfold withExtension
  exact Eq.refl _

/-- A path without a file name stays as it is. -/
theorem withExtension_of_fileName?_eq_none {path : String}
    (h : fileName? path.toList.reverse = none) (extension : String) :
  withExtension path extension = path
  := by
  have hshorten : shorten path.toList.reverse = path.toList.reverse := by
    rw [shorten, h]
    rfl
  have hstem? : stem? path.toList.reverse = none := by
    rw [stem?, h]
    rfl
  rw [withExtension_eq, hshorten, hstem?]
  simp only [List.reverse_reverse, String.ofList_toList]

namespace NamedPath

variable (p : NamedPath)

/-- The name is lost when another extension is given to it: its stem is a dot, so that it begins
with two dots, and these are what is left at the end of the path without the extension. -/
def LosesName : Prop := p.stem = ['.'] ∧ p.trailing = []

instance : Decidable p.LosesName :=
  inferInstanceAs (Decidable (p.stem = ['.'] ∧ p.trailing = []))

/-- Shortened by its extension, a path loses as many characters at the end of it, whether they are
those of the extension or not. -/
theorem shorten_chars_of_some {extension : List Char} (h : p.extension? = some extension) :
  shorten p.chars.reverse
    = (p.dir ++ p.stem ++ ['.'] ++ (extension ++ p.trailing).take p.trailing.length).reverse
  := by
  have hchars : p.chars = (p.dir ++ p.stem ++ ['.']) ++ (extension ++ p.trailing) := by
    rw [chars, name, h, joinedName]
    simp
  have hlength : p.chars.length - extension.length
      = (p.dir ++ p.stem ++ ['.']).length + p.trailing.length := by
    rw [hchars]
    simp only [List.length_append]
    omega
  rw [shorten, p.fileName?_chars, Option.bind_some, p.extensionLength?_name, h, Option.map_some,
    Option.getD_some, List.drop_reverse, hlength, hchars, List.take_length_add_append]

/-- A path that is shortened by its extension keeps its directory and its stem, unless its name is
lost. -/
theorem exists_shorten_chars (h : ¬ p.LosesName) :
  ∃ q : NamedPath, shorten p.chars.reverse = q.chars.reverse ∧ q.dir = p.dir ∧ q.stem = p.stem
  := by
  cases hextension : p.extension? with
  | none =>
    refine ⟨p, ?_, rfl, rfl⟩
    rw [shorten, p.fileName?_chars, Option.bind_some, p.extensionLength?_name, hextension]
    rfl
  | some extension =>
    have hslash := p.slash_notMem
    have hfile := p.isFileName_name
    have hdot := p.dot_notMem
    rw [hextension] at hslash hfile hdot
    -- What stands behind the name is cut off first.  Only what it is short of is cut off the
    -- extension, which still begins behind the same dot, so that the stem is the same.
    have hmem : ∀ c ∈ extension.take p.trailing.length, c ∈ extension :=
      fun c hc => List.mem_of_mem_take hc
    have hslash' : '/' ∉ joinedName p.stem (some (extension.take p.trailing.length)) := by
      simp only [joinedName, List.mem_append, List.mem_cons, not_or] at hslash ⊢
      exact ⟨hslash.1, hslash.2.1, fun hc => hslash.2.2 (hmem _ hc)⟩
    have hfile' :
        isFileName (joinedName p.stem (some (extension.take p.trailing.length))) = true := by
      rw [isFileName_joinedName_iff p.stem_ne_nil] at hfile ⊢
      intro hstem hempty
      rcases List.take_eq_nil_iff.mp hempty with htrailing | hextension
      · exact h ⟨hstem, List.eq_nil_of_length_eq_zero htrailing⟩
      · exact hfile hstem hextension
    have htrailing : dropTrailing (p.trailing.take (p.trailing.length - extension.length)).reverse
        = [] := by
      rw [List.reverse_take]
      exact dropTrailing_drop p.dropTrailing_trailing _
    refine ⟨⟨p.dir, p.stem, some _, _, p.isDirectory_dir, hslash', hfile', p.stem_ne_nil,
      fun hc => hdot (hmem _ hc), htrailing⟩, ?_, rfl, rfl⟩
    rw [p.shorten_chars_of_some hextension, List.take_append]
    simp [chars, name, joinedName]

/-- The stem of a path gets the other extension, unless the name is lost. -/
theorem withExtension_text (h : ¬ p.LosesName) (extension : String) :
  withExtension p.text extension = String.ofList (p.dir ++ p.stem) ++ "." ++ extension
  := by
  obtain ⟨q, hshorten, hdir, hstem⟩ := p.exists_shorten_chars h
  rw [withExtension_eq, text, String.toList_ofList, hshorten, q.stem?_chars, hdir, hstem]
  simp only [List.reverse_reverse]

/-- When the name is lost, two dots are left in its place. -/
theorem withExtension_text_of_losesName (h : p.LosesName) (extension : String) :
  withExtension p.text extension = String.ofList (p.dir ++ ['.', '.'])
  := by
  obtain ⟨hstem, htrailing⟩ := h
  have hdots : IsName ['.', '.'] := ⟨by decide, by decide⟩
  have hshorten : shorten p.chars.reverse = (p.dir ++ ['.', '.']).reverse := by
    cases hextension : p.extension? with
    | none =>
      have hfile := p.isFileName_name
      rw [hextension, joinedName, hstem] at hfile
      cases hfile
    | some extension =>
      rw [p.shorten_chars_of_some hextension, hstem, htrailing]
      simp
  have hstem? : stem? (p.dir ++ ['.', '.']).reverse = none := by
    have hlast : lastName (dropTrailing (p.dir ++ ['.', '.'] ++ []).reverse) = ['.', '.'] :=
      hdots.lastName_path p.isDirectory_dir rfl
    rw [List.append_nil] at hlast
    rw [stem?, fileName?, hlast]
    rfl
  rw [withExtension_eq, text, String.toList_ofList, hshorten, hstem?]
  simp only [List.reverse_reverse]

end NamedPath

end AliasBinding.FilePath
