import AliasBinding.Discovery
import AliasBinding.Proofs.FilePath.NamedPath

/-!
# The place of a manifest

The manifest of a module lies in the directory of the module under the stem of its name, with the
extension of manifests.  It is never the module itself, and modules share it when they have the same
parent and the same stem (`location_beside_module`).  The exception are modules whose stem is a dot:
when nothing stands behind the name, the location is the directory above
(`manifest_of_dots_is_lost`).
-/

namespace AliasBinding.Manifest

open FilePath

/-! ### The name of a manifest -/

/-- The name of the manifest of a module: two dots when the name of the module is lost. -/
def fileName (p : NamedPath) : List Char :=
  if p.LosesName then ['.', '.'] else p.stem ++ '.' :: extension.toList

theorem isName_fileName (p : NamedPath) :
  IsName (fileName p)
  := by
  rw [fileName]
  split
  case isTrue => exact ⟨by decide, by decide⟩
  case isFalse =>
    constructor
    case slash_notMem =>
      rw [List.mem_append, not_or]
      exact ⟨fun h => p.slash_notMem (p.mem_name_of_mem_stem h), by decide⟩
    case isComponent =>
      cases hstem : p.stem with
      | nil => exact absurd hstem p.stem_ne_nil
      | cons c stem => simp [isComponent]

/-- The manifest lies in the directory of the module. -/
theorem location_text (p : NamedPath) :
  location p.text = String.ofList (p.dir ++ fileName p)
  := by
  rw [location, fileName]
  split
  case isTrue h => rw [p.withExtension_text_of_losesName h]
  case isFalse h =>
    rw [p.withExtension_text h, ← String.toList_inj]
    simp

theorem components_location (p : NamedPath) :
  components (location p.text) = componentsOf p.dir ++ [String.ofList (fileName p)]
  := by
  rw [location_text, components_eq, String.toList_ofList]
  exact (isName_fileName p).componentsOf_append p.isDirectory_dir

/-- A manifest does not have the name of its module. -/
theorem fileName_ne_name (p : NamedPath) :
  fileName p ≠ p.name
  := by
  intro h
  rw [fileName] at h
  split at h
  case isTrue => exact (isFileName_iff.mp p.isFileName_name).2 h.symm
  case isFalse =>
    have hdot := p.dot_notMem
    rw [NamedPath.name] at h
    cases hextension : p.extension? with
    | none =>
      rw [hextension, joinedName] at h
      simp at h
    | some e =>
      rw [hextension, joinedName, List.append_cancel_left_eq] at h
      rw [hextension, Option.getD_some, ← (List.cons.inj h).2] at hdot
      exact hdot (by decide)

theorem append_extension_ne (stem : List Char) :
  stem ++ '.' :: extension.toList ≠ ['.', '.']
  := by
  intro h
  have hlength := congrArg List.length h
  have hextension : extension.toList.length = 12 := by decide
  simp only [List.length_append, List.length_cons, List.length_nil, hextension] at hlength
  omega

/-- The name of a manifest is the stem with the extension of manifests, unless the name of the
module is lost. -/
theorem fileName_eq_append_iff (p : NamedPath) :
  fileName p = p.stem ++ '.' :: extension.toList ↔ ¬ p.LosesName
  := by
  rw [fileName]
  by_cases h : p.LosesName
  · simp [h, (append_extension_ne p.stem).symm]
  · simp [h]

/-- Manifests have the same name exactly when the stems of their modules are the same, unless one of
the names is lost and the other one is not. -/
theorem fileName_eq_iff (p q : NamedPath) :
  fileName p = fileName q ↔ p.stem = q.stem ∧ (p.LosesName ↔ q.LosesName)
  := by
  rw [fileName, fileName]
  by_cases hp : p.LosesName
  · by_cases hq : q.LosesName
    · simp [hp, hq, hp.1, hq.1]
    · simp [hp, hq, (append_extension_ne q.stem).symm]
  · by_cases hq : q.LosesName
    · simp [hp, hq, append_extension_ne p.stem]
    · simp [hp, hq]

/-! ### Modules and manifests -/

/-- No manifest is in the place of its module. -/
theorem same_location_text (p : NamedPath) :
  same (location p.text) p.text = false
  := by
  rw [same, components_location, p.components_text, beq_eq_false_iff_ne, Ne,
    List.append_cancel_left_eq, List.singleton_inj, String.ofList_inj]
  exact fileName_ne_name p

/-- Manifests are in the same place exactly when their modules have the same directory and their
names are the same. -/
theorem same_location_iff (p q : NamedPath) :
  same (location p.text) (location q.text) = true
    ↔ componentsOf p.dir = componentsOf q.dir ∧ fileName p = fileName q
  := by
  rw [same, components_location, components_location, beq_iff_eq, ← List.concat_eq_append,
    ← List.concat_eq_append, List.concat_inj, String.ofList_inj]

/-- The manifest lies beside the module, under the stem of the module, unless the name of the module
is lost; and the module itself is not read to find its aliases. -/
structure IsBeside (p : NamedPath) : Prop where
  stem?_eq : stem? p.text.toList.reverse = some (p.dir ++ p.stem).reverse
  location_eq_iff : location p.text = String.ofList (p.dir ++ p.stem) ++ ".aliases.json"
    ↔ ¬ p.LosesName
  location_of_losesName : p.LosesName → location p.text = String.ofList p.dir ++ ".."
  parent?_eq : parent? (location p.text).toList.reverse = parent? p.text.toList.reverse
  not_same : same (location p.text) p.text = false
  unread : ∀ {m : Type → Type} [Monad m] (readText readText' : String → m (Except ReadError String))
    (verify : Bool), (∀ path, same path p.text = false → readText path = readText' path) →
      findAliases readText p.text verify = findAliases readText' p.text verify

theorem isBeside (p : NamedPath) :
  IsBeside p
  := by
  constructor
  case stem?_eq => rw [NamedPath.text, String.toList_ofList, p.stem?_chars]
  case location_eq_iff =>
    have hextension : ".aliases.json".toList = '.' :: extension.toList := rfl
    rw [← fileName_eq_append_iff, location_text, ← String.toList_inj, String.toList_append,
      String.toList_ofList, String.toList_ofList, hextension, List.append_assoc,
      List.append_cancel_left_eq]
  case location_of_losesName =>
    intro h
    rw [location_text, fileName, if_pos h, String.ofList_append]
  case parent?_eq =>
    have hmanifest : parent? (p.dir ++ fileName p ++ []).reverse
        = some (withoutTrailing p.dir.reverse) :=
      (isName_fileName p).parent?_path p.isDirectory_dir rfl
    rw [List.append_nil] at hmanifest
    rw [location_text, String.toList_ofList, hmanifest, NamedPath.text, String.toList_ofList,
      p.parent?_chars]
  case not_same => exact same_location_text p
  case unread =>
    intro m _ readText readText' verify h
    rw [findAliases, findAliases, h _ (same_location_text p)]

/-- A path without a file name stays as it is, and any other one is a directory, the stem of the
name with its extension, and what counts for nothing.  The manifest of the module at such a path
lies beside the module, under the stem of the module, unless the name is lost.  Modules share a
manifest exactly when they have the same parent and the same stem, and both or none of the names
are lost. -/
theorem location_beside_module (path : String) (p q : NamedPath) :
  (fileName? path.toList.reverse = none → location path = path)
    ∧ (∀ name, fileName? path.toList.reverse = some name →
      ∃ p : NamedPath, p.text = path ∧ p.name.reverse = name)
    ∧ IsBeside p
    ∧ (same (location p.text) (location q.text) = true
      ↔ parentComponents? p.text = parentComponents? q.text ∧ p.stem = q.stem
        ∧ (p.LosesName ↔ q.LosesName))
  := by
  refine ⟨?unnamed, ?named, isBeside p, ?shared⟩
  case unnamed =>
    intro h
    exact withExtension_of_fileName?_eq_none h extension
  case named =>
    intro name
    exact exists_namedPath
  case shared =>
    rw [same_location_iff, fileName_eq_iff, p.parentComponents?_text, q.parentComponents?_text,
      Option.some_inj]

/-- A module with two dots in its name, in a directory that is spelled with two slashes. -/
def gitModule : NamedPath where
  dir := "lib//".toList
  stem := "Cake.Git".toList
  extension? := some "dll".toList
  trailing := "/./".toList
  isDirectory_dir := by
    rintro c ⟨⟩
    rfl
  slash_notMem := by decide
  isFileName_name := by decide
  stem_ne_nil := by decide
  dot_notMem := by decide
  dropTrailing_trailing := by decide

/-- A module whose name begins with two dots. -/
def dottedModule : NamedPath where
  dir := []
  stem := ['.']
  extension? := some ['c']
  trailing := []
  isDirectory_dir := nofun
  slash_notMem := by decide
  isFileName_name := by decide
  stem_ne_nil := by decide
  dot_notMem := by decide
  dropTrailing_trailing := rfl

/-- Reads nothing. -/
def readNothing (_ : String) : Id (Except ReadError String) := .error .missing

/-- Reads a module, and nothing else. -/
def readModule (p : NamedPath) (path : String) : Id (Except ReadError String) :=
  if same path p.text then .ok "MZ" else .error .missing

theorem location_beside_module_git :
  (fileName? "lib/..".toList.reverse = none ∧ location "lib/.." = "lib/..")
    ∧ (fileName? "lib//Cake.Git.dll/./".toList.reverse = some "Cake.Git.dll".toList.reverse
      ∧ ∃ p : NamedPath, p.text = "lib//Cake.Git.dll/./"
        ∧ p.name.reverse = "Cake.Git.dll".toList.reverse)
    ∧ (¬ gitModule.LosesName ∧ location gitModule.text = "lib//Cake.Git.aliases.json")
    ∧ (dottedModule.LosesName ∧ location dottedModule.text = "..")
    ∧ (∀ path, same path gitModule.text = false → readModule gitModule path = readNothing path)
    ∧ findAliases (readModule gitModule) gitModule.text true
      = findAliases readNothing gitModule.text true
  := by
  obtain ⟨hunnamed, -, hbeside, -⟩ := location_beside_module "lib/.." gitModule gitModule
  obtain ⟨-, hnamed, hbeside', -⟩ :=
    location_beside_module "lib//Cake.Git.dll/./" dottedModule gitModule
  have hmissing : fileName? "lib/..".toList.reverse = none := by decide
  have hname : fileName? "lib//Cake.Git.dll/./".toList.reverse
      = some "Cake.Git.dll".toList.reverse := by decide
  have hgit : ¬ gitModule.LosesName := by decide
  have hdotted : dottedModule.LosesName := by decide
  have hread : ∀ path, same path gitModule.text = false →
      readModule gitModule path = readNothing path := by
    intro path h
    rw [readModule, h]
    rfl
  exact ⟨⟨hmissing, hunnamed hmissing⟩, ⟨hname, hnamed _ hname⟩,
    ⟨hgit, (hbeside.location_eq_iff.mpr hgit).trans (by decide)⟩,
    ⟨hdotted, (hbeside'.location_of_losesName hdotted).trans (by decide)⟩,
    hread, hbeside.unread _ _ true hread⟩

/-- The manifest of a module whose name begins with two dots is looked for in place of the directory
above, and not under its stem, which is a dot; so it is not the one of the same module with a slash
behind it. -/
theorem manifest_of_dots_is_lost :
  fileName? "..c".toList.reverse = some "..c".toList.reverse
    ∧ stem? "..c".toList.reverse = some ".".toList.reverse
    ∧ location "..c" = ".." ∧ location "..c" ≠ "." ++ ".aliases.json"
    ∧ stem? "..c/".toList.reverse = stem? "..c".toList.reverse
    ∧ parentComponents? "..c/" = parentComponents? "..c"
    ∧ location "..c/" = "." ++ ".aliases.json" ∧ same (location "..c/") (location "..c") = false
  := by decide +kernel

end AliasBinding.Manifest
