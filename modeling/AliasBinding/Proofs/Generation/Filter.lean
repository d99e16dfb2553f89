import AliasBinding.FileTree.Change
import AliasBinding.Proofs.Generation.Steps
import AliasBinding.Proofs.Manifest.RoundTrip
import AliasBinding.Proofs.Verification.Issues

/-!
# Verification as a filter

Over the same files, generation with verification differs from generation without it only when
the manifest of the module lists aliases with problems (`FileAccess.Lists`).  It is then refused
with these problems, also when a declaration would fail (`verification_filters`).
-/

namespace AliasBinding

variable {σ : Type} {files : FileAccess (StateM σ)} {style : Style} {path : String}
  {before after : σ} {aliases : List Alias}

/-! ### Discovery -/

/-- Aliases that pass verification, or the refusal of those that do not. -/
def Alias.requireVerified (path : String) (aliases : List Alias) :
    Except DiscoveryError (List Alias) :=
  if Alias.verify aliases = [] then .ok aliases
  else .error (.unverified path (Alias.verify aliases))

/-- The aliases of a module, given what came of reading its manifest. -/
def aliasesOfRead (path : String) (verify : Bool) :
    Except ReadError String → Except DiscoveryError (List Alias)
  | .error .missing => .error (.noManifest path (Manifest.location path))
  | .error (.failed detail) => .error (.unreadable (Manifest.location path) detail)
  | .ok text => aliasesOfText path verify text

theorem run_findAliases {readText : String → StateM σ (Except ReadError String)}
    {answer : Except ReadError String}
    (h : (readText (Manifest.location path)).run before = (answer, after)) (verify : Bool) :
  (findAliases readText path verify).run before = (aliasesOfRead path verify answer, after)
  := by
  rw [findAliases]
  apply Eq.trans (run_bind_of_run_eq h)
  cases answer with
  | ok text => rfl
  | error e =>
    cases e with
    | missing => rfl
    | failed detail => rfl

/-- What is found with verification is what is found without it, if that passes. -/
theorem aliasesOfRead_true (path : String) (answer : Except ReadError String) :
  aliasesOfRead path true answer
    = aliasesOfRead path false answer >>= Alias.requireVerified path
  := by
  cases answer with
  | error e =>
    cases e with
    | missing => rfl
    | failed detail => rfl
  | ok text =>
    rw [aliasesOfRead, aliasesOfRead, aliasesOfText, aliasesOfText]
    cases Manifest.ofText text with
    | error fault => rfl
    | ok manifest =>
      change _ = Alias.requireVerified path manifest.aliases
      simp [Alias.requireVerified]

/-- Aliases are found without verification exactly when the manifest is read and lists them. -/
theorem aliasesOfRead_false_eq_ok_iff {answer : Except ReadError String} :
  aliasesOfRead path false answer = .ok aliases
    ↔ ∃ text manifest, answer = .ok text ∧ Manifest.ofText text = .ok manifest
      ∧ manifest.aliases = aliases
  := by
  cases answer with
  | error e =>
    cases e with
    | missing => simp [aliasesOfRead]
    | failed detail => simp [aliasesOfRead]
  | ok text =>
    rw [aliasesOfRead, aliasesOfText]
    cases h : Manifest.ofText text with
    | error fault => simp [h]
    | ok manifest => simp [h]

/-! ### Generation -/

/-- There is a module at `path`, and its manifest is read and lists the aliases; the files are
then in the state `after`. -/
def FileAccess.Lists (files : FileAccess (StateM σ)) (path : String) (before : σ)
    (aliases : List Alias) (after : σ) : Prop :=
  path ≠ "" ∧ ∃ between text manifest, (files.isFile path).run before = (true, between)
    ∧ (files.readText (Manifest.location path)).run between = (.ok text, after)
    ∧ Manifest.ofText text = .ok manifest ∧ manifest.aliases = aliases

/-- The aliases listed are those found without verification; with it they have to pass. -/
theorem FileAccess.Lists.run_findAliases (h : files.Lists path before aliases after)
    (verify : Bool) :
  path ≠ "" ∧ ∃ between, (files.collaborators.moduleExists path).run before = (true, between)
    ∧ (files.collaborators.findAliases path verify).run between
      = (if verify then Alias.requireVerified path aliases else .ok aliases, after)
  := by
  obtain ⟨hpath, between, text, manifest, hfile, hread, hmanifest⟩ := h
  have hfound : aliasesOfRead path false (.ok text) = .ok aliases :=
    aliasesOfRead_false_eq_ok_iff.mpr ⟨text, manifest, rfl, hmanifest⟩
  use hpath, between, hfile
  apply Eq.trans (AliasBinding.run_findAliases hread verify)
  cases verify with
  | false => rw [hfound, if_neg Bool.false_ne_true]
  | true =>
    rw [aliasesOfRead_true, hfound]
    rfl

/-- Where no aliases are listed, verification changes nothing in what is found. -/
theorem run_findAliases_eq {between : σ} (hpath : path ≠ "")
    (hfile : (files.isFile path).run before = (true, between))
    (h : ∀ aliases after, files.Lists path before aliases after → Alias.verify aliases = []) :
  (files.collaborators.findAliases path true).run between
    = (files.collaborators.findAliases path false).run between
  := by
  rcases hread : (files.readText (Manifest.location path)).run between with ⟨answer, after⟩
  apply Eq.trans (run_findAliases hread true)
  apply Eq.trans _ (run_findAliases hread false).symm
  rw [aliasesOfRead_true]
  cases hfound : aliasesOfRead path false answer with
  | error e => rfl
  | ok aliases =>
    obtain ⟨text, manifest, rfl, hmanifest⟩ := aliasesOfRead_false_eq_ok_iff.mp hfound
    have hverified : Alias.verify aliases = [] := by
      apply h aliases after
      exact ⟨hpath, between, text, manifest, hfile, hread, hmanifest⟩
    change (Alias.requireVerified path aliases, after) = _
    rw [Alias.requireVerified, if_pos hverified]

/-- Verification refuses the aliases that the module lists if they have problems. -/
theorem FileAccess.Lists.run_generate (h : files.Lists path before aliases after)
    (hproblems : Alias.verify aliases ≠ []) (style : Style) :
  (generate files.collaborators style path true).run before
    = (.error (.discovery (.unverified path (Alias.verify aliases))), after)
  := by
  obtain ⟨hpath, between, hexists, hfind⟩ := h.run_findAliases true
  rw [if_pos rfl, Alias.requireVerified, if_neg hproblems] at hfind
  apply (Generates.undiscovered hpath hexists hfind).run_eq

/-- Verification changes nothing if the module lists no aliases with problems. -/
theorem run_generate_eq
    (h : ∀ aliases after, files.Lists path before aliases after → Alias.verify aliases = [])
    (style : Style) :
  (generate files.collaborators style path true).run before
    = (generate files.collaborators style path false).run before
  := by
  obtain ⟨result, after, hresult⟩ :=
    exists_generates files.collaborators style path true before
  rw [hresult.run_eq]
  symm
  cases hresult with
  | rejected hpath => apply (Generates.rejected hpath).run_eq
  | absent hpath hexists => apply (Generates.absent hpath hexists).run_eq
  | undiscovered hpath hexists hfind =>
    rw [run_findAliases_eq hpath hexists h] at hfind
    apply (Generates.undiscovered hpath hexists hfind).run_eq
  | declared hpath hexists hfind =>
    rw [run_findAliases_eq hpath hexists h] at hfind
    apply (Generates.declared hpath hexists hfind).run_eq

/-- Aliases found with verification have no problems. -/
theorem verify_eq_nil_of_run_findAliases {between : σ}
    (h : (files.collaborators.findAliases path true).run between = (.ok aliases, after)) :
  Alias.verify aliases = []
  := by
  rcases hread : (files.readText (Manifest.location path)).run between with ⟨answer, after'⟩
  have hfound := (run_findAliases hread true).symm.trans h
  rw [aliasesOfRead_true, Prod.mk.injEq] at hfound
  obtain ⟨found, -, hpasses⟩ := bind_eq_ok_iff.mp hfound.1
  rw [Alias.requireVerified] at hpasses
  split at hpasses
  · rename_i hverified
    cases hpasses
    apply hverified
  · cases hpasses

/-- A script that passed verification needs no blank namespace. -/
theorem isBlankText_of_run_generate {script : Script}
    (h : (generate files.collaborators style path true).run before = (.ok script, after)) :
  ∀ ns ∈ script.namespaces, Text.isBlankText ns = false
  := by
  obtain rfl | ⟨between, aliases, -, -, hfind, hscript⟩ := empty_or_scriptOf_of_run_generate h
  · nofun
  · have hverified := Alias.verify_eq_nil_iff.mp (verify_eq_nil_of_run_findAliases hfind)
    intro ns hns
    rw [(namespaces_references_of_scriptOf_eq_ok hscript).1, mem_namespacesOf] at hns
    obtain ⟨a, ha, hns⟩ := hns
    obtain ⟨c, hc, hblank⟩ := (hverified a ha).namespaces ns hns
    rw [Text.isBlankText, List.all_eq_false]
    use c, hc
    rw [hblank]
    decide

/-- Over the same files, generation with verification is refused with the problems of the
aliases that the module lists if there are any, and otherwise is generation without
verification.  So a script that comes of it is the one that comes of generation without
verification, and none of its namespaces is blank. -/
theorem verification_filters (files : FileAccess (StateM σ)) (style : Style) (path : String)
    (before : σ) :
  (∀ aliases after, files.Lists path before aliases after → Alias.verify aliases ≠ [] →
      (generate files.collaborators style path true).run before
        = (.error (.discovery (.unverified path (Alias.verify aliases))), after))
    ∧ ((∀ aliases after, files.Lists path before aliases after → Alias.verify aliases = []) →
      (generate files.collaborators style path true).run before
        = (generate files.collaborators style path false).run before)
    ∧ ∀ script after,
      (generate files.collaborators style path true).run before = (.ok script, after) →
      (generate files.collaborators style path false).run before = (.ok script, after)
        ∧ ∀ ns ∈ script.namespaces, Text.isBlankText ns = false
  := by
  refine ⟨?_, ?_, ?_⟩
  · intro aliases after hlists hproblems
    apply hlists.run_generate hproblems
  · intro h
    apply run_generate_eq h
  · intro script after hscript
    constructor
    · rw [← hscript]
      symm
      apply run_generate_eq
      intro aliases after' hlists
      by_contra hproblems
      rw [hlists.run_generate hproblems] at hscript
      cases hscript
    · apply isBlankText_of_run_generate hscript

/-- An alias that has a problem and no declaration, for its name has a space in it. -/
def isIt : Alias := .ofProperty "Is It" (.plain "Tools" "ToolAliases") (.plain "System" "Boolean")

/-- The manifest of a module with that alias. -/
def isItManifest : Manifest := ⟨some "Tools", [isIt]⟩

/-- The text of the manifest. -/
def isItText : String := isItManifest.toJson.write (fun _ => .ofInt 0) Manifest.tabbed

/-- A module with a manifest of the given bytes beside it. -/
def moduleTree (manifest : ByteArray) : FileTree where
  entries := [(["Tools.dll"], .file .empty), (["Tools.aliases.json"], .file manifest)]
  workingDirectory := []

theorem readText_moduleTree (s : String) :
  (moduleTree s.toUTF8).readText "Tools.aliases.json" = .ok s
  := by
  have hbytes (bytes : ByteArray) :
      (moduleTree bytes).readBytes "Tools.aliases.json" = .ok bytes := rfl
  have htext : String.fromUTF8? s.toUTF8 = some s := dif_pos s.isValidUTF8
  rw [FileTree.readText, hbytes]
  dsimp only
  rw [htext]

theorem ofText_isItText :
  Manifest.ofText isItText = .ok isItManifest
  := by
  have hreal : isItManifest.HasNoRealDefault := by
    simp [isItManifest, isIt, Alias.ofProperty, Manifest.HasNoRealDefault,
      Member.HasNoRealDefault]
  rw [Manifest.ofText, isItText, Json.ofText_write (Manifest.exact_toJson hreal)]
  apply bind_eq_ok (Manifest.readRoot_node hreal (by decide))
  rfl

/-- The module with that manifest. -/
def isItTree : FileTree := moduleTree isItText.toUTF8

theorem lists_isItTree :
  FileTree.access.Lists "Tools.dll" isItTree [isIt] isItTree
  := by
  have hlocation : Manifest.location "Tools.dll" = "Tools.aliases.json" := by decide +kernel
  have hread : (FileTree.access.readText (Manifest.location "Tools.dll")).run isItTree
      = (.ok isItText, isItTree) := by
    rw [hlocation, ← readText_moduleTree isItText]
    rfl
  have hfile : (FileTree.access.isFile "Tools.dll").run isItTree = (true, isItTree) := rfl
  exact ⟨by decide, isItTree, isItText, isItManifest, hfile, hread, ofText_isItText, rfl⟩

theorem verification_filters_isItTree :
  FileTree.access.Lists "Tools.dll" isItTree [isIt] isItTree
    ∧ Alias.verify [isIt] = ["`Is It`: alias name is not a valid identifier"]
    ∧ (∃ e, (generate FileTree.access.collaborators {} "Tools.dll" false).run isItTree
      = (.error (.declaration e), isItTree))
    ∧ (generate FileTree.access.collaborators {} "Tools.dll" true).run isItTree
      = (.error (.discovery (.unverified "Tools.dll"
        ["`Is It`: alias name is not a valid identifier"])), isItTree)
  := by
  have hproblems : Alias.verify [isIt] = ["`Is It`: alias name is not a valid identifier"] := by
    decide
  use lists_isItTree, hproblems
  constructor
  · obtain ⟨hpath, between, hexists, hfind⟩ := lists_isItTree.run_findAliases false
    have hscript : scriptOf {} "Tools.dll" [isIt] = .error (.invalidName "Is It") := by
      decide
    use .invalidName "Is It"
    apply Eq.trans (Generates.declared hpath hexists hfind).run_eq
    rw [hscript]
    rfl
  · rw [← hproblems]
    apply (verification_filters FileTree.access {} "Tools.dll" isItTree).1 _ _ lists_isItTree
    rw [hproblems]
    nofun

end AliasBinding
