import AliasBinding.Proofs.Generation.Steps
import AliasBinding.Proofs.Manifest.Presentation
import AliasBinding.Proofs.Manifest.Relisting

/-!
# The namespaces of a generated script

A script needs the namespaces of its aliases, in ascending order and each of them once.  So
neither the order of the aliases nor that of their namespaces matters, nor how often one of them
is listed (`namespaces_of_generatesFrom`).
-/

namespace AliasBinding

open Json

variable {style : Style} {path : String} {aliases aliases' : List Alias}

theorem namespacesOf_eq (h : SameMembers aliases aliases') :
  namespacesOf aliases = namespacesOf aliases'
  := by
  ext ns
  rw [mem_namespacesOf, mem_namespacesOf]
  apply h.exists_iff

/-- Whether there is a script does not depend on how the aliases are listed. -/
theorem exists_generatesFrom_iff (h : SameMembers aliases aliases') :
  (∃ script, GeneratesFrom style path aliases (.ok script))
    ↔ ∃ script, GeneratesFrom style path aliases' (.ok script)
  := by
  simp only [generatesFrom_ok_iff, exists_and_left, exists_scriptOf_eq_ok_iff]
  rw [h.forall_iff]

/-- An alias with further namespaces has those of the list besides its own. -/
theorem Alias.foldl_withNamespace (a : Alias) (names : List String) :
  names.foldl withNamespace a = ⟨a.namespaces.insertAll names, a.member⟩
  := by
  induction names generalizing a with
  | nil => rfl
  | cons ns names ih =>
    rw [List.foldl_cons, ih]
    rfl

/-- The namespaces of a generated script ascend and are those of its aliases.  How often the
aliases are listed, and in which order, changes neither them nor whether there is a script; and
how the namespaces of an alias are listed changes nothing in it, be they added one by one or
read from a manifest. -/
theorem namespaces_of_generatesFrom (h : SameMembers aliases aliases') :
  (∀ script, GeneratesFrom style path aliases (.ok script) →
      script.namespaces.toList.Pairwise (· < ·)
        ∧ ∀ ns, ns ∈ script.namespaces.toList ↔ ∃ a ∈ aliases, ns ∈ a.namespaces)
    ∧ ((∃ script, GeneratesFrom style path aliases (.ok script))
      ↔ ∃ script, GeneratesFrom style path aliases' (.ok script))
    ∧ (∀ script script', GeneratesFrom style path aliases (.ok script) →
      GeneratesFrom style path aliases' (.ok script') →
      script.namespaces = script'.namespaces ∧ script.usings = script'.usings)
    ∧ (∀ (a : Alias) (names names' : List String), SameMembers names names' →
      names.foldl Alias.withNamespace a = names'.foldl Alias.withNamespace a)
    ∧ ∀ v v', Manifest.Relists v v' → ∀ s s', Manifest.Presents s v → Manifest.Presents s' v' →
      ∀ m, Manifest.ofText s = .ok m ↔ Manifest.ofText s' = .ok m
  := by
  have hnamespaces : ∀ {aliases script}, GeneratesFrom style path aliases (.ok script) →
      script.namespaces = namespacesOf aliases :=
    fun h => (namespaces_references_of_scriptOf_eq_ok (generatesFrom_ok_iff.mp h).2).1
  refine ⟨?members, exists_generatesFrom_iff h, ?listing, ?building, ?reading⟩
  case members =>
    intro script hscript
    use script.namespaces.ascending
    intro ns
    rw [hnamespaces hscript]
    apply mem_namespacesOf
  case listing =>
    intro script script' hscript hscript'
    have hsame : script.namespaces = script'.namespaces := by
      rw [hnamespaces hscript, hnamespaces hscript', namespacesOf_eq h]
    use hsame
    rw [Script.usings, Script.usings, hsame]
  case building =>
    intro a names names' hnames
    rw [a.foldl_withNamespace, a.foldl_withNamespace, NameSet.insertAll_eq hnames]
  case reading =>
    intro v v' hv s s' hs hs' m
    rw [hs.ofText_eq_ok_iff, hs'.ofText_eq_ok_iff]
    exact ⟨hv.keeps m, hv.symm.keeps m⟩

/-- An alias that needs two namespaces. -/
def cleanAlias : Alias :=
  ["Tools.IO", "System"].foldl Alias.withNamespace
    (.ofMethod "Clean" (.plain "Tools" "ToolAliases") .void)

/-- An alias that shares one of them. -/
def logAlias : Alias :=
  (Alias.ofMethod "Log" (.plain "Tools" "ToolAliases") .void).withNamespace "System"

/-- The value of a manifest of a property that needs the given namespaces. -/
def verboseValue (names : List String) : Json :=
  let type := Json.object [("type", .string "generic_parameter"), ("name", .string "T")]
  .object [("aliases", .array [.object [("kind", .string "property"),
    ("namespaces", .array (names.map .string)), ("name", .string "Verbose"),
    ("declaring_type", type), ("property_type", type)]])]

theorem relists_verboseValue {names names' : List String} (h : SameMembers names names') :
  Manifest.Relists (verboseValue names) (verboseValue names')
  := by
  apply Manifest.Relists.object [] []
  apply List.Forall₂.cons (Alias.Relists.names [_] _ h)
  apply List.Forall₂.nil

theorem presents_verboseValue (names : List String) :
  Manifest.Presents
    ((verboseValue names).write (fun _ => .ofInt 0) Manifest.tabbed)
    (verboseValue names)
  := by
  have hdepth := depthOfItems_strings names
  apply Manifest.presents_write
  · simp only [verboseValue, Exact, ExactItems, ExactMembers, exactItems_strings, and_self]
  · simp only [verboseValue, depth, depthOfItems, depthOfMembers, maxDepth]
    omega

theorem namespaces_of_generatesFrom_repeated :
  SameMembers [cleanAlias, logAlias] [logAlias, cleanAlias, logAlias]
    ∧ (∃ script script',
      GeneratesFrom {} "Tools.dll" [cleanAlias, logAlias] (.ok script)
        ∧ GeneratesFrom {} "Tools.dll" [logAlias, cleanAlias, logAlias] (.ok script')
        ∧ script.namespaces.toList = ["System", "Tools.IO"]
        ∧ script.namespaces = script'.namespaces ∧ script.usings = script'.usings)
    ∧ ∃ m, Manifest.ofText
        ((verboseValue ["B", "A"]).write (fun _ => .ofInt 0) Manifest.tabbed) = .ok m
      ∧ Manifest.ofText
        ((verboseValue ["A", "B", "A"]).write (fun _ => .ofInt 0) Manifest.tabbed) = .ok m
  := by
  have haliases : SameMembers [cleanAlias, logAlias] [logAlias, cleanAlias, logAlias] := by
    intro a
    simp only [List.mem_cons, List.not_mem_nil]
    tauto
  have hnames : SameMembers ["B", "A"] ["A", "B", "A"] := by
    intro ns
    simp only [List.mem_cons, List.not_mem_nil]
    tauto
  obtain ⟨-, hsuccess, hlisting, -, hreading⟩ :=
    @namespaces_of_generatesFrom {} "Tools.dll" _ _ haliases
  have hscript : ∃ script, GeneratesFrom {} "Tools.dll" [cleanAlias, logAlias] (.ok script) := by
    simp only [generatesFrom_ok_iff, exists_and_left, exists_scriptOf_eq_ok_iff,
      List.forall_mem_cons, Alias.exists_declares_iff]
    exact ⟨by decide, rfl, rfl, nofun⟩
  obtain ⟨script, hscript⟩ := hscript
  obtain ⟨script', hscript'⟩ := hsuccess.mp ⟨script, hscript⟩
  refine ⟨haliases, ⟨script, script', hscript, hscript', ?_, hlisting _ _ hscript hscript'⟩, ?_⟩
  · rw [(namespaces_references_of_scriptOf_eq_ok (generatesFrom_ok_iff.mp hscript).2).1]
    decide
  · have hpresents := presents_verboseValue ["B", "A"]
    have hread := hreading _ _ (relists_verboseValue hnames) _ _ hpresents
      (presents_verboseValue ["A", "B", "A"])
    use ⟨none, [["A", "B"].foldl Alias.withNamespace
      (.ofProperty "Verbose" (.parameter "T") (.parameter "T"))]⟩
    simp only [← hread, and_self, hpresents.ofText_eq_ok_iff]
    rfl

end AliasBinding
