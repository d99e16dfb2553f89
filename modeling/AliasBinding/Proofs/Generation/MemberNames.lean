import AliasBinding.Proofs.Declaration.Parts
import AliasBinding.Proofs.Generation.Steps
import Mathlib.Data.List.Nodup
import Mathlib.Data.List.Pairwise

/-!
# The members that a script declares

The declarations of a script add members to it: each alias its own name, and a cached property
the name of its backing field as well.  Aliases of distinct names have distinct backing fields,
and no field has the name of its own property; but a field can have the name of another alias,
for each declaration is written without a look at the others.  This is the only way for two
members to have one name (`nodup_members_iff_of_nodup_names`), and verification does not rule
it out (`members_can_coincide`).
-/

namespace AliasBinding

/-! ### The members of one declaration -/

namespace Member

/-- The backing field of a member, if it has one. -/
def field? : Member → Option String
  | .method _ => none
  | .property p => p.field?

theorem members_names (m : Member) :
  m.names.members = m.field?.toList ++ [m.name]
  := by
  cases m with
  | method m => rfl
  | property p => rfl

theorem mem_members_iff {m : Member} {name : String} :
  name ∈ m.names.members ↔ m.field? = some name ∨ m.name = name
  := by
  rw [members_names, List.mem_append, Option.mem_toList, List.mem_singleton]
  apply or_congr_right
  apply eq_comm

/-- The backing fields are those of cached properties, and named after them. -/
theorem field?_eq_some_iff {m : Member} {field : String} :
  m.field? = some field ↔ ∃ p, m = .property p ∧ p.cached = true ∧ field = "_" ++ p.name
  := by
  cases m with
  | method m => simp [field?]
  | property p =>
    rw [field?, Property.field?]
    constructor
    · intro h
      split at h
      case isTrue hcached =>
        cases h
        exact ⟨p, rfl, hcached, rfl⟩
      case isFalse => cases h
    · rintro ⟨_, hp, hcached, rfl⟩
      cases hp
      rw [if_pos hcached, Property.fieldName]

theorem eq_of_field?_eq_some {m : Member} {field : String} (h : m.field? = some field) :
  field = "_" ++ m.name
  := by
  obtain ⟨p, rfl, -, hfield⟩ := field?_eq_some_iff.mp h
  apply hfield

/-- A backing field does not have the name of its own property. -/
theorem field?_ne_some_name (m : Member) :
  m.field? ≠ some m.name
  := by
  intro h
  have hlength := congrArg String.length (eq_of_field?_eq_some h)
  rw [String.length_append] at hlength
  have hmark : "_".length = 1 := rfl
  omega

theorem nodup_members (m : Member) :
  m.names.members.Nodup
  := by
  rw [members_names]
  cases h : m.field? with
  | none => simp
  | some field =>
    have hne : field ≠ m.name := by
      rintro rfl
      apply m.field?_ne_some_name h
    simpa using hne

/-- Of two members with distinct names, only the field of one and the name of the other can
coincide. -/
theorem disjoint_members_iff {m m' : Member} (hne : m.name ≠ m'.name) :
  List.Disjoint m.names.members m'.names.members
    ↔ m.field? ≠ some m'.name ∧ m'.field? ≠ some m.name
  := by
  constructor
  · intro h
    constructor
    · intro hfield
      exact h (mem_members_iff.mpr (.inl hfield)) (mem_members_iff.mpr (.inr rfl))
    · intro hfield
      exact h (mem_members_iff.mpr (.inr rfl)) (mem_members_iff.mpr (.inl hfield))
  · rintro ⟨hfield, hfield'⟩ name hname hname'
    obtain h | rfl := mem_members_iff.mp hname
    · obtain h' | rfl := mem_members_iff.mp hname'
      · -- fields are named after their properties
        have hnames := (eq_of_field?_eq_some h).symm.trans (eq_of_field?_eq_some h')
        rw [String.append_right_inj] at hnames
        apply hne hnames
      · apply hfield h
    · obtain h' | h' := mem_members_iff.mp hname'
      · apply hfield' h'
      · apply hne h'.symm

end Member

/-! ### The members of a script -/

/-- The members that the declarations of aliases add to a script. -/
def membersOf (aliases : List Alias) : List String :=
  aliases.flatMap fun a => a.member.names.members

/-- The members of aliases with distinct names are distinct exactly when no alias has the name of
a backing field. -/
theorem nodup_membersOf_iff {aliases : List Alias}
    (hdistinct : (aliases.map Alias.name).Nodup) :
  (membersOf aliases).Nodup
    ↔ ∀ a ∈ aliases, ∀ b ∈ aliases, a.member.field? ≠ some b.name
  := by
  have hnames : aliases.Pairwise fun a b => a.name ≠ b.name := List.pairwise_map.mp hdistinct
  rw [membersOf, List.nodup_flatMap]
  constructor
  · rintro ⟨-, hdisjoint⟩ a ha b hb hfield
    have hne : a ≠ b := by
      rintro rfl
      apply a.member.field?_ne_some_name hfield
    have hsymm : Std.Symm (Function.onFun List.Disjoint fun a : Alias => a.member.names.members) :=
      ⟨fun _ _ => List.disjoint_symm⟩
    exact hdisjoint.forall ha hb hne (Member.mem_members_iff.mpr (.inl hfield))
      (Member.mem_members_iff.mpr (.inr rfl))
  · intro h
    constructor
    · intro a _
      apply a.member.nodup_members
    · apply hnames.imp_of_mem
      intro a b ha hb hne
      exact (Member.disjoint_members_iff hne).mpr ⟨h a ha b hb, h b hb a ha⟩

/-- The script of aliases is written from the parts of their declarations, which declare the
members of the aliases. -/
theorem parts_of_scriptOf_eq_ok {style : Style} {path : String} {aliases : List Alias}
    {script : Script} (h : scriptOf style path aliases = .ok script) :
  ∃ ds, List.Forall₂ (fun a d => a.member.parts style = .ok d) aliases ds
    ∧ script.source
      = String.join (ds.map fun d => Line.join style d.lines ++ declarationSeparator)
    ∧ ds.flatMap (fun d => d.names.members) = membersOf aliases
  := by
  have hdeclarations : aliases.mapM (Alias.declaration style)
      = List.map (fun d => Line.join style d.lines)
        <$> aliases.mapM fun a => a.member.parts style := by
    rw [← mapM_map_eq]
    congr 1
    funext a
    apply a.declaration_eq_parts
  rw [scriptOf_eq, hdeclarations, bind_map_left] at h
  obtain ⟨ds, hds, h⟩ := bind_eq_ok_iff.mp h
  cases h
  have hnames : ds.map Parts.names = aliases.map fun a => a.member.names :=
    (givesWithin_mapM_map_eq fun a _ => a.member.names_of_parts style).of_eq_ok ds hds
  use ds, mapM_eq_ok_iff.mp hds
  constructor
  · rw [List.map_map]
    rfl
  · rw [membersOf, ← List.flatMap_map (f := fun a : Alias => a.member.names), ← hnames,
      List.flatMap_map]

/-- The members that a script declares are the names of its aliases and, for each cached
property, that of its backing field.  When the names of the aliases are distinct, the members
are distinct exactly when no alias has the name of a backing field. -/
theorem nodup_members_iff_of_nodup_names {aliases : List Alias}
    (hdistinct : (aliases.map Alias.name).Nodup) :
  ((membersOf aliases).Nodup ↔ ∀ a ∈ aliases, ∀ p, a.member = .property p → p.cached = true →
      ∀ b ∈ aliases, b.name ≠ "_" ++ p.name)
    ∧ ∀ style path script, GeneratesFrom style path aliases (.ok script) →
      ∃ ds, List.Forall₂ (fun a d => a.member.parts style = .ok d) aliases ds
        ∧ script.source
          = String.join (ds.map fun d => Line.join style d.lines ++ declarationSeparator)
        ∧ ds.flatMap (fun d => d.names.members) = membersOf aliases
  := by
  constructor
  · rw [nodup_membersOf_iff hdistinct]
    constructor
    · intro h a ha p hp hcached b hb hname
      exact h a ha b hb (Member.field?_eq_some_iff.mpr ⟨p, hp, hcached, hname⟩)
    · intro h a ha b hb hfield
      obtain ⟨p, hp, hcached, hname⟩ := Member.field?_eq_some_iff.mp hfield
      apply h a ha p hp hcached b hb hname
  · intro style path script h
    apply parts_of_scriptOf_eq_ok (generatesFrom_ok_iff.mp h).2

/-- Aliases of which the second one begins like the first one's backing field. -/
def verboseAndVerbosity : List Alias :=
  let owner := TypeExpr.plain "Tools" "ToolAliases"
  [(Alias.ofProperty "Verbose" owner (.plain "System" "String")).withCaching true,
    .ofProperty "_Verbosity" owner (.plain "System" "Boolean")]

/-- The script of these aliases. -/
def verboseAndVerbosityScript : Script where
  source := "private string _Verbose;\npublic string Verbose\n\x7b\n    get\n    \x7b\n"
    ++ "        if (_Verbose == null)\n        \x7b\n"
    ++ "            _Verbose = Tools.ToolAliases.Verbose(Context);\n        \x7d\n"
    ++ "        return _Verbose;\n    \x7d\n\x7d\n\n"
    ++ "public bool _Verbosity\n\x7b\n    get\n    \x7b\n"
    ++ "        return Tools.ToolAliases._Verbosity(Context);\n    \x7d\n\x7d\n\n"
  namespaces := .empty
  references := ["Tools.dll"]

theorem nodup_members_iff_of_nodup_names_verbosity :
  (verboseAndVerbosity.map Alias.name).Nodup
    ∧ membersOf verboseAndVerbosity = ["_Verbose", "Verbose", "_Verbosity"]
    ∧ (∀ a ∈ verboseAndVerbosity, ∀ p, a.member = .property p → p.cached = true →
      ∀ b ∈ verboseAndVerbosity, b.name ≠ "_" ++ p.name)
    ∧ GeneratesFrom {} "Tools.dll" verboseAndVerbosity (.ok verboseAndVerbosityScript)
    ∧ ∃ ds, List.Forall₂ (fun a d => a.member.parts {} = .ok d) verboseAndVerbosity ds
      ∧ verboseAndVerbosityScript.source
        = String.join (ds.map fun d => Line.join {} d.lines ++ declarationSeparator)
      ∧ ds.flatMap (fun d => d.names.members) = ["_Verbose", "Verbose", "_Verbosity"]
  := by
  have hdistinct : (verboseAndVerbosity.map Alias.name).Nodup := by decide
  have hmembers : (membersOf verboseAndVerbosity).Nodup := by decide
  have hscript : scriptOf {} "Tools.dll" verboseAndVerbosity = .ok verboseAndVerbosityScript := by
    decide +kernel
  have hgenerates :
      GeneratesFrom {} "Tools.dll" verboseAndVerbosity (.ok verboseAndVerbosityScript) :=
    generatesFrom_ok_iff.mpr ⟨by decide, hscript⟩
  obtain ⟨hfields, hparts⟩ := nodup_members_iff_of_nodup_names hdistinct
  exact ⟨hdistinct, rfl, hfields.mp hmembers, hgenerates, hparts _ _ _ hgenerates⟩

/-! ### Members that coincide -/

/-- Aliases of which the second one has the name of the first one's backing field. -/
def verboseAndItsField : List Alias :=
  let owner := TypeExpr.plain "Tools" "ToolAliases"
  [(Alias.ofProperty "Verbose" owner (.plain "System" "String")).withCaching true,
    .ofProperty "_Verbose" owner (.plain "System" "Boolean")]

/-- The script of these aliases. -/
def verboseAndItsFieldScript : Script where
  source := "private string _Verbose;\npublic string Verbose\n\x7b\n    get\n    \x7b\n"
    ++ "        if (_Verbose == null)\n        \x7b\n"
    ++ "            _Verbose = Tools.ToolAliases.Verbose(Context);\n        \x7d\n"
    ++ "        return _Verbose;\n    \x7d\n\x7d\n\n"
    ++ "public bool _Verbose\n\x7b\n    get\n    \x7b\n"
    ++ "        return Tools.ToolAliases._Verbose(Context);\n    \x7d\n\x7d\n\n"
  namespaces := .empty
  references := ["Tools.dll"]

/-- Verification accepts aliases with distinct names of which one has the name of a backing
field, and their script declares that name twice. -/
theorem members_can_coincide :
  Alias.verify verboseAndItsField = []
    ∧ (verboseAndItsField.map Alias.name).Nodup
    ∧ GeneratesFrom {} "Tools.dll" verboseAndItsField (.ok verboseAndItsFieldScript)
    ∧ membersOf verboseAndItsField = ["_Verbose", "Verbose", "_Verbose"]
    ∧ ¬(membersOf verboseAndItsField).Nodup
  := by
  have hscript : scriptOf {} "Tools.dll" verboseAndItsField = .ok verboseAndItsFieldScript := by
    decide +kernel
  exact ⟨by decide, by decide, generatesFrom_ok_iff.mpr ⟨by decide, hscript⟩, rfl, by decide⟩

end AliasBinding
