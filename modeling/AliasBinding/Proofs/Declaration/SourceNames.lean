import AliasBinding.Proofs.Declaration.Context
import AliasBinding.Proofs.Text.Categories

/-!
# Names in C# sources

C# tells by the general category of a character where it may stand in an identifier.  Identifiers
of this library go by other properties, which take in more: a circled or squared letter, which is a
symbol, is alphabetic, and so are marks, which C# does not let an identifier start with; and
numeric characters need not be digits.  An identifier is one of C# exactly when no such character
stands in it (`spellsSourceName_iff`), and then its spelling can stand as a name in the source, as
a reserved word does with a mark in front.  Verified and declared names are identifiers, and no
more is asked of them (`names_stand_unless_stray`).
-/

namespace AliasBinding

namespace Text

/-! ### Identifiers of C# -/

/-- The categories with which an identifier of C# may start, `_` apart. -/
def startCategories : List Category := [.letter, .letterNumber]

/-- The categories with which an identifier of C# may go on; `_` is a connector. -/
def partCategories : List Category :=
  startCategories ++ [.mark, .decimalDigit, .connector, .format]

/-- The characters spell an identifier of C#, or a reserved word. -/
def SpellsSourceName : List Char → Prop
  | [] => False
  | c :: rest => (c = '_' ∨ category c ∈ startCategories)
    ∧ ∀ d ∈ rest, category d ∈ partCategories

/-- The text can stand as a name in a C# source: it spells an identifier and is no reserved word,
or it has a mark in front, behind which reserved words are names as well. -/
def IsSourceName (spelling : String) : Prop :=
  match spelling.toList with
  | '@' :: rest => SpellsSourceName rest
  | cs => SpellsSourceName cs ∧ isReserved spelling = false

/-- The categories with which an identifier of this library may start, but none of C#. -/
def strayStartCategories : List Category := [.mark, .symbol]

/-- The categories with which an identifier of this library may go on, but none of C#. -/
def strayPartCategories : List Category := [.otherNumber, .symbol]

/-- A character of an identifier is stray: it starts with a mark or a symbol, or goes on with a
number that is no digit or with a symbol. -/
def HasStray : List Char → Prop
  | [] => False
  | c :: rest => category c ∈ strayStartCategories ∨ ∃ d ∈ rest, category d ∈ strayPartCategories

instance (cs : List Char) : Decidable (HasStray cs) :=
  match cs with
  | [] => inferInstanceAs (Decidable False)
  | c :: rest =>
    -- The rest is looked through, where instance search may go through all characters.
    have : Decidable (∃ d ∈ rest, category d ∈ strayPartCategories) :=
      List.decidableBEx (category · ∈ strayPartCategories) rest
    inferInstanceAs (Decidable (category c ∈ strayStartCategories
      ∨ ∃ d ∈ rest, category d ∈ strayPartCategories))

theorem category_underscore :
  category '_' = .connector
  := by decide

/-- Of the characters with which an identifier may start, all but the strays may start one of
C#. -/
theorem start_iff_not_stray {c : Char} (h : startsIdentifier c = true) :
  (c = '_' ∨ category c ∈ startCategories) ↔ category c ∉ strayStartCategories
  := by
  by_cases hc : c = '_'
  · subst hc
    simp [category_underscore, strayStartCategories]
  · rw [startsIdentifier, Bool.or_eq_true, beq_iff_eq] at h
    have hcategory : ∀ k ∈ [Category.letter, .letterNumber, .mark, .symbol],
        k ∈ startCategories ↔ k ∉ strayStartCategories := by decide
    rw [or_iff_right hc]
    exact hcategory _ (category_mem_of_isAlphabetic (h.resolve_left hc))

/-- Of the characters with which an identifier may go on, all but the strays may go on one of
C#. -/
theorem part_iff_not_stray {c : Char} (h : continuesIdentifier c = true) :
  category c ∈ partCategories ↔ category c ∉ strayPartCategories
  := by
  rw [continuesIdentifier, Bool.or_eq_true, Bool.or_eq_true, beq_iff_eq] at h
  obtain (rfl | halphabetic) | hnumeric := h
  · rw [category_underscore]
    decide
  · have hcategory : ∀ k ∈ [Category.letter, .letterNumber, .mark, .symbol],
        k ∈ partCategories ↔ k ∉ strayPartCategories := by decide
    exact hcategory _ (category_mem_of_isAlphabetic halphabetic)
  · have hcategory : ∀ k ∈ [Category.decimalDigit, .letterNumber, .otherNumber],
        k ∈ partCategories ↔ k ∉ strayPartCategories := by decide
    exact hcategory _ (category_mem_of_isNumeric hnumeric)

/-- An identifier is one of C#, reserved words included, exactly when it has no stray. -/
theorem spellsSourceName_iff {s : String} (h : isIdentifier s = true) :
  SpellsSourceName s.toList ↔ ¬HasStray s.toList
  := by
  rw [isIdentifier] at h
  cases hs : s.toList with
  | nil =>
    rw [hs] at h
    cases h
  | cons c rest =>
    rw [hs, spellsIdentifier, Bool.and_eq_true, List.all_eq_true] at h
    obtain ⟨hstart, hpart⟩ := h
    have hrest : (∀ d ∈ rest, category d ∈ partCategories)
        ↔ ∀ d ∈ rest, category d ∉ strayPartCategories :=
      forall₂_congr fun d hd => part_iff_not_stray (hpart d hd)
    rw [SpellsSourceName, HasStray, start_iff_not_stray hstart, hrest]
    simp only [not_or, not_exists, not_and]

/-- The spelling of an identifier can stand as a name exactly when there is no stray in it. -/
theorem isSourceName_escaped_iff {s : String} (h : isIdentifier s = true) :
  IsSourceName (escaped s) ↔ ¬HasStray s.toList
  := by
  rw [← spellsSourceName_iff h, escaped]
  cases hreserved : isReserved s with
  | true =>
    have hlist : ("@" ++ s).toList = '@' :: s.toList := by simp
    simp [IsSourceName, hlist]
  | false =>
    have hhead : s.toList.head? ≠ some '@' := head?_ne_of_isIdentifier (by decide) h
    rw [if_neg Bool.false_ne_true, IsSourceName]
    split
    case h_1 rest hlist =>
      rw [hlist] at hhead
      exact absurd rfl hhead
    case h_2 => exact and_iff_left hreserved

end Text

open Text

/-! ### Names that are let through -/

/-- The names in a member that verification looks at. -/
def Member.verifiedNames : Member → List String
  | .method m => m.name :: (m.typeParameters.map (·.name) ++ m.parameters.map (·.name))
  | .property p => [p.name]

/-- The names that a declaration introduces, as they are spelled in it. -/
def Parts.spellings : Parts → List String
  | .method d => d.parameters.map (·.name) ++ d.typeParameters ++ [d.name]
  | .property d => d.field?.toList ++ [d.name]

theorem Alias.WellFormed.isIdentifier_of_mem {a : Alias} (h : a.WellFormed) :
  ∀ s ∈ a.member.verifiedNames, isIdentifier s = true
  := by
  have hname := h.name
  have hmember := h.member
  rw [Alias.name] at hname
  cases ha : a.member with
  | method m =>
    rw [ha] at hname hmember
    intro s hs
    rw [Member.verifiedNames, List.mem_cons, List.mem_append, List.mem_map, List.mem_map] at hs
    obtain rfl | ⟨p, hp, rfl⟩ | ⟨p, hp, rfl⟩ := hs
    · exact hname
    · exact hmember.typeParameter_names p hp
    · exact hmember.parameter_names p hp
  | property p =>
    rw [ha] at hname
    intro s hs
    rw [List.mem_singleton.mp hs]
    exact hname

/-- The names of a method that has parts are identifiers. -/
theorem Method.isIdentifier_of_parts {style : Style} {m : Method} {d : MethodParts}
    (h : m.parts style = .ok d) :
  ∀ s ∈ (Member.method m).names.all, isIdentifier s = true
  := by
  obtain ⟨name, hname, h⟩ := bind_eq_ok_iff.mp h
  obtain ⟨result, -, h⟩ := bind_eq_ok_iff.mp h
  obtain ⟨typeParameters, htypeParameters, h⟩ := bind_eq_ok_iff.mp h
  obtain ⟨parameters, hparameters, -⟩ := bind_eq_ok_iff.mp h
  intro s hs
  simp only [Member.names, Names.all, List.mem_append, List.mem_map, List.mem_singleton] at hs
  obtain (⟨p, hp, rfl⟩ | ⟨p, hp, rfl⟩) | rfl := hs
  · obtain ⟨_, hparts⟩ := exists_mapM_eq_ok_iff.mp ⟨parameters, hparameters⟩ p hp
    exact (Parameter.parts_eq_ok hparts).1
  · obtain ⟨_, hspelling⟩ := exists_mapM_eq_ok_iff.mp ⟨typeParameters, htypeParameters⟩ p hp
    exact (declaredName_eq_ok_iff.mp hspelling).1
  · exact (declaredName_eq_ok_iff.mp hname).1

/-- The names of a method are spelled as names. -/
theorem Method.HasParts.spellings_eq {style : Style} {m : Method} {d : MethodParts}
    (h : m.HasParts style d) :
  (Parts.method d).spellings = (Member.method m).names.all.map escaped
  := by
  have hparameters : d.parameters.map (·.name)
      = m.scriptParameters.map fun p => escaped p.name := by
    have hnames : GivesWithin (fun ds => ds.map (·.name)
          = m.scriptParameters.map fun p => escaped p.name)
        (m.scriptParameters.mapM (Parameter.parts style.qualify)) := by
      apply givesWithin_mapM_map_eq
      intro p _
      constructor
      intro parts hparts
      exact (Parameter.parts_eq_ok hparts).2.1
    exact hnames.of_eq_ok _ h.parameters_parts
  simp [Parts.spellings, Member.names, Names.all, hparameters, h.typeParameters_eq, h.name_eq,
    Function.comp_def]

/-- A backing field is named by an identifier, and no reserved word. -/
theorem Property.fieldName_spec {p : Property} (h : isIdentifier p.name = true) :
  isIdentifier p.fieldName = true ∧ escaped p.fieldName = p.fieldName
  := by
  have hlist : p.fieldName.toList = '_' :: p.name.toList := by simp [fieldName]
  constructor
  · rw [isIdentifier, hlist, spellsIdentifier, Bool.and_eq_true, List.all_eq_true]
    use by decide
    intro c hc
    by_contra hcontinues
    exact notMem_of_isIdentifier (Bool.eq_false_iff.mpr hcontinues) h hc
  · have hreserved : ∀ w ∈ reservedWords, w.toList.head? ≠ some '_' := by decide
    rw [escaped, isReserved, if_neg]
    intro hcontains
    apply hreserved p.fieldName (by simpa using hcontains)
    rw [hlist]
    rfl

/-- The names that a declaration introduces are identifiers, and spelled as names. -/
theorem Member.spellings_of_parts {style : Style} {m : Member} {d : Parts}
    (h : m.parts style = .ok d) :
  d.spellings = m.names.all.map escaped ∧ ∀ s ∈ m.names.all, isIdentifier s = true
  := by
  cases m with
  | method m =>
    obtain ⟨d, hparts, rfl⟩ := map_eq_ok_iff.mp h
    exact ⟨(Method.hasParts_of_parts hparts).spellings_eq, Method.isIdentifier_of_parts hparts⟩
  | property p =>
    obtain ⟨d, hparts, rfl⟩ := map_eq_ok_iff.mp h
    obtain ⟨type, owner, hname, -, -, -, -, rfl⟩ := Property.parts_eq_ok_iff.mp hparts
    obtain ⟨hfield, hescaped⟩ := Property.fieldName_spec hname
    cases hcached : p.cached with
    | true =>
      simp [Parts.spellings, names, Names.all, Property.field?, hcached, hfield, hescaped, hname]
    | false => simp [Parts.spellings, names, Names.all, Property.field?, hcached, hname]

/-- An identifier is one of C#, or a reserved word, exactly when there is no stray in it, and then
its spelling, with a mark in front of a reserved word, can stand as a name.  The same holds of the
names in verified aliases, and of those that a declaration introduces, which stand in it as they
are spelled. -/
theorem names_stand_unless_stray (style : Style) :
  (∀ s, isIdentifier s = true → (SpellsSourceName s.toList ↔ ¬HasStray s.toList)
      ∧ (IsSourceName (escaped s) ↔ ¬HasStray s.toList))
    ∧ (∀ aliases, Alias.verify aliases = [] → ∀ a ∈ aliases, ∀ s ∈ a.member.verifiedNames,
      (IsSourceName (escaped s) ↔ ¬HasStray s.toList))
    ∧ ∀ (a : Alias) (text : String), a.Declares style text →
      ∃ d, a.member.parts style = .ok d ∧ text = Line.join style d.lines
        ∧ d.spellings = a.member.names.all.map escaped
        ∧ ∀ s ∈ a.member.names.all, (IsSourceName (escaped s) ↔ ¬HasStray s.toList)
  := by
  refine ⟨?_, ?_, ?_⟩
  · intro s h
    exact ⟨spellsSourceName_iff h, isSourceName_escaped_iff h⟩
  · intro aliases hverified a ha s hs
    apply isSourceName_escaped_iff
    exact (Alias.verify_eq_nil_iff.mp hverified a ha).isIdentifier_of_mem s hs
  · intro a text h
    obtain ⟨d, hd, rfl⟩ := Alias.declares_iff.mp h
    obtain ⟨hspellings, hidentifiers⟩ := Member.spellings_of_parts hd
    use d, hd, rfl, hspellings
    intro s hs
    apply isSourceName_escaped_iff
    exact hidentifiers s hs

/-- A method with a letter of two bytes in its name, and a reserved word as a parameter. -/
def sizeIn : Alias :=
  ((Alias.ofMethod "Größe" (.plain "Tools" "ToolAliases") (.plain "System" "Int32")).withParameter
    (.receiver "context" (.plain "Core" "IContext"))).withParameter
    (.plain "in" (.plain "System" "String"))

theorem names_stand_unless_stray_sizeIn :
  isIdentifier "in" = true ∧ IsSourceName (escaped "in")
    ∧ Alias.verify [sizeIn] = [] ∧ IsSourceName (escaped "context")
    ∧ sizeIn.Declares {} ("public int Größe(string @in)\n\x7b\n"
      ++ "    return Tools.ToolAliases.Größe(Context, @in);\n\x7d")
    ∧ ∃ d, sizeIn.member.parts {} = .ok d ∧ d.spellings = ["@in", "Größe"]
      ∧ ∀ spelling ∈ d.spellings, IsSourceName spelling
  := by
  have hidentifier : isIdentifier "in" = true := by decide
  have hverified : Alias.verify [sizeIn] = [] := by decide +kernel
  have hdeclares : sizeIn.Declares {} ("public int Größe(string @in)\n\x7b\n"
      ++ "    return Tools.ToolAliases.Größe(Context, @in);\n\x7d") := by
    apply Alias.declaration_eq_ok_iff.mp
    decide +kernel
  obtain ⟨hstands, hstandsVerified, hstandsDeclared⟩ := names_stand_unless_stray {}
  obtain ⟨d, hd, -, hspellings, hnames⟩ := hstandsDeclared sizeIn _ hdeclares
  have hspelled : d.spellings = ["@in", "Größe"] := hspellings.trans (by decide)
  refine ⟨hidentifier, ?_, hverified, ?_, hdeclares, d, hd, hspelled, ?_⟩
  · exact (hstands "in" hidentifier).2.mpr (by decide +kernel)
  · apply (hstandsVerified _ hverified sizeIn (by simp) "context" (by decide)).mpr
    decide +kernel
  · rw [hspellings, List.forall_mem_map]
    intro s hs
    apply (hnames s hs).mpr
    have hclean : ∀ s ∈ sizeIn.member.names.all, ¬HasStray s.toList := by decide +kernel
    exact hclean s hs

/-- A method whose name goes on with a number that is no digit, the name of its type parameter
starts with a mark, and that of its parameter is a circled letter. -/
def squareOfE : Alias :=
  (((Alias.ofMethod "x²" (.plain "Tools" "ToolAliases") .void).withParameter
      (.receiver "context" (.plain "Core" "IContext"))).withParameter
      (.plain "ⓔ" (.plain "System" "Int32"))).withTypeParameter ⟨"\u0345T", []⟩

/-- Each kind of stray is accepted by verification and stands in a declaration. -/
theorem strays_are_accepted :
  Alias.verify [squareOfE] = []
    ∧ squareOfE.declaration {} = .ok ("public void x²<\u0345T>(int ⓔ)\n\x7b\n"
      ++ "    Tools.ToolAliases.x²<\u0345T>(Context, ⓔ);\n\x7d")
    ∧ ∀ s ∈ ["x²", "\u0345T", "ⓔ"], isIdentifier s = true ∧ escaped s = s
      ∧ ¬SpellsSourceName s.toList ∧ ¬IsSourceName s
  := by
  have hverified : Alias.verify [squareOfE] = [] := by decide +kernel
  have hdeclaration : squareOfE.declaration {} = .ok ("public void x²<\u0345T>(int ⓔ)\n\x7b\n"
      ++ "    Tools.ToolAliases.x²<\u0345T>(Context, ⓔ);\n\x7d") := by decide +kernel
  have hstray : ∀ s ∈ ["x²", "\u0345T", "ⓔ"],
      isIdentifier s = true ∧ escaped s = s ∧ HasStray s.toList := by decide +kernel
  refine ⟨hverified, hdeclaration, ?_⟩
  intro s hs
  obtain ⟨hidentifier, hescaped, hstray⟩ := hstray s hs
  refine ⟨hidentifier, hescaped, ?_, ?_⟩
  · rw [spellsSourceName_iff hidentifier]
    exact not_not.mpr hstray
  · rw [← hescaped, isSourceName_escaped_iff hidentifier]
    exact not_not.mpr hstray

end AliasBinding
