import AliasBinding.CommandLine.Request
import AliasBinding.Proofs.Declaration.Inversion
import AliasBinding.Proofs.Verification.Issues

/-!
# The script context in a declaration

The body of a declaration names the script context, which is a member of the script host.  The
name is given on the command line and the other names of the declaration come with the alias;
nothing compares the two.  So the context stands for the member of the host exactly when the
declaration does not introduce its name (`context_denotes_host_iff`), and there are verified
aliases whose declarations introduce it in each way there is (`context_can_be_captured`).
-/

namespace AliasBinding

/-! ### What names stand for -/

/-- What a word stands for in the body of a declaration. -/
inductive Meaning where
  /-- A reserved word is no name. -/
  | keyword
  /-- A parameter of the declared method. -/
  | parameter
  /-- A type parameter of the declared method. -/
  | typeParameter
  /-- What is declared, or its backing field. -/
  | member
  /-- A member of the script host. -/
  | host
  deriving DecidableEq

namespace Names

/-- What a name stands for where these names are introduced: the innermost of that name. -/
def meaning (names : Names) (name : String) : Meaning :=
  if name ∈ names.parameters then .parameter
  else if name ∈ names.typeParameters then .typeParameter
  else if name ∈ names.members then .member
  else .host

/-- All names that are introduced. -/
def all (names : Names) : List String :=
  names.parameters ++ names.typeParameters ++ names.members

/-- A name stands for a member of the host when it is not introduced. -/
theorem meaning_eq_host_iff {names : Names} {name : String} :
  names.meaning name = .host ↔ name ∉ names.all
  := by
  rw [meaning, all, List.mem_append, List.mem_append, not_or, not_or]
  split
  case isTrue h => simp [h]
  case isFalse hparameter =>
    split
    case isTrue h => simp [h]
    case isFalse htypeParameter =>
      split
      case isTrue h => simp [h]
      case isFalse hmember => simp [hparameter, htypeParameter, hmember]

end Names

/-- What a word in the body of a declaration stands for. -/
def Parts.meaning (d : Parts) (spelling : String) : Meaning :=
  if Text.isReserved spelling then .keyword else d.names.meaning (Text.identifier spelling)

/-- The context of a style stands for itself: it is no reserved word, and no reserved word can
be spelled as it is. -/
theorem Parts.meaning_context (d : Parts) {context : String}
    (hcontext : CommandLine.isContextName context = true) :
  d.meaning context = d.names.meaning context
  := by
  rw [CommandLine.isContextName, Bool.and_eq_true, Bool.not_eq_true'] at hcontext
  rw [meaning, if_neg (by simp [hcontext.2]), Text.identifier_of_isIdentifier hcontext.1]

/-! ### The forwarded context -/

/-- A well-formed alias has the context as the first argument of the call in its body. -/
theorem Alias.WellFormed.head?_arguments_of_parts {a : Alias} (h : a.WellFormed)
    (style : Style) :
  GivesWithin (fun d => d.arguments.head? = some ⟨none, style.context⟩) (a.member.parts style)
  := by
  constructor
  intro d hd
  have hmember := h.member
  cases hm : a.member with
  | method m =>
    rw [hm] at hmember hd
    obtain ⟨d, hparts, rfl⟩ := map_eq_ok_iff.mp hd
    have hreceiver := Method.hasReceiver_iff.mpr hmember.receiver_first
    rw [Parts.arguments, (Method.hasParts_of_parts hparts).arguments_eq, if_pos hreceiver]
    rfl
  | property p =>
    rw [hm] at hd
    obtain ⟨d, hparts, rfl⟩ := map_eq_ok_iff.mp hd
    obtain ⟨_, _, -, -, -, -, -, rfl⟩ := Property.parts_eq_ok_iff.mp hparts
    rfl

/-- The declaration of a verified alias forwards the script context first, and introduces the
names of its script parameters, which the receiver is not one of, of its type parameters, its
own and that of its backing field, and no others.  In the body the context stands for a member
of the host exactly when its name is none of these, and for the innermost of them otherwise. -/
theorem context_denotes_host_iff {style : Style} {a : Alias} {text : String}
    (hcontext : CommandLine.isContextName style.context = true)
    (hverified : Alias.verify [a] = []) (h : a.Declares style text) :
  ∃ d : Parts, a.member.parts style = .ok d ∧ text = Line.join style d.lines
    ∧ d.arguments.head? = some ⟨none, style.context⟩
    ∧ d.names = a.member.names
    ∧ d.meaning style.context = a.member.names.meaning style.context
    ∧ (d.meaning style.context = .host ↔ style.context ∉ a.member.names.all)
  := by
  have hwellFormed := Alias.verify_eq_nil_iff.mp hverified a List.mem_cons_self
  rw [← Alias.declaration_eq_ok_iff, Alias.declaration_eq_parts] at h
  obtain ⟨d, hd, rfl⟩ := map_eq_ok_iff.mp h
  have hnames := (a.member.names_of_parts style).of_eq_ok d hd
  have hmeaning := d.meaning_context hcontext
  rw [hnames] at hmeaning
  use d, hd, rfl, (hwellFormed.head?_arguments_of_parts style).of_eq_ok d hd, hnames, hmeaning
  rw [hmeaning, Names.meaning_eq_host_iff]

/-- A method whose receiver has the name of the script context. -/
def runWithContext : Alias :=
  ((Alias.ofMethod "Run" (.plain "Tools" "ToolAliases") .void).withParameter
    (.receiver "Context" (.plain "Core" "IContext"))).withParameter
    (.plain "target" (.plain "System" "String"))

theorem context_denotes_host_iff_run :
  CommandLine.isContextName ({} : Style).context = true
    ∧ Alias.verify [runWithContext] = []
    ∧ runWithContext.Declares {} ("public void Run(string target)\n\x7b\n"
      ++ "    Tools.ToolAliases.Run(Context, target);\n\x7d")
    ∧ ∃ d, runWithContext.member.parts {} = .ok d ∧ d.meaning "Context" = .host
  := by
  have hcontext : CommandLine.isContextName ({} : Style).context = true := by decide
  have hverified : Alias.verify [runWithContext] = [] := by decide
  have hdeclares : runWithContext.Declares {} ("public void Run(string target)\n\x7b\n"
      ++ "    Tools.ToolAliases.Run(Context, target);\n\x7d") := by
    apply Alias.declaration_eq_ok_iff.mp
    decide +kernel
  obtain ⟨d, hd, -, -, -, -, hhost⟩ := context_denotes_host_iff hcontext hverified hdeclares
  use hcontext, hverified, hdeclares, d, hd
  apply hhost.mpr
  decide

/-! ### Captured contexts -/

/-- The alias is verified and its declaration has the given text, which introduces the name of
the context, so that the context stands for what is introduced. -/
structure Alias.Captures (style : Style) (a : Alias) (text : String) (what : Meaning) :
    Prop where
  isContextName : CommandLine.isContextName style.context = true
  verified : verify [a] = []
  declares : a.Declares style text
  introduced : style.context ∈ a.member.names.all
  meaning : ∃ d, a.member.parts style = .ok d ∧ d.meaning style.context = what
  ne_host : what ≠ .host

/-- A method with the receiver as its only parameter. -/
def toolMethod (name : String) : Alias :=
  (Alias.ofMethod name (.plain "Tools" "ToolAliases") .void).withParameter
    (.receiver "context" (.plain "Core" "IContext"))

/-- A property whose value is kept. -/
def keptVerbose : Alias :=
  (Alias.ofProperty "Verbose" (.plain "Tools" "ToolAliases")
    (.plain "System" "String")).withCaching true

/-- A style in which scripts know their context under the name of that property's field. -/
def verboseContext : Style := (default : Style).withContext "_Verbose"

/-- A script parameter, a type parameter, the member itself and a backing field can have the
name of the context. -/
theorem context_can_be_captured :
  ((toolMethod "Run").withParameter (.plain "_Verbose" (.plain "System" "String"))).Captures
      verboseContext ("public void Run(string _Verbose)\n\x7b\n"
        ++ "    Tools.ToolAliases.Run(_Verbose, _Verbose);\n\x7d") .parameter
    ∧ ((toolMethod "Get").withTypeParameter ⟨"_Verbose", []⟩).Captures
      verboseContext ("public void Get<_Verbose>()\n\x7b\n"
        ++ "    Tools.ToolAliases.Get<_Verbose>(_Verbose);\n\x7d") .typeParameter
    ∧ (toolMethod "_Verbose").Captures
      verboseContext ("public void _Verbose()\n\x7b\n"
        ++ "    Tools.ToolAliases._Verbose(_Verbose);\n\x7d") .member
    ∧ keptVerbose.Captures
      verboseContext ("private string _Verbose;\npublic string Verbose\n\x7b\n    get\n    \x7b\n"
        ++ "        if (_Verbose == null)\n        \x7b\n"
        ++ "            _Verbose = Tools.ToolAliases.Verbose(_Verbose);\n        \x7d\n"
        ++ "        return _Verbose;\n    \x7d\n\x7d") .member
  := by
  refine ⟨?parameter, ?typeParameter, ?name, ?field⟩
  all_goals
    constructor
    case isContextName => decide
    case verified => decide
    case declares =>
      apply Alias.declaration_eq_ok_iff.mp
      decide +kernel
    case introduced => decide
    case meaning => exact ⟨_, rfl, rfl⟩
    case ne_host => nofun

end AliasBinding
