import AliasBinding.Manifest.Reader
import AliasBinding.Proofs.Json.Building
import AliasBinding.Proofs.Manifest.Shapes

/-!
# Manifests read back

A manifest is read back from every text that writes it, whatever the spaces between the lexemes,
if it has no real defaults and is not nested too deeply (`Manifest.ofText_write_toJson`).  Its
integers are exact, so the values in it are got back from their nodes, and the shapes from the
values.
-/

namespace AliasBinding

open Json

/-! ### Exact records -/

theorem TypeExpr.exact_optionalText (s : Option String) :
  (optionalText s).Exact
  := by
  cases s with
  | none => trivial
  | some s => trivial

mutual

theorem TypeExpr.exact_toJson :
  ∀ t : TypeExpr, t.toJson.Exact
  | .named ns name arguments isValue => by
    exact ⟨trivial, exact_optionalText ns, trivial, exactItems_toItems arguments, trivial,
      trivial⟩
  | .parameter name => ⟨trivial, trivial, trivial⟩
  | .array element rank => by
    have hrank : (Json.integer rank.toNat).Exact := by
      have := rank.toNat_lt
      rw [Exact, Int64.toInt_minValue, UInt64.size]
      omega
    exact ⟨trivial, exact_toJson element, hrank, trivial⟩
  | .nullable inner => ⟨trivial, exact_toJson inner, trivial⟩
  | .byRef inner => ⟨trivial, exact_toJson inner, trivial⟩

theorem TypeExpr.exactItems_toItems :
  ∀ ts : List TypeExpr, ExactItems (TypeExpr.toItems ts)
  | [] => trivial
  | t :: ts => ⟨t.exact_toJson, exactItems_toItems ts⟩

end

theorem Constant.exact_toJson {c : Constant} (h : ∀ x, c ≠ .float x) :
  c.toJson.Exact
  := by
  cases c with
  | null | zero => exact ⟨trivial, trivial⟩
  | bool | string | char => exact ⟨trivial, trivial, trivial⟩
  | integer n =>
    have hinteger : (Json.integer n.toInt).Exact := by
      have hmax := n.toInt_lt
      rw [Exact, UInt64.size]
      use n.minValue_le_toInt
      omega
    exact ⟨trivial, hinteger, trivial⟩
  | float x => cases h x rfl

/-- The default of the parameter, if it has one, is no real. -/
def Parameter.HasNoRealDefault (p : Parameter) : Prop := ∀ x, p.default? ≠ some (.float x)

theorem Parameter.exact_toJson {p : Parameter} (h : p.HasNoRealDefault) :
  p.toJson.Exact
  := by
  obtain ⟨name, type, passing, default?⟩ := p
  cases default? with
  | none => exact ⟨trivial, type.exact_toJson, trivial, trivial, trivial⟩
  | some c =>
    have hc : c.toJson.Exact := by
      apply Constant.exact_toJson
      rintro x rfl
      apply h x rfl
    exact ⟨trivial, type.exact_toJson, trivial, hc, trivial⟩

theorem TypeParameter.exact_toJson (p : TypeParameter) :
  p.toJson.Exact
  := by
  have hconstraints : ExactItems (p.constraints.map Constraint.toJson) := by
    rw [exactItems_iff, List.forall_mem_map]
    intro c _
    cases c with
    | reference | value | constructible => trivial
    | subtype t => exact ⟨t.exact_toJson, trivial⟩
  exact ⟨trivial, hconstraints, trivial⟩

/-- The parameters of the member, if it is a method, have no real defaults. -/
def Member.HasNoRealDefault : Member → Prop
  | .method m => ∀ p ∈ m.parameters, p.HasNoRealDefault
  | .property _ => True

theorem Member.exact_obsoleteJson (o : Option Obsolete) :
  (toMembers.obsoleteJson o).Exact
  := by
  cases o with
  | none => trivial
  | some o => exact ⟨TypeExpr.exact_optionalText o.message?, trivial, trivial⟩

theorem Member.exactMembers_toMembers {m : Member} (h : m.HasNoRealDefault) :
  ExactMembers m.toMembers
  := by
  cases m with
  | method m =>
    have hparameters : ExactItems (m.parameters.map Parameter.toJson) := by
      rw [exactItems_iff, List.forall_mem_map]
      intro p hp
      apply Parameter.exact_toJson (h p hp)
    have htypeParameters : ExactItems (m.typeParameters.map TypeParameter.toJson) := by
      rw [exactItems_iff, List.forall_mem_map]
      intro p _
      apply p.exact_toJson
    exact ⟨trivial, trivial, m.owner.exact_toJson, m.result.exact_toJson, hparameters,
      htypeParameters, exact_obsoleteJson m.obsolete?, trivial⟩
  | property p =>
    exact ⟨trivial, trivial, p.owner.exact_toJson, p.type.exact_toJson, trivial,
      exact_obsoleteJson p.obsolete?, trivial⟩

/-! ### Nodes -/

namespace Manifest

variable {real : Float → Numeral}

/-- A list is read back when each item is. -/
theorem readList_node {α : Type} {read : Node → Except Fault α} {written : α → Json}
    {xs : List α} (h : ∀ x ∈ xs, read ((written x).node real) = .ok x) :
  readList read ((Json.array (xs.map written)).node real) = .ok xs
  := by
  have hitems : (nodes real (xs.map written)).mapM read = .ok xs := by
    induction xs with
    | nil => rfl
    | cons x xs ih =>
      rw [List.forall_mem_cons] at h
      rw [List.map_cons, nodes, List.mapM_cons, h.1, ih h.2]
      rfl
  rw [node, readList, hitems]
  rfl

theorem readString_node (s : String) :
  readString ((Json.string s).node real) = .ok s
  := decode_ofString s

theorem readOptionalString_node (s : Option String) :
  readOptionalString ((TypeExpr.optionalText s).node real) = .ok s
  := by
  cases s with
  | none => rfl
  | some s =>
    change some <$> readString ((Json.string s).node real) = _
    rw [readString_node]
    rfl

/-- The members of an alias other than its namespaces are kept, in reverse. -/
theorem foldlM_read_memberNodes {members : List (String × Json)} {parts : AliasParts}
    (hnames : ∀ m ∈ members, m.1 ≠ "namespaces") (hexact : ExactMembers members)
    (hdepth : depthOfMembers members ≤ aliasDepth) :
  (memberNodes real members).foldlM AliasParts.read parts
    = .ok { parts with members := members.reverse ++ parts.members }
  := by
  induction members generalizing parts with
  | nil => rfl
  | cons m members ih =>
    obtain ⟨name, value⟩ := m
    rw [List.forall_mem_cons] at hnames
    rw [ExactMembers] at hexact
    rw [depthOfMembers, Nat.max_le] at hdepth
    have hread : parts.read (.ofString name, value.node real)
        = .ok { parts with members := (name, value) :: parts.members } := by
      rw [AliasParts.read, decode_ofString]
      change (if name = "namespaces" then _ else _) = _
      rw [if_neg hnames.1, toJson_node value aliasDepth hexact.1 hdepth.1]
      rfl
    rw [memberNodes, List.foldlM_cons, hread, List.reverse_cons, List.append_assoc]
    apply ih hnames.2 hexact.2 hdepth.2

/-- An alias is read back from its node. -/
theorem readAlias_node {a : Alias} (hreal : a.member.HasNoRealDefault)
    (hdepth : a.toJson.depth ≤ maxDepth - 2) :
  readAlias (a.toJson.node real) = .ok a
  := by
  have hnamespaces : AliasParts.read {} (.ofString "namespaces",
      (Json.array (a.namespaces.toList.map Json.string)).node real)
      = .ok { namespaces? := some a.namespaces.toList } := by
    rw [AliasParts.read, decode_ofString]
    change (do
      let names ← readList readString _
      return ({ namespaces? := some names } : AliasParts)) = _
    rw [readList_node fun s _ => readString_node s]
    rfl
  have hnames : ∀ m ∈ a.member.toMembers, m.1 ≠ "namespaces" := by
    cases a.member with
    | method m => simp [Member.toMembers]
    | property p => simp [Member.toMembers]
  have hmembers : depthOfMembers a.member.toMembers ≤ aliasDepth := by
    rw [Alias.toJson, depth, depthOfMembers] at hdepth
    have haliasDepth : aliasDepth = 124 := rfl
    have hmaxDepth : maxDepth = 127 := rfl
    omega
  have hparts : (memberNodes real (("namespaces", .array (a.namespaces.toList.map .string)) ::
      a.member.toMembers)).foldlM AliasParts.read {}
      = .ok ⟨some a.namespaces.toList, a.member.toMembers.reverse ++ []⟩ := by
    rw [memberNodes, List.foldlM_cons, hnamespaces]
    apply foldlM_read_memberNodes hnames (Member.exactMembers_toMembers hreal) hmembers
  have hmember : mismatch (Member.ofMembers (a.member.toMembers.reverse ++ []).reverse)
      = .ok a.member := by
    rw [List.append_nil, List.reverse_reverse, Member.ofMembers_toMembers]
    rfl
  have halias : (⟨.ofList a.namespaces.toList, a.member⟩ : Alias) = a := by
    rw [NameSet.ofList_toList]
  apply bind_eq_ok hparts
  apply bind_eq_ok rfl
  apply bind_eq_ok hmember
  apply congrArg Except.ok halias

/-- No parameter of the manifest has a real default. -/
def HasNoRealDefault (m : Manifest) : Prop := ∀ a ∈ m.aliases, a.member.HasNoRealDefault

/-- A manifest is read back from its node. -/
theorem readRoot_node {m : Manifest} (hreal : m.HasNoRealDefault)
    (hdepth : m.toJson.depth ≤ maxDepth) :
  readRoot (m.toJson.node real) = .ok m
  := by
  have hmodule : Parts.read {} (.ofString "module", (TypeExpr.optionalText m.module?).node real)
      = .ok { module? := some m.module? } := by
    apply bind_eq_ok (decode_ofString "module")
    apply bind_eq_ok rfl
    apply bind_eq_ok (readOptionalString_node m.module?)
    rfl
  have hdepths : ∀ a ∈ m.aliases, a.toJson.depth ≤ maxDepth - 2 := by
    rw [toJson, depth, depthOfMembers, depthOfMembers, depth] at hdepth
    have hitems : depthOfItems (m.aliases.map Alias.toJson) ≤ maxDepth - 2 := by omega
    rw [depthOfItems_le_iff, List.forall_mem_map] at hitems
    apply hitems
  have haliases : Parts.read { module? := some m.module? }
      (.ofString "aliases", (Json.array (m.aliases.map Alias.toJson)).node real)
      = .ok ⟨some m.module?, some m.aliases⟩ := by
    apply bind_eq_ok (decode_ofString "aliases")
    apply bind_eq_ok rfl
    apply bind_eq_ok
    · apply readList_node
      intro a ha
      apply readAlias_node (hreal a ha) (hdepths a ha)
    · rfl
  have hparts : (memberNodes real [("module", TypeExpr.optionalText m.module?),
      ("aliases", .array (m.aliases.map Alias.toJson))]).foldlM Parts.read {}
      = .ok ⟨some m.module?, some m.aliases⟩ := by
    rw [memberNodes, memberNodes, memberNodes, List.foldlM_cons, hmodule]
    apply bind_eq_ok haliases rfl
  apply bind_eq_ok hparts
  rfl

theorem exact_toJson {m : Manifest} (hreal : m.HasNoRealDefault) :
  m.toJson.Exact
  := by
  have haliases : ExactItems (m.aliases.map Alias.toJson) := by
    rw [exactItems_iff, List.forall_mem_map]
    intro a ha
    have hnamespaces : ExactItems (a.namespaces.toList.map Json.string) := by
      rw [exactItems_iff, List.forall_mem_map]
      intro s _
      trivial
    exact ⟨hnamespaces, Member.exactMembers_toMembers (hreal a ha)⟩
  exact ⟨TypeExpr.exact_optionalText m.module?, haliases, trivial⟩

/-- A manifest without real defaults is read back from every text that writes it, if that is
nested no deeper than can be read. -/
theorem ofText_write_toJson {m : Manifest} (hreal : m.HasNoRealDefault)
    (hdepth : m.toJson.depth ≤ maxDepth) (real : Float → Numeral) (spacing : Spacing) :
  ofText (m.toJson.write real spacing) = .ok m
  := by
  rw [ofText, ofText_write (exact_toJson hreal)]
  apply bind_eq_ok (readRoot_node hreal hdepth)
  apply bind_eq_ok rfl
  rfl

/-- A manifest with a receiver, an array of two dimensions, a default that is the least integer,
a constraint to a type, a quote and a line end in texts, and a cached property. -/
def copyAndVerbose : Manifest :=
  let owner := TypeExpr.plain "Tools" "ToolAliases"
  let sources := TypeExpr.array (.nullable (.value "System" "Int32")) 2
  let copy : Method := {
    name := "Copy", owner := owner, result := .parameter "T"
    parameters := [.receiver "context" (.plain "Tools" "IContext"),
      .plain "sources" sources,
      ⟨"limit", .byRef (.plain "System" "Int64"), .input, some (.integer Int64.minValue)⟩,
      ⟨"separator", .plain "System" "Char", .value, some (.char '\n')⟩]
    typeParameters := [⟨"T", [.reference, .subtype (.plain "Tools" "ITool"), .constructible]⟩]
    obsolete? := some ⟨some "Use \"Move\".\n", true⟩ }
  ⟨some "Tools", [(⟨.empty, .method copy⟩ : Alias).withNamespace "Tools.IO",
    (Alias.ofProperty "Verbose" owner (.plain "System" "Boolean")).withCaching true]⟩

/-- A line end in front of every lexeme, and more and more tabs behind it. -/
def tabbed : Spacing where
  gap i := '\n' :: List.replicate i '\t'
  isSpace i c hc := by
    rw [List.mem_cons, List.mem_replicate] at hc
    rcases hc with rfl | ⟨-, rfl⟩
    · decide
    · decide

theorem ofText_write_toJson_copyAndVerbose :
  copyAndVerbose.HasNoRealDefault
    ∧ copyAndVerbose.toJson.depth ≤ maxDepth
    ∧ ofText (copyAndVerbose.toJson.write (fun _ => .ofInt 0) tabbed) = .ok copyAndVerbose
  := by
  have hreal : copyAndVerbose.HasNoRealDefault := by
    simp [copyAndVerbose, HasNoRealDefault, Member.HasNoRealDefault,
      Parameter.HasNoRealDefault, Alias.withNamespace, Alias.ofProperty, Alias.withCaching,
      Parameter.receiver, Parameter.plain]
  have hdepth : copyAndVerbose.toJson.depth ≤ maxDepth := by decide
  use hreal, hdepth
  apply ofText_write_toJson hreal hdepth (fun _ => .ofInt 0) tabbed

end Manifest

end AliasBinding
