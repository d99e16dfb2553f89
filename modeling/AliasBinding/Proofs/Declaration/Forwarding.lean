import AliasBinding.Proofs.Declaration.Inversion
import AliasBinding.Proofs.Text.SingleLine

/-!
# The forwarded call

The declaration of a method has a header, with the parameters that scripts give arguments for,
and a call in its body.  The call names what the header names, and its arguments are the script
context, if the method has a receiver, and the parameters of the header in their order, each
under the keyword that a call has to repeat.  Nothing of the receiver but that it is there comes
into the declaration (`Method.forwards_parameters`).
-/

namespace AliasBinding

open Text

/-! ### Lists with commas -/

/-- The items of a list with commas: what stands between the commas, without the spaces in
front. -/
def commaItems (list : String) : List String :=
  if list = "" then []
  else (list.toList.splitOn ',').map fun item => String.ofList (item.dropWhile (· = ' '))

/-- A text that starts, and not with a space. -/
def HasHead (s : String) : Prop := ∃ c rest, s.toList = c :: rest ∧ c ≠ ' '

namespace HasHead

variable {s : String} (h : HasHead s)

include h

theorem ne_empty :
  s ≠ ""
  := by
  rintro rfl
  obtain ⟨c, rest, hlist, -⟩ := h
  cases hlist

theorem append (rest : String) :
  HasHead (s ++ rest)
  := by
  obtain ⟨c, cs, hlist, hc⟩ := h
  use c, cs ++ rest.toList
  rw [String.toList_append, hlist]
  exact ⟨rfl, hc⟩

theorem dropWhile_toList :
  s.toList.dropWhile (· = ' ') = s.toList
  := by
  obtain ⟨c, rest, hlist, hc⟩ := h
  rw [hlist, List.dropWhile_cons_of_neg (by simpa using hc)]

end HasHead

/-- A text that can be told apart in a list with commas. -/
structure IsItem (item : String) : Prop where
  comma_notMem : ',' ∉ item.toList
  head_ne : ∃ c rest, item.toList = c :: rest ∧ c ≠ ' '

namespace IsItem

theorem hasHead {item : String} (h : IsItem item) :
  HasHead item
  := h.head_ne

/-- An item goes on with anything but a comma. -/
theorem append {item rest : String} (h : IsItem item) (hrest : ',' ∉ rest.toList) :
  IsItem (item ++ rest)
  := by
  constructor
  case comma_notMem =>
    rw [String.toList_append, List.mem_append, not_or]
    exact ⟨h.comma_notMem, hrest⟩
  case head_ne => apply h.hasHead.append

end IsItem

theorem isItem_of_isIdentifier {s : String} (h : isIdentifier s = true) :
  IsItem s
  := by
  constructor
  case comma_notMem => apply notMem_of_isIdentifier (by decide) h
  case head_ne =>
    cases hs : s.toList with
    | nil => exact absurd (String.toList_eq_nil_iff.mp hs) (isIdentifier_ne_empty h)
    | cons c rest =>
      use c, rest, rfl
      rintro rfl
      apply head?_ne_of_isIdentifier (c := ' ') (by decide) h
      rw [hs, List.head?_cons]

theorem isItem_escaped {s : String} (h : isIdentifier s = true) :
  IsItem (escaped s)
  := by
  have hitem := isItem_of_isIdentifier h
  rw [escaped]
  split
  · have hmark : IsItem "@" := ⟨by decide, '@', [], rfl, by decide⟩
    apply hmark.append hitem.comma_notMem
  · apply hitem

/-- Texts are split off at the first of two separators, with the second one in front of all but
the first of them. -/
theorem splitOn_intercalate_pair {α : Type} [BEq α] [LawfulBEq α] {x y : α} (hy : y ≠ x)
    {xs : List α} {xss : List (List α)} (h : x ∉ xs) (hxss : ∀ ys ∈ xss, x ∉ ys) :
  ([x, y].intercalate (xs :: xss)).splitOn x = xs :: xss.map (y :: ·)
  := by
  induction xss generalizing xs with
  | nil =>
    rw [List.intercalate_singleton, List.map_nil]
    apply List.splitOn_eq_singleton h
  | cons next xss ih =>
    rw [List.forall_mem_cons] at hxss
    have hlist : [x, y].intercalate (xs :: next :: xss)
        = xs ++ x :: y :: [x, y].intercalate (next :: xss) := by
      rw [List.intercalate_cons_cons, List.append_assoc]
      rfl
    rw [hlist, List.splitOn_append_cons_self_of_not_mem h, splitOn_cons_of_ne hy,
      ih hxss.1 hxss.2]
    rfl

/-- Items are split off at the commas, with the space behind a comma in front of them. -/
theorem splitOn_commaList {item : String} {items : List String} (h : IsItem item)
    (hitems : ∀ t ∈ items, IsItem t) :
  (commaList (item :: items)).toList.splitOn ','
    = item.toList :: items.map (' ' :: ·.toList)
  := by
  have hlists : ∀ cs ∈ items.map String.toList, ',' ∉ cs :=
    List.forall_mem_map.mpr fun t ht => (hitems t ht).comma_notMem
  rw [commaList, String.toList_intercalate, List.map_cons,
    show ", ".toList = [',', ' '] from rfl,
    splitOn_intercalate_pair (by decide) h.comma_notMem hlists, List.map_map]
  rfl

/-- The items of a list with commas are those that it was made of. -/
theorem commaItems_commaList {items : List String} (h : ∀ t ∈ items, IsItem t) :
  commaItems (commaList items) = items
  := by
  cases items with
  | nil => rfl
  | cons item items =>
    obtain ⟨hitem, hitems⟩ := List.forall_mem_cons.mp h
    have hne : commaList (item :: items) ≠ "" :=
      intercalate_ne_empty ", " hitem.hasHead.ne_empty items
    have htexts : (items.map fun t => String.ofList ((' ' :: t.toList).dropWhile (· = ' ')))
        = items.map id := by
      apply List.map_congr_left
      intro t ht
      rw [List.dropWhile_cons_of_pos rfl, (hitems t ht).hasHead.dropWhile_toList,
        String.ofList_toList, id]
    rw [commaItems, if_neg hne, splitOn_commaList hitem hitems, List.map_cons, List.map_map,
      hitem.hasHead.dropWhile_toList, String.ofList_toList]
    apply congrArg (item :: ·) (htexts.trans (List.map_id items))

/-! ### Header and call -/

namespace MethodParts

/-- What is declared, and called: the member with its type parameters. -/
def called (d : MethodParts) : String := d.name ++ d.typeList

/-- The header of the declaration. -/
def header (d : MethodParts) : String :=
  "public " ++ d.result ++ " " ++ d.called ++ "(" ++
    commaList (d.parameters.map ParameterParts.text) ++ ")"

/-- The call in the body of the declaration. -/
def call (d : MethodParts) : String :=
  d.owner ++ "." ++ d.called ++ "(" ++ commaList (d.arguments.map ArgumentParts.text) ++ ");"

/-- The statement that the body consists of. -/
def statement (d : MethodParts) : String := if d.isVoid then d.call else "return " ++ d.call

/-- The declaration is a header, with an attribute above it and where clauses below it, and a
block with one statement. -/
theorem lines_eq_header_statement (d : MethodParts) :
  d.lines = Obsolete.lines d.obsolete? ++ ⟨0, d.header⟩ :: TypeParameter.clauseLines d.clauses
    ++ [⟨0, "\x7b"⟩, ⟨1, d.statement⟩, ⟨0, Draft.closingBrace⟩]
  := by
  rw [lines, header, statement, call, called]
  cases d.isVoid with
  | true | false =>
    simp only [if_true, if_false, Bool.false_eq_true, String.empty_append, String.append_assoc,
      List.append_assoc, List.cons_append, List.nil_append]

/-- The header declares the method, and the call forwards what the header declares. -/
structure Forwards (d : MethodParts) (style : Style) (m : Method) : Prop where
  called_eq : d.called = escaped m.name
    ++ TypeParameter.bracketed (m.typeParameters.map fun p => escaped p.name)
  names_eq : d.parameters.map (·.name) = m.scriptParameters.map fun p => escaped p.name
  keywords_eq : d.parameters.map (·.keyword?) = m.scriptParameters.map (·.passing.keyword?)
  arguments_eq : d.arguments = (if m.hasReceiver then [⟨none, style.context⟩] else [])
    ++ d.parameters.map ParameterParts.argument
  length_arguments : d.arguments.length = m.parameters.length
  /-- The arguments can be told apart in the text of the call. -/
  items_eq : commaItems (commaList (d.arguments.map ArgumentParts.text))
    = d.arguments.map ArgumentParts.text

end MethodParts

/-! ### Arguments -/

namespace Parameter

theorem isItem_argument {qualify : Bool} {p : Parameter} {d : ParameterParts}
    (h : p.parts qualify = .ok d) :
  IsItem d.argument.text
  := by
  obtain ⟨hidentifier, hname, hkeyword⟩ := parts_eq_ok h
  have hitem := isItem_escaped hidentifier
  have hleading : ∀ keyword ∈ callKeywords, IsItem (keyword ++ " ") := by
    simp only [callKeywords, List.forall_mem_cons, List.not_mem_nil, false_imp_iff,
      implies_true, and_true]
    exact ⟨⟨by decide, 'r', _, rfl, by decide⟩, ⟨by decide, 'o', _, rfl, by decide⟩,
      ⟨by decide, 'i', _, rfl, by decide⟩⟩
  rw [ArgumentParts.text, ParameterParts.argument, hname]
  cases hrepeated : d.keyword?.filter callKeywords.contains with
  | none =>
    rw [leading, String.empty_append]
    apply hitem
  | some keyword =>
    obtain ⟨-, hkeyword⟩ := Option.filter_eq_some_iff.mp hrepeated
    apply (hleading keyword (List.contains_iff_mem.mp hkeyword)).append hitem.comma_notMem

end Parameter

theorem Method.length_parameters (m : Method) :
  (if m.hasReceiver then 1 else 0) + m.scriptParameters.length = m.parameters.length
  := by
  rw [scriptParameters]
  split
  case isTrue h =>
    obtain ⟨receiver, rest, hparameters⟩ : ∃ receiver rest, m.parameters = receiver :: rest := by
      cases hparameters : m.parameters with
      | nil => simp [hasReceiver, hparameters] at h
      | cons receiver rest => exact ⟨receiver, rest, rfl⟩
    rw [hparameters, List.tail_cons, List.length_cons, Nat.add_comm]
  case isFalse => rw [Nat.zero_add]

/-! ### Forwarding -/

/-- The parts of a method forward its parameters. -/
theorem Method.HasParts.forwards {style : Style} {m : Method} {d : MethodParts}
    (h : m.HasParts style d) (hcontext : isIdentifier style.context = true) :
  d.Forwards style m
  := by
  have hnames : d.parameters.map (·.name) = m.scriptParameters.map fun p => escaped p.name := by
    apply (givesWithin_mapM_map_eq ?_).of_eq_ok _ h.parameters_parts
    intro p _
    exact ⟨fun d hd => (Parameter.parts_eq_ok hd).2.1⟩
  have hkeywords : d.parameters.map (·.keyword?)
      = m.scriptParameters.map (·.passing.keyword?) := by
    apply (givesWithin_mapM_map_eq ?_).of_eq_ok _ h.parameters_parts
    intro p _
    exact ⟨fun d hd => (Parameter.parts_eq_ok hd).2.2⟩
  have hlength : d.arguments.length = m.parameters.length := by
    have hparameters := congrArg List.length hnames
    rw [List.length_map, List.length_map] at hparameters
    rw [h.arguments_eq, List.length_append, List.length_map, hparameters,
      ← m.length_parameters]
    split
    · rfl
    · rfl
  have hitems : ∀ a ∈ d.arguments, IsItem a.text := by
    rw [h.arguments_eq, List.forall_mem_append, List.forall_mem_map]
    constructor
    · intro a ha
      split at ha
      · rw [List.mem_singleton.mp ha, ArgumentParts.text, leading, String.empty_append]
        apply isItem_of_isIdentifier hcontext
      · cases ha
    · apply (givesWithin_mapM (Q := fun d => IsItem d.argument.text) ?_).of_eq_ok _
        h.parameters_parts
      intro p _
      exact ⟨fun d hd => Parameter.isItem_argument hd⟩
  constructor
  case called_eq => rw [MethodParts.called, MethodParts.typeList, h.name_eq, h.typeParameters_eq]
  case names_eq => apply hnames
  case keywords_eq => apply hkeywords
  case arguments_eq => apply h.arguments_eq
  case length_arguments => apply hlength
  case items_eq =>
    apply commaItems_commaList
    rw [List.forall_mem_map]
    apply hitems

/-- A method depends on its receiver only in that it has one. -/
theorem Method.draft_eq_of_receivers (style : Style) {m : Method}
    {receiver receiver' : Parameter} {rest : List Parameter}
    (hparameters : m.parameters = receiver :: rest) (h : receiver.passing = .receiver)
    (h' : receiver'.passing = .receiver) :
  ({ m with parameters := receiver' :: rest } : Method).draft style = m.draft style
  := by
  have hreceiver : m.hasReceiver = true := by
    rw [hasReceiver, hparameters]
    simp [h]
  have hreceiver' : ({ m with parameters := receiver' :: rest } : Method).hasReceiver = true := by
    rw [hasReceiver]
    simp [h']
  have hscript : ({ m with parameters := receiver' :: rest } : Method).scriptParameters
      = m.scriptParameters := by
    rw [scriptParameters, scriptParameters, if_pos hreceiver, if_pos hreceiver', hparameters]
    rfl
  simp only [draft, callArguments, hscript, hreceiver, hreceiver']

/-- The declaration of a method is a header over a statement with a call.  Both name the same
member with the same type parameters; the arguments of the call are as many as the parameters of
the method, namely the context, if there is a receiver, and then the parameters of the header in
their order, with the same spelling, under the keyword that a call has to repeat.  And whether
there is a declaration or an error, it stays the same for another receiver. -/
theorem Method.forwards_parameters (style : Style) (m : Method) :
  (∀ namespaces text, isIdentifier style.context = true →
    (⟨namespaces, .method m⟩ : Alias).Declares style text →
      ∃ d : MethodParts, m.parts style = .ok d
        ∧ text = Line.join style (Obsolete.lines m.obsolete?
          ++ ⟨0, d.header⟩ :: TypeParameter.clauseLines d.clauses
          ++ [⟨0, "\x7b"⟩, ⟨1, d.statement⟩, ⟨0, Draft.closingBrace⟩])
        ∧ d.Forwards style m)
    ∧ ∀ receiver receiver' rest, m.parameters = receiver :: rest →
      receiver.passing = .receiver → receiver'.passing = .receiver →
      ({ m with parameters := receiver' :: rest } : Method).draft style = m.draft style
  := by
  constructor
  · intro namespaces text hcontext h
    obtain ⟨d, hd, rfl⟩ := declares_iff.mp h
    have hparts := hasParts_of_parts hd
    use d, hd
    rw [← hparts.obsolete?_eq, d.lines_eq_header_statement]
    exact ⟨rfl, hparts.forwards hcontext⟩
  · intro receiver receiver' rest
    apply draft_eq_of_receivers

/-- A method with parameters of several kinds, of which one has a reserved name. -/
def copyMethod : Method where
  name := "Copy"
  owner := .plain "Tools" "ToolAliases"
  result := .plain "System" "Boolean"
  parameters := [.receiver "context" (.plain "Core" "IContext"),
    ⟨"ref", .plain "System" "String", .reference, none⟩,
    ⟨"depth", .plain "System" "Int32", .input, some (.integer 3)⟩,
    ⟨"rest", .array (.parameter "T") 1, .rest, none⟩]
  typeParameters := [⟨"T", []⟩]
  obsolete? := none

theorem Method.forwards_parameters_copy :
  isIdentifier ({} : Style).context = true
    ∧ (⟨.empty, .method copyMethod⟩ : Alias).Declares {}
      ("public bool Copy<T>(ref string @ref, in int depth = 3, params T[] rest)\n\x7b\n"
        ++ "    return Tools.ToolAliases.Copy<T>(Context, ref @ref, in depth, rest);\n\x7d")
    ∧ (∃ d, copyMethod.parts {} = .ok d ∧ d.Forwards {} copyMethod)
    ∧ ({ copyMethod with
        parameters := .receiver "" (.plain "" "") :: copyMethod.parameters.tail } : Method).draft {}
      = copyMethod.draft {}
  := by
  have hcontext : isIdentifier ({} : Style).context = true := by decide
  have hdeclares : (⟨.empty, .method copyMethod⟩ : Alias).Declares {}
      ("public bool Copy<T>(ref string @ref, in int depth = 3, params T[] rest)\n\x7b\n"
        ++ "    return Tools.ToolAliases.Copy<T>(Context, ref @ref, in depth, rest);\n\x7d") := by
    apply Alias.declaration_eq_ok_iff.mp
    decide +kernel
  obtain ⟨d, hd, -, hforwards⟩ :=
    (forwards_parameters {} copyMethod).1 .empty _ hcontext hdeclares
  exact ⟨hcontext, hdeclares, ⟨d, hd, hforwards⟩,
    (forwards_parameters {} copyMethod).2 _ _ _ rfl rfl rfl⟩

end AliasBinding
