import AliasBinding.Json.Document
import AliasBinding.Proofs.Json.Scanning

/-!
# Documents of written JSON

The text of a value is read as a document without faults: the node of the value, with nothing
behind it (`ofText_write`).  The value is got back from its node if its numbers are exact and
there is room for its depth (`toJson_node`).
-/

namespace AliasBinding.Json

variable {real : Float → Numeral}

/-! ### Lexemes -/

/-- The lexemes can be scanned, for every number is an integer and no two numbers stand side by
side. -/
def Scannable (ls : List Lexeme) : Prop :=
  (∀ l ∈ ls, l.Readable) ∧ ls.IsChain Lexeme.Apart

/-- The lexemes can be scanned behind any lexeme. -/
def Closing (ls : List Lexeme) : Prop :=
  Scannable ls ∧ ∀ l ∈ ls.head?, l.isNumber = false

theorem closing_nil :
  Closing []
  := ⟨⟨nofun, .nil⟩, nofun⟩

/-- A lexeme that is no number can stand in front of all others. -/
theorem Scannable.cons {l : Lexeme} {ls : List Lexeme} (hl : l.isNumber = false)
    (hls : Scannable ls) :
  Closing (l :: ls)
  := by
  have hreadable : l.Readable := by
    cases l with
    | number n => cases hl
    | openBrace | closeBrace | openBracket | closeBracket | comma | colon | word | text =>
      trivial
  refine ⟨⟨?_, ?_⟩, ?_⟩
  · rw [List.forall_mem_cons]
    exact ⟨hreadable, hls.1⟩
  · apply hls.2.cons
    intro _ _
    left
    apply hl
  · intro l' hl'
    cases hl'
    apply hl

/-- An integer can stand in front of whatever closes. -/
theorem Closing.cons_integer {ls : List Lexeme} (hls : Closing ls) (n : Int) :
  Scannable (.number (.ofInt n) :: ls)
  := by
  constructor
  · rw [List.forall_mem_cons]
    exact ⟨⟨n, rfl⟩, hls.1.1⟩
  · apply hls.1.2.cons
    intro l hl
    right
    apply hls.2 l hl

mutual

/-- The lexemes of an exact value can be scanned in front of whatever closes. -/
theorem scannable_lexemes {ls : List Lexeme} (hls : Closing ls) :
  ∀ v : Json, v.Exact → Scannable (v.lexemes real ++ ls)
  | .null, _ => (hls.1.cons rfl).1
  | .bool _, _ => (hls.1.cons rfl).1
  | .string _, _ => (hls.1.cons rfl).1
  | .integer n, _ => hls.cons_integer n
  | .array [], _ => ((hls.1.cons rfl).1.cons rfl).1
  | .array (item :: items), h => by
    rw [Exact, ExactItems] at h
    rw [lexemes, List.cons_append, List.append_assoc, List.append_assoc]
    have hitems := closing_furtherItems (hls.1.cons (l := .closeBracket) rfl) items h.2
    apply ((scannable_lexemes hitems item h.1).cons rfl).1
  | .object [], _ => ((hls.1.cons rfl).1.cons rfl).1
  | .object ((name, value) :: members), h => by
    rw [Exact, ExactMembers] at h
    rw [lexemes, List.cons_append, List.cons_append, List.cons_append, List.append_assoc,
      List.append_assoc]
    have hmembers := closing_furtherMembers (hls.1.cons (l := .closeBrace) rfl) members h.2
    have hvalue := scannable_lexemes hmembers value h.1
    apply (((hvalue.cons rfl).1.cons rfl).1.cons rfl).1

theorem closing_furtherItems {ls : List Lexeme} (hls : Closing ls) :
  ∀ items : List Json, ExactItems items → Closing (furtherItems real items ++ ls)
  | [], _ => hls
  | item :: items, h => by
    rw [ExactItems] at h
    rw [furtherItems, List.cons_append, List.append_assoc]
    have hitems := closing_furtherItems hls items h.2
    apply (scannable_lexemes hitems item h.1).cons rfl

theorem closing_furtherMembers {ls : List Lexeme} (hls : Closing ls) :
  ∀ members : List (String × Json), ExactMembers members →
    Closing (furtherMembers real members ++ ls)
  | [], _ => hls
  | (name, value) :: members, h => by
    rw [ExactMembers] at h
    rw [furtherMembers, List.cons_append, List.cons_append, List.cons_append,
      List.append_assoc]
    have hmembers := closing_furtherMembers hls members h.2
    have hvalue := scannable_lexemes hmembers value h.1
    apply ((hvalue.cons rfl).1.cons rfl).1.cons rfl

end

/-- The text of an exact value is scanned to the tokens of its lexemes. -/
theorem tokens_write {v : Json} (hv : v.Exact) (spacing : Spacing) :
  tokens (v.write real spacing).toList = (v.lexemes real).map Lexeme.token
  := by
  have hscannable : Scannable (v.lexemes real ++ []) := scannable_lexemes closing_nil v hv
  rw [List.append_nil] at hscannable
  rw [write, String.toList_ofList]
  apply tokens_layOut hscannable.1 hscannable.2

/-! ### Nodes -/

section Nodes

variable (real)

mutual

/-- The node that a value is read as. -/
def node : Json → Node
  | .null => .word (.ok .null)
  | .bool b => .word (.ok (.bool b))
  | .integer n => .number (.ok (.ofInt n))
  | .float x => .number (.ok (real x))
  | .string s => .text (.ofString s)
  | .array items => .array (nodes items) (.ok ())
  | .object members => .object (memberNodes members) (.ok ())

/-- The nodes of the items of an array. -/
def nodes : List Json → List Node
  | [] => []
  | item :: items => item.node :: nodes items

/-- The nodes of the members of an object, with their names. -/
def memberNodes : List (String × Json) → List (Quoted × Node)
  | [] => []
  | (name, value) :: members => (.ofString name, value.node) :: memberNodes members

end

end Nodes

/-- At the beginning of an array, a value is taken as its first item. -/
theorem foldl_lexemes_firstItem (v : Json) (outer : List Frame) :
  ((v.lexemes real).map Lexeme.token).foldl Builder.step (.firstItem outer)
    = ((v.lexemes real).map Lexeme.token).foldl Builder.step (.value (.array [] :: outer))
  := by
  cases v with
  | null | bool | integer | float | string => rfl
  | array items =>
    cases items with
    | nil => rfl
    | cons item items => rfl
  | object members =>
    cases members with
    | nil => rfl
    | cons member members => rfl

mutual

/-- The tokens of a value are put together to its node, whatever is around it. -/
theorem foldl_lexemes :
  ∀ (v : Json) (outer : List Frame),
    ((v.lexemes real).map Lexeme.token).foldl Builder.step (.value outer)
      = Builder.put (v.node real) outer
  | .null, _ => rfl
  | .bool _, _ => rfl
  | .integer _, _ => rfl
  | .float _, _ => rfl
  | .string _, _ => rfl
  | .array [], _ => rfl
  | .array (item :: items), outer => by
    -- No value begins with a closing bracket, so the first item is taken like any value.
    have hopen : Builder.step (.value outer) Lexeme.openBracket.token = .firstItem outer := rfl
    rw [lexemes, List.map_cons, List.foldl_cons, List.map_append, List.map_append,
      List.foldl_append, List.foldl_append, hopen, foldl_lexemes_firstItem,
      foldl_lexemes item, Builder.put, foldl_furtherItems items]
    simp [node, nodes, Lexeme.token, Builder.step]
  | .object [], _ => rfl
  | .object ((name, value) :: members), outer => by
    have hkey : (((Builder.value outer).step Lexeme.openBrace.token).step
        (Lexeme.text name).token).step Lexeme.colon.token
        = .value (.object [] (.ofString name) :: outer) := rfl
    rw [lexemes, List.map_cons, List.map_cons, List.map_cons, List.foldl_cons,
      List.foldl_cons, List.foldl_cons, List.map_append, List.map_append, List.foldl_append,
      List.foldl_append, hkey, foldl_lexemes value, Builder.put, foldl_furtherMembers members]
    simp [node, memberNodes, Lexeme.token, Builder.step]

theorem foldl_furtherItems :
  ∀ (items : List Json) (read : List Node) (outer : List Frame),
    ((furtherItems real items).map Lexeme.token).foldl Builder.step (.afterItem read outer)
      = .afterItem ((nodes real items).reverse ++ read) outer
  | [], _, _ => rfl
  | item :: items, read, outer => by
    have hcomma : (Builder.afterItem read outer).step Lexeme.comma.token
        = .value (.array read :: outer) := rfl
    rw [furtherItems, List.map_cons, List.foldl_cons, List.map_append, List.foldl_append,
      hcomma, foldl_lexemes item, Builder.put, foldl_furtherItems items, nodes,
      List.reverse_cons, List.append_assoc, List.singleton_append]

theorem foldl_furtherMembers :
  ∀ (members : List (String × Json)) (read : List (Quoted × Node)) (outer : List Frame),
    ((furtherMembers real members).map Lexeme.token).foldl Builder.step
        (.afterMember read outer)
      = .afterMember ((memberNodes real members).reverse ++ read) outer
  | [], _, _ => rfl
  | (name, value) :: members, read, outer => by
    have hkey : (((Builder.afterMember read outer).step Lexeme.comma.token).step
        (Lexeme.text name).token).step Lexeme.colon.token
        = .value (.object read (.ofString name) :: outer) := rfl
    rw [furtherMembers, List.map_cons, List.map_cons, List.map_cons, List.foldl_cons,
      List.foldl_cons, List.foldl_cons, List.map_append, List.foldl_append, hkey,
      foldl_lexemes value, Builder.put, foldl_furtherMembers members, memberNodes,
      List.reverse_cons, List.append_assoc, List.singleton_append]

end

/-- The document of a written value is its node, with nothing behind it. -/
theorem ofText_write {v : Json} (hv : v.Exact) (spacing : Spacing) :
  Document.ofText (v.write real spacing) = ⟨v.node real, false⟩
  := by
  rw [Document.ofText, tokens_write hv, Document.ofTokens, foldl_lexemes]
  rfl

/-! ### Values -/

theorem exactItems_iff {items : List Json} :
  ExactItems items ↔ ∀ item ∈ items, item.Exact
  := by
  induction items with
  | nil => simp [ExactItems]
  | cons item items ih => rw [ExactItems, ih, List.forall_mem_cons]

theorem depthOfItems_le_iff {items : List Json} {n : Nat} :
  depthOfItems items ≤ n ↔ ∀ item ∈ items, item.depth ≤ n
  := by
  induction items with
  | nil => simp [depthOfItems]
  | cons item items ih => rw [depthOfItems, Nat.max_le, ih, List.forall_mem_cons]

theorem depthOfMembers_le_iff {members : List (String × Json)} {n : Nat} :
  depthOfMembers members ≤ n ↔ ∀ m ∈ members, m.2.depth ≤ n
  := by
  induction members with
  | nil => simp [depthOfMembers]
  | cons m members ih => rw [depthOfMembers, Nat.max_le, ih, List.forall_mem_cons]

theorem exactItems_strings (ss : List String) :
  ExactItems (ss.map .string)
  := by
  rw [exactItems_iff, List.forall_mem_map]
  intro _ _
  trivial

theorem depthOfItems_strings (ss : List String) :
  depthOfItems (ss.map .string) ≤ 0
  := by
  rw [depthOfItems_le_iff, List.forall_mem_map]
  intro _ _
  rfl

/-- A written string is read as it was. -/
@[simp]
theorem decode_ofString (s : String) :
  (Quoted.ofString s).decode = .ok s
  := by
  have hunits : ∀ cs : List Char,
      Quoted.decodeUnits (.ok ()) (cs.map .char) = .ok cs := by
    intro cs
    induction cs with
    | nil => rfl
    | cons c cs ih =>
      rw [List.map_cons, Quoted.decodeUnits, ih]
      rfl
  rw [Quoted.decode, Quoted.ofString, hunits]
  change Except.ok (String.ofList s.toList) = _
  rw [String.ofList_toList]

mutual

/-- An exact value is got back from its node when there is room for its depth. -/
theorem toJson_node :
  ∀ (v : Json) (room : Nat), v.Exact → v.depth ≤ room → (v.node real).toJson room = .ok v
  | .null, _, _, _ => by
    rw [node, Node.toJson]
    rfl
  | .bool _, _, _, _ => by
    rw [node, Node.toJson]
    rfl
  | .string s, _, _, _ => by
    rw [node, Node.toJson, decode_ofString]
    rfl
  | .integer n, _, h, _ => by
    rw [Exact] at h
    simp only [node, Node.toJson, Numeral.toJson?, Numeral.toInteger?_ofInt h.1 h.2]
  | .array items, room, h, hdepth => by
    rw [depth] at hdepth
    rw [Exact] at h
    cases room with
    | zero => cases hdepth
    | succ room =>
      rw [node, Node.toJson, itemsToJson_nodes items room h (Nat.le_of_succ_le_succ hdepth)]
      rfl
  | .object members, room, h, hdepth => by
    rw [depth] at hdepth
    rw [Exact] at h
    cases room with
    | zero => cases hdepth
    | succ room =>
      rw [node, Node.toJson,
        membersToJson_nodes members room h (Nat.le_of_succ_le_succ hdepth)]
      rfl

theorem itemsToJson_nodes :
  ∀ (items : List Json) (room : Nat), ExactItems items → depthOfItems items ≤ room →
    Node.itemsToJson room (nodes real items) = .ok items
  | [], _, _, _ => by
    rw [nodes, Node.itemsToJson]
  | item :: items, room, h, hdepth => by
    rw [depthOfItems, Nat.max_le] at hdepth
    rw [ExactItems] at h
    rw [nodes, Node.itemsToJson, toJson_node item room h.1 hdepth.1,
      itemsToJson_nodes items room h.2 hdepth.2]
    rfl

theorem membersToJson_nodes :
  ∀ (members : List (String × Json)) (room : Nat), ExactMembers members →
    depthOfMembers members ≤ room →
    Node.membersToJson room (memberNodes real members) = .ok members
  | [], _, _, _ => by
    rw [memberNodes, Node.membersToJson]
  | (name, value) :: members, room, h, hdepth => by
    rw [depthOfMembers, Nat.max_le] at hdepth
    rw [ExactMembers] at h
    rw [memberNodes, Node.membersToJson, decode_ofString,
      toJson_node value room h.1 hdepth.1, membersToJson_nodes members room h.2 hdepth.2]
    rfl

end

end AliasBinding.Json
