import AliasBinding.Json.Token

/-!
# JSON documents

The tokens of a text are put together to a tree that keeps every fault at the place where a
reader comes upon it: a value may be absent, a string or number broken, and a list of items or
members may end without being closed.  Behind the first fault all lists end.  A reader walks
the tree from left to right and fails at the first fault on its way, so the same tree serves
readers that differ in what they look at.
-/

namespace AliasBinding.Json

/-- A value of a document. -/
inductive Node where
  /-- No value stands here. -/
  | absent (fault : Fault)
  | word (read : Except Fault Word)
  | number (read : Except Fault Numeral)
  | text (read : Quoted)
  | array (items : List Node) (ending : Except Fault Unit)
  | object (members : List (Quoted × Node)) (ending : Except Fault Unit)

/-- A list with a place for the value that is being read; what was read before is in
reverse. -/
inductive Frame where
  | array (items : List Node)
  | object (members : List (Quoted × Node)) (key : Quoted)

/-- What the next token has to be, inside the frames given from the innermost one. -/
inductive Builder where
  /-- A value. -/
  | value (outer : List Frame)
  /-- An item or the end of an array. -/
  | firstItem (outer : List Frame)
  /-- A comma or the end of an array. -/
  | afterItem (items : List Node) (outer : List Frame)
  /-- A key or the end of an object. -/
  | firstKey (outer : List Frame)
  /-- A key. -/
  | nextKey (members : List (Quoted × Node)) (outer : List Frame)
  /-- A colon. -/
  | colon (members : List (Quoted × Node)) (key : Quoted) (outer : List Frame)
  /-- A comma or the end of an object. -/
  | afterMember (members : List (Quoted × Node)) (outer : List Frame)
  /-- Nothing; the flag says whether there was something all the same. -/
  | finished (root : Node) (extra : Bool)

/-- A document: a value, and whether anything follows it. -/
structure Document where
  root : Node
  extra : Bool

namespace Frame

/-- The tree around a node at which reading stopped with a fault. -/
def abandon (fault : Fault) : Node → List Frame → Node
  | node, [] => node
  | node, .array items :: outer =>
    abandon fault (.array (node :: items).reverse (.error fault)) outer
  | node, .object members key :: outer =>
    abandon fault (.object ((key, node) :: members).reverse (.error fault)) outer

end Frame

namespace Builder

/-- Goes on after a value. -/
def put (node : Node) : List Frame → Builder
  | [] => .finished node false
  | .array items :: outer => .afterItem (node :: items) outer
  | .object members key :: outer => .afterMember ((key, node) :: members) outer

/-- The tree when reading stops with a fault. -/
def abandon (fault : Fault) : Builder → Node
  | .value outer => Frame.abandon fault (.absent fault) outer
  | .firstItem outer => Frame.abandon fault (.array [] (.error fault)) outer
  | .afterItem items outer => Frame.abandon fault (.array items.reverse (.error fault)) outer
  | .firstKey outer => Frame.abandon fault (.object [] (.error fault)) outer
  | .nextKey members outer | .afterMember members outer =>
    Frame.abandon fault (.object members.reverse (.error fault)) outer
  | .colon members key outer =>
    Frame.abandon fault
      (.object ((key, .absent fault) :: members).reverse (.error fault)) outer
  | .finished root _ => root

/-- Stops at a token that does not belong here. -/
def reject (b : Builder) : Builder := .finished (b.abandon .malformed) false

/-- Takes the first token of a value. -/
def openValue (outer : List Frame) : Token → Builder
  | .openBrace => .firstKey outer
  | .openBracket => .firstItem outer
  | .word read => put (.word read) outer
  | .number read => put (.number read) outer
  | .text read => put (.text read) outer
  | .closeBrace | .closeBracket | .comma | .colon | .stray => (Builder.value outer).reject

/-- Takes a token. -/
def step : Builder → Token → Builder
  | .value outer, t => openValue outer t
  | .firstItem outer, .closeBracket => put (.array [] (.ok ())) outer
  | .firstItem outer, t => openValue (.array [] :: outer) t
  | .afterItem items outer, .closeBracket => put (.array items.reverse (.ok ())) outer
  | .afterItem items outer, .comma => .value (.array items :: outer)
  | .firstKey outer, .closeBrace => put (.object [] (.ok ())) outer
  | .firstKey outer, .text key => .colon [] key outer
  | .nextKey members outer, .text key => .colon members key outer
  | .colon members key outer, .colon => .value (.object members key :: outer)
  | .afterMember members outer, .closeBrace => put (.object members.reverse (.ok ())) outer
  | .afterMember members outer, .comma => .nextKey members outer
  | .finished root _, _ => .finished root true
  | b, _ => b.reject

/-- The document at the end of the tokens. -/
def finish : Builder → Document
  | .finished root extra => ⟨root, extra⟩
  | b => ⟨b.abandon .truncated, false⟩

end Builder

namespace Document

/-- The document of a list of tokens. -/
def ofTokens (ts : List Token) : Document := (ts.foldl Builder.step (.value [])).finish

/-- The document of a text. -/
def ofText (s : String) : Document := ofTokens (tokens s.toList)

/-- The fault of a document whose value has none. -/
def afterRoot (d : Document) : Except Fault Unit :=
  if d.extra then .error .malformed else .ok ()

end Document

/-! ### Reading a whole value -/

namespace Word

/-- The value of a word. -/
def toJson : Word → Json
  | .null => .null
  | .bool b => .bool b

end Word

/-- The most lists that may be open at once. -/
def maxDepth : Nat := 127

namespace Node

mutual

/-- The value of a node in which at most `room` lists may be open at once. -/
def toJson (room : Nat) : Node → Except Fault Json
  | .absent fault => .error fault
  | .word read => read.map Word.toJson
  | .number read =>
    match read with
    | .error fault => .error fault
    | .ok n =>
      match n.toJson? with
      | some value => .ok value
      | none => .error .malformed
  | .text read => read.decode.map .string
  | .array items ending =>
    match room with
    | 0 => .error .malformed
    | room + 1 => do
      let values ← itemsToJson room items
      ending
      return .array values
  | .object members ending =>
    match room with
    | 0 => .error .malformed
    | room + 1 => do
      let values ← membersToJson room members
      ending
      return .object values

/-- The values of the items of an array. -/
def itemsToJson (room : Nat) : List Node → Except Fault (List Json)
  | [] => .ok []
  | item :: rest => do
    let value ← item.toJson room
    return value :: (← itemsToJson room rest)

/-- The names and values of the members of an object. -/
def membersToJson (room : Nat) : List (Quoted × Node) → Except Fault (List (String × Json))
  | [] => .ok []
  | (key, node) :: rest => do
    let name ← key.decode
    let value ← node.toJson room
    return (name, value) :: (← membersToJson room rest)

end

mutual

/-- Passes over a node whose value is of no interest: neither the depth, nor the size of
numbers, nor the pairing of surrogates is looked at. -/
def pass : Node → Except Fault Unit
  | .absent fault => .error fault
  | .word read => read.map fun _ => ()
  | .number read =>
    match read with
    | .error _ => .error .malformed
    | .ok _ => .ok ()
  | .text read => read.ending
  | .array items ending => do passItems items; ending
  | .object members ending => do passMembers members; ending

/-- Passes over the items of an array. -/
def passItems : List Node → Except Fault Unit
  | [] => .ok ()
  | item :: rest => do item.pass; passItems rest

/-- Passes over the members of an object. -/
def passMembers : List (Quoted × Node) → Except Fault Unit
  | [] => .ok ()
  | (key, node) :: rest => do key.ending; node.pass; passMembers rest

end

/-- The fault of a node that is not of the wanted type: a list is refused where it begins,
anything else is read first. -/
def refuse (node : Node) : Fault :=
  match node with
  | .array _ _ | .object _ _ => .mismatch .wrongType
  | node =>
    match node.toJson 0 with
    | .error fault => fault
    | .ok _ => .mismatch .wrongType

end Node

/-- The value of a text that is a JSON text. -/
def ofText (s : String) (room : Nat) : Except Fault Json := do
  let d := Document.ofText s
  let value ← d.root.toJson room
  d.afterRoot
  return value

end AliasBinding.Json
