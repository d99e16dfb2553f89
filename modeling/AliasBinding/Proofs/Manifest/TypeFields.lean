import AliasBinding.Manifest.TypeShape
import AliasBinding.Proofs.Json.Fields

/-!
# The fields of a type

A type that is written as an object is kept when its members agree in the fields of its kind
(`TypeExpr.keeps_object`).  One that is written as an array has the fields of its kind in order
(`TypeExpr.ofJson_array_eq`).
-/

namespace AliasBinding

open Json

namespace TypeExpr

/-- The fields of a type of the given kind, with the places where they are kept. -/
def slots : Kind → List (Slot Partial)
  | .named => [
      ⟨⟨"namespace", asOption asString, some none⟩, Partial.ns?,
        fun s x => { s with ns? := x }⟩,
      ⟨⟨"name", asString, none⟩, Partial.name?, fun s x => { s with name? := x }⟩,
      ⟨⟨"arguments", asList ofJson, some []⟩, Partial.arguments?,
        fun s x => { s with arguments? := x }⟩,
      ⟨⟨"value_type", asBool, some false⟩, Partial.isValue?,
        fun s x => { s with isValue? := x }⟩]
  | .parameter => [
      ⟨⟨"name", asString, none⟩, Partial.name?, fun s x => { s with name? := x }⟩]
  | .array => [
      ⟨⟨"element", ofJson, none⟩, Partial.element?, fun s x => { s with element? := x }⟩,
      ⟨⟨"rank", asUInt8, some 1⟩, Partial.rank?, fun s x => { s with rank? := x }⟩]
  | .nullable | .byRef => [
      ⟨⟨"inner", ofJson, none⟩, Partial.inner?, fun s x => { s with inner? := x }⟩]

/-- The tag of a type. -/
abbrev tag : Field := tagField "type" Kind.table

/-- The fields of a type of the given kind. -/
def fields (kind : Kind) : List Field := tag :: (slots kind).map Slot.field

/-- A list of types is read like any list. -/
theorem listOfJson_eq (v : Json) :
  listOfJson v = asList ofJson v
  := by
  have hitems (items : List Json) : ofItems items = items.mapM ofJson := by
    induction items with
    | nil =>
      rw [ofItems]
      rfl
    | cons item items ih =>
      rw [ofItems, ih, List.mapM_cons]
  cases v with
  | array items =>
    rw [listOfJson, hitems]
    rfl
  | null | bool | integer | float | string | object =>
    rw [listOfJson]
    rfl

/-- Reads a member of a type of the given kind. -/
def readMember (kind : Kind) (fields : Partial) (name : String) (v : Json) : Read Partial :=
  ofMembers kind fields [(name, v)]

theorem ofMembers_nil (kind : Kind) (fields : Partial) :
  ofMembers kind fields [] = pure fields
  := by
  rw [ofMembers]
  rfl

theorem ofMembers_eq (kind : Kind) (fields : Partial) (ms : List (String × Json)) :
  ofMembers kind fields ms = foldMembers (readMember kind) fields ms
  := by
  induction ms generalizing fields with
  | nil => apply ofMembers_nil
  | cons m ms ih =>
    have hfold (fields : Partial) :
        ofMembers kind fields ms = ms.foldlM (fun s m => readMember kind s m.1 m.2) fields :=
      ih fields
    rw [foldMembers, List.foldlM_cons, readMember, ofMembers.eq_def kind fields (m :: ms),
      ofMembers.eq_def kind fields [m]]
    simp only [ofMembers_nil, bind_pure, hfold]
    split
    all_goals rfl

theorem fillsSlots_readMember (kind : Kind) :
  FillsSlots (readMember kind) (slots kind)
  where
    distinct := by
      cases kind with
      | named | parameter | array | nullable | byRef => decide
    get_put := by
      cases kind with
      | named | parameter | array | nullable | byRef => simp [slots]
    get_put_other := by
      cases kind with
      | named | parameter | array | nullable | byRef => simp [slots]
    known := by
      have hpure (fields : Partial) : .ok fields = (pure fields : Read Partial) := rfl
      cases kind with
      | named | parameter | array | nullable | byRef =>
        simp [slots, readMember, ofMembers, listOfJson_eq, hpure]
    unknown := by
      intro name hname state v
      simp only [readMember, ofMembers.eq_def kind state [(name, v)], ofMembers_nil]
      split
      all_goals simp [slots] at hname
      rfl

theorem assemble_of_slots_eq {kind : Kind} {state state' : Partial}
    (h : ∀ slot ∈ slots kind, (slot.get state').or slot.field.default?
      = (slot.get state).or slot.field.default?) :
  state'.assemble kind = state.assemble kind
  := by
  cases kind with
  | named | parameter | array | nullable | byRef =>
    simp only [slots, List.forall_mem_cons, Option.or_none, Option.or_some,
      Option.some.injEq] at h
    simp only [Partial.assemble, h]

theorem ofJson_object_eq {kind : Kind} {ms : List (String × Json)}
    (htag : tagOf "type" Kind.table ms = .ok kind) :
  ofJson (.object ms) = foldMembers (readMember kind) {} ms >>= fun fields => fields.assemble kind
  := by
  rw [ofJson, htag, ← ofMembers_eq]
  rfl

/-- The fields of a type of the given kind in the order in which an array has them. -/
def fieldsInOrder : Kind → Fields TypeExpr
  | .named => do
    let ns ← Fields.next (asOption asString)
    let name ← Fields.next asString
    let arguments ← Fields.nextOr [] (asList ofJson)
    let isValue ← Fields.nextOr false asBool
    return .named ns name arguments isValue
  | .parameter => return .parameter (← Fields.next asString)
  | .array => do
    let element ← Fields.next ofJson
    let rank ← Fields.nextOr 1 asUInt8
    return .array element rank
  | .nullable => return .nullable (← Fields.next ofJson)
  | .byRef => return .byRef (← Fields.next ofJson)

theorem ofFields_eq (kind : Kind) (items : List Json) :
  ofFields kind items = Fields.takeAll (fieldsInOrder kind) items
  := by
  cases kind with
  | named =>
    rcases items with _ | ⟨ns, _ | ⟨name, _ | ⟨arguments, _ | ⟨isValue, rest⟩⟩⟩⟩
    all_goals
      simp only [ofFields, fieldsInOrder, takeAll_next, takeAll_next_nil, takeAll_nextOr,
        takeAll_nextOr_nil, takeAll_pure, listOfJson_eq, List.isEmpty_nil, if_true]
  | parameter | nullable | byRef =>
    cases items with
    | nil => simp only [ofFields, fieldsInOrder, takeAll_next_nil]
    | cons v rest => simp only [ofFields, fieldsInOrder, takeAll_next, takeAll_pure]
  | array =>
    rcases items with _ | ⟨element, _ | ⟨rank, rest⟩⟩
    all_goals
      simp only [ofFields, fieldsInOrder, takeAll_next, takeAll_next_nil, takeAll_nextOr,
        takeAll_nextOr_nil, takeAll_pure, List.isEmpty_nil, if_true]

theorem ofJson_array_eq {kind : Kind} {tag : Json} (htag : asTag Kind.table tag = .ok kind)
    (rest : List Json) :
  ofJson (.array (tag :: rest)) = Fields.takeAll (fieldsInOrder kind) rest
  := by
  rw [ofJson, htag, ← ofFields_eq]
  rfl

theorem keeps_object {kind : Kind} {ms ms' : List (String × Json)}
    (htag : tagOf "type" Kind.table ms = .ok kind) (hagree : Agree (fields kind) ms ms') :
  Keeps (ofJson (.object ms)) (ofJson (.object ms'))
  := by
  have hempty : ∀ slot ∈ slots kind, slot.get {} = none := by
    cases kind with
    | named | parameter | array | nullable | byRef => simp [slots]
  have htag' := tagOf_of_agree hagree List.mem_cons_self kind htag
  have hslots : Agree ((slots kind).map Slot.field) ms ms' :=
    hagree.of_subset fun f hf => List.mem_cons_of_mem tag hf
  rw [ofJson_object_eq htag, ofJson_object_eq htag']
  apply (fillsSlots_readMember kind).keeps_of_agree hempty hslots
  intro state state' h
  apply assemble_of_slots_eq h

end TypeExpr

end AliasBinding
