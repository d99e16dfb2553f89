import AliasBinding.Manifest.Reader
import AliasBinding.Proofs.Manifest.AliasFields

/-!
# The records of a manifest

An object that is read as a manifest or as something in it is a record with a list of fields
(`Record`), and is kept when its members agree in these (`Record.keeps`).  In the array form of
a record, some items are or hold records in turn (`Position`).
-/

namespace AliasBinding

open Json

/-! ### Manifests -/

namespace Manifest

/-- Reads a member of a manifest from its value. -/
def Parts.readValue (parts : Parts) (name : String) (v : Json) : Read Parts :=
  match name with
  | "module" =>
    (fun x => { parts with module? := x }) <$>
      readOnce "module" parts.module? (asOption asString v)
  | "aliases" =>
    (fun x => { parts with aliases? := x }) <$>
      readOnce "aliases" parts.aliases? (asList Alias.ofJson v)
  | _ => .ok parts

/-- The manifest with the parts read. -/
def Parts.assemble (parts : Parts) : Manifest :=
  ⟨parts.module?.getD none, parts.aliases?.getD []⟩

/-- Reads a manifest from its value. -/
def ofJson : Json → Read Manifest
  | .object members => return (← foldMembers Parts.readValue {} members).assemble
  | .array items => Fields.takeAll (do
      let module? ← Fields.nextOr none (asOption asString)
      let aliases ← Fields.nextOr [] (asList Alias.ofJson)
      return ⟨module?, aliases⟩) items
  | _ => .error .wrongType

/-- The fields of a manifest, with the places where they are kept. -/
def slots : List (Slot Parts) := [
  ⟨⟨"module", asOption asString, some none⟩, Parts.module?,
    fun s x => { s with module? := x }⟩,
  ⟨⟨"aliases", asList Alias.ofJson, some []⟩, Parts.aliases?,
    fun s x => { s with aliases? := x }⟩]

/-- The fields of a manifest. -/
def fields : List Field := slots.map Slot.field

theorem fillsSlots_readValue :
  FillsSlots Parts.readValue slots
  where
    distinct := by decide
    get_put := by simp [slots]
    get_put_other := by simp [slots]
    known := by simp [slots, Parts.readValue]
    unknown := by
      intro name hname state v
      unfold Parts.readValue
      split
      all_goals simp [slots] at hname ⊢

theorem keeps_object {ms ms' : List (String × Json)} (hagree : Agree fields ms ms') :
  Keeps (ofJson (.object ms)) (ofJson (.object ms'))
  := by
  have hempty : ∀ slot ∈ slots, slot.get {} = none := by simp [slots]
  apply fillsSlots_readValue.keeps_of_agree hempty hagree
  intro state state' h
  simp only [slots, List.forall_mem_cons, Option.or_some, Option.some.injEq] at h
  simp only [Parts.assemble, h]

end Manifest

/-! ### Records and their fields -/

/-- The members of an object are a record with the given fields, when the object is read by
`read`. -/
inductive Record : {α : Type} → (Json → Read α) → List (String × Json) → List Field → Prop where
  | ofManifest (ms : List (String × Json)) : Record Manifest.ofJson ms Manifest.fields
  | ofAlias {ms : List (String × Json)} {kind : Member.Kind}
      (htag : tagOf "kind" Member.Kind.table ms = .ok kind) :
      Record Alias.ofJson ms (Alias.fields kind)
  | ofType {ms : List (String × Json)} {kind : TypeExpr.Kind}
      (htag : tagOf "type" TypeExpr.Kind.table ms = .ok kind) :
      Record TypeExpr.ofJson ms (TypeExpr.fields kind)
  | ofParameter (ms : List (String × Json)) : Record Parameter.ofJson ms Parameter.fields
  | ofConstant {ms : List (String × Json)} {kind : Constant.Kind}
      (hkind : Constant.kindField.find ms = .ok (some kind)) :
      Record Constant.ofJson ms (Constant.fields kind)
  | ofTypeParameter (ms : List (String × Json)) :
      Record TypeParameter.ofJson ms TypeParameter.fields
  | ofObsolete (ms : List (String × Json)) : Record Obsolete.ofJson ms Obsolete.fields

namespace Record

variable {α : Type} {read : Json → Read α} {ms ms' : List (String × Json)}
variable {fields : List Field}

/-- No two fields have the same name. -/
theorem distinct (h : Record read ms fields) :
  (fields.map (·.name)).Nodup
  := by
  cases h with
  | ofManifest => decide
  | @ofAlias _ kind =>
    cases kind with
    | method | property => decide
  | @ofType _ kind =>
    cases kind with
    | named | parameter | array | nullable | byRef => decide
  | ofParameter => decide
  | @ofConstant _ kind => simp [Constant.fields]
  | ofTypeParameter => decide
  | ofObsolete => decide

/-- A record is kept when its members agree in its fields with others. -/
theorem keeps (h : Record read ms fields) (hagree : Agree fields ms ms') :
  Keeps (read (.object ms)) (read (.object ms'))
  := by
  cases h with
  | ofManifest => apply Manifest.keeps_object hagree
  | ofAlias htag => apply Alias.keeps_object htag hagree
  | ofType htag => apply TypeExpr.keeps_object htag hagree
  | ofParameter => apply Parameter.keeps_object hagree
  | ofConstant hkind => apply Constant.keeps_object hkind hagree
  | ofTypeParameter => apply TypeParameter.keeps_object hagree
  | ofObsolete => apply Obsolete.keeps_object hagree

end Record

/-! ### Records in the items of an array -/

/-- Behind the items `before` of an array that is read by `read` comes an item that is read by
`item`, and may be or hold a record. -/
inductive Position : {α β : Type} → (Json → Read α) → List Json → (Json → Read β) → Prop where
  | aliases (module : Json) : Position Manifest.ofJson [module] (asList Alias.ofJson)
  | type (name : Json) : Position Parameter.ofJson [name] TypeExpr.ofJson
  | default (name type passing : Json) :
      Position Parameter.ofJson [name, type, passing] (asOption Constant.ofJson)
  | constraints (name : Json) :
      Position TypeParameter.ofJson [name] (asList Constraint.ofJson)
  | arguments {tag : Json} (htag : asTag TypeExpr.Kind.table tag = .ok .named)
      (ns name : Json) :
      Position TypeExpr.ofJson [tag, ns, name] (asList TypeExpr.ofJson)
  | element {tag : Json} (htag : asTag TypeExpr.Kind.table tag = .ok .array) :
      Position TypeExpr.ofJson [tag] TypeExpr.ofJson
  | inner {tag : Json} (htag : asTag TypeExpr.Kind.table tag = .ok .nullable
      ∨ asTag TypeExpr.Kind.table tag = .ok .byRef) :
      Position TypeExpr.ofJson [tag] TypeExpr.ofJson

/-- An array is kept when such an item is. -/
theorem Position.keeps {α β : Type} {read : Json → Read α} {before : List Json}
    {item : Json → Read β} (h : Position read before item) {v v' : Json}
    (hitem : Keeps (item v) (item v')) (after : List Json) :
  Keeps (read (.array (before ++ v :: after))) (read (.array (before ++ v' :: after)))
  := by
  cases h with
  | aliases module =>
    simp only [Manifest.ofJson, List.cons_append, List.nil_append, takeAll_nextOr]
    apply keeps_bind
    intro _
    apply hitem.bind_left
  | type name =>
    simp only [Parameter.ofJson, List.cons_append, List.nil_append, takeAll_next]
    apply keeps_bind
    intro _
    apply hitem.bind_left
  | default name type passing =>
    simp only [Parameter.ofJson, List.cons_append, List.nil_append, takeAll_next,
      takeAll_nextOr]
    apply keeps_bind
    intro _
    apply keeps_bind
    intro _
    apply keeps_bind
    intro _
    apply hitem.bind_left
  | constraints name =>
    simp only [TypeParameter.ofJson, List.cons_append, List.nil_append, takeAll_next,
      takeAll_nextOr]
    apply keeps_bind
    intro _
    apply hitem.bind_left
  | arguments htag ns name =>
    simp only [List.cons_append, List.nil_append, TypeExpr.ofJson_array_eq htag,
      TypeExpr.fieldsInOrder, takeAll_next, takeAll_nextOr]
    apply keeps_bind
    intro _
    apply keeps_bind
    intro _
    apply hitem.bind_left
  | element htag =>
    simp only [List.cons_append, List.nil_append, TypeExpr.ofJson_array_eq htag,
      TypeExpr.fieldsInOrder, takeAll_next]
    apply hitem.bind_left
  | inner htag =>
    obtain htag | htag := htag
    all_goals
      simp only [List.cons_append, List.nil_append, TypeExpr.ofJson_array_eq htag,
        TypeExpr.fieldsInOrder, takeAll_next]
      apply hitem.bind_left

end AliasBinding
