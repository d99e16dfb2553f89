import AliasBinding.Proofs.Declaration.SingleLines
import AliasBinding.Proofs.Manifest.Presentation
import AliasBinding.Proofs.Nesting

/-!
# Nesting of types in a manifest

A type takes a list of its own for every type that is nested in it, be it an object or an array,
so it is nested no deeper than the value that it is read of (`TypeExpr.givesAtDepth_ofJson`).  Only
so many lists may be open in a text, and three of them are open around the members of an alias,
which leaves a bound for the types of a manifest (`nesting_of_ofText`).
-/

namespace AliasBinding

open Json

/-! ### Depths of values -/

namespace Json

/-- The value of a node is no deeper than there is room for. -/
theorem Node.depth_le_of_toJson {room : Nat} {n : Node} {v : Json} (h : n.toJson room = .ok v) :
  v.depth ≤ room
  := by
  induction room generalizing n v with
  | zero =>
    cases Node.toJson_eq_ok_iff.mp h with
    | null | bool | integer | float | string => apply Nat.le_refl
  | succ room ih =>
    cases Node.toJson_eq_ok_iff.mp h with
    | null | bool | integer | float | string => apply Nat.zero_le
    | array hitems =>
      rw [depth, Nat.succ_le_succ_iff, depthOfItems_le_iff]
      apply forall_mem_of_forall₂ (P := fun v => v.depth ≤ room) hitems
      intro _ _ item hitem
      apply ih hitem
    | object hmembers =>
      rw [depth, Nat.succ_le_succ_iff, depthOfMembers_le_iff]
      apply forall_mem_of_forall₂ (P := fun m => m.2.depth ≤ room) hmembers
      intro _ _ m hm
      apply ih hm.2

theorem depth_item_le {n : Nat} {items : List Json} (h : (Json.array items).depth ≤ n + 1) :
  ∀ v ∈ items, v.depth ≤ n
  := by
  rw [depth, Nat.succ_le_succ_iff, depthOfItems_le_iff] at h
  apply h

theorem depth_member_le {n : Nat} {members : List (String × Json)}
    (h : (Json.object members).depth ≤ n + 1) :
  ∀ m ∈ members, m.2.depth ≤ n
  := by
  rw [depth, Nat.succ_le_succ_iff, depthOfMembers_le_iff] at h
  apply h

theorem depth_content_le {α : Type} {table : List (String × α)} {n : Nat} {v content : Json}
    {a : α} (h : asVariant table v = .ok (a, some content)) (hv : v.depth ≤ n + 1) :
  content.depth ≤ n
  := by
  unfold asVariant at h
  split at h
  · obtain ⟨_, -, h⟩ := bind_eq_ok_iff.mp h
    cases h
  · obtain ⟨_, -, h⟩ := bind_eq_ok_iff.mp h
    cases h
    apply depth_member_le hv _ List.mem_cons_self
  · cases h
  · cases h

/-! ### Readers of values of a depth -/

variable {α β : Type} {n : Nat} {P : α → Prop} {Q : β → Prop}

/-- Of a value that is no deeper than `n`, nothing is read but what is in `P`. -/
def GivesAtDepth (n : Nat) (P : α → Prop) (read : Json → Read α) : Prop :=
  ∀ v, v.depth ≤ n → GivesWithin P (read v)

theorem GivesAtDepth.of_le {m : Nat} {read : Json → Read α} (h : GivesAtDepth n P read)
    (hm : m ≤ n) :
  GivesAtDepth m P read
  := fun v hv => h v (hv.trans hm)

theorem givesAtDepth_true (n : Nat) (read : Json → Read α) :
  GivesAtDepth n (fun _ => True) read
  := fun _ _ => ⟨fun _ _ => trivial⟩

theorem givesAtDepth_asList {read : Json → Read α} (h : GivesAtDepth n P read) :
  GivesAtDepth (n + 1) (fun xs => ∀ x ∈ xs, P x) (asList read)
  := by
  intro v hv
  cases v with
  | array items =>
    apply givesWithin_mapM
    intro item hitem
    apply h item (depth_item_le hv item hitem)
  | null | bool | integer | float | string | object => apply givesWithin_error

/-- The next field of an array is read of an item. -/
theorem givesWithin_takeAll_next {read : Json → Read α} {k : α → Fields β} {items : List Json}
    (hitems : ∀ v ∈ items, v.depth ≤ n) (hread : GivesAtDepth n P read)
    (hk : ∀ a rest, P a → (∀ v ∈ rest, v.depth ≤ n) → GivesWithin Q (Fields.takeAll (k a) rest)) :
  GivesWithin Q (Fields.takeAll (Fields.next read >>= k) items)
  := by
  cases items with
  | nil =>
    rw [takeAll_next_nil]
    apply givesWithin_error
  | cons v rest =>
    rw [List.forall_mem_cons] at hitems
    rw [takeAll_next]
    apply givesWithin_bind (hread v hitems.1)
    intro a ha
    apply hk a rest ha hitems.2

/-- The next field of an array is read of an item, if one is left. -/
theorem givesWithin_takeAll_nextOr {default : α} {read : Json → Read α} {k : α → Fields β}
    {items : List Json} (hitems : ∀ v ∈ items, v.depth ≤ n) (hread : GivesAtDepth n P read)
    (hdefault : P default)
    (hk : ∀ a rest, P a → (∀ v ∈ rest, v.depth ≤ n) → GivesWithin Q (Fields.takeAll (k a) rest)) :
  GivesWithin Q (Fields.takeAll (Fields.nextOr default read >>= k) items)
  := by
  cases items with
  | nil =>
    rw [takeAll_nextOr_nil]
    apply hk default [] hdefault nofun
  | cons v rest =>
    rw [List.forall_mem_cons] at hitems
    rw [takeAll_nextOr]
    apply givesWithin_bind (hread v hitems.1)
    intro a ha
    apply hk a rest ha hitems.2

theorem givesWithin_takeAll_pure {a : α} (ha : P a) (items : List Json) :
  GivesWithin P (Fields.takeAll (pure a) items)
  := by
  cases items with
  | nil => apply givesWithin_ok ha
  | cons v rest => apply givesWithin_error

/-- What a slot holds was read of a member. -/
theorem FillsSlots.holds_of_foldMembers {σ : Type} {step : σ → String → Json → Read σ}
    {slots : List (Slot σ)} (h : FillsSlots step slots) {empty state : σ}
    {members : List (String × Json)} (hfold : foldMembers step empty members = .ok state)
    (hmembers : ∀ m ∈ members, m.2.depth ≤ n) (slot : Slot σ) (hslot : slot ∈ slots)
    (hempty : slot.get empty = none) {P : slot.field.Content → Prop}
    (hread : GivesAtDepth n P slot.field.read) :
  ∀ x ∈ slot.get state, P x
  := by
  intro x hx
  obtain ⟨m, hm, -, hxm⟩ := h.exists_read_of_get hslot hempty hfold hx
  apply (hread m.2 (hmembers m hm)).of_eq_ok x hxm

theorem required_eq_ok_iff {name : String} {x : Option α} {a : α} :
  required name x = .ok a ↔ x = some a
  := by
  cases x with
  | none => simp [required]
  | some b => simp [required]

theorem forall_mem_getD {x : Option (List α)} (h : ∀ as ∈ x, ∀ a ∈ as, P a) :
  ∀ a ∈ x.getD [], P a
  := by
  cases x with
  | none => nofun
  | some as => apply h as rfl

end Json

/-! ### Types -/

namespace TypeExpr

variable {n : Nat}

theorem givesAtDepth_list (ih : GivesAtDepth n (NestsWithin n) ofJson) :
  GivesAtDepth n (fun ts => ∀ t ∈ ts, NestsWithin n t) (asList ofJson)
  := (givesAtDepth_asList ih).of_le (Nat.le_succ n)

theorem givesWithin_object (ih : GivesAtDepth n (NestsWithin n) ofJson)
    {members : List (String × Json)} (hmembers : ∀ m ∈ members, m.2.depth ≤ n) :
  GivesWithin (NestsWithin (n + 1)) (ofJson (.object members))
  := by
  constructor
  intro t h
  rw [ofJson] at h
  obtain ⟨kind, -, h⟩ := bind_eq_ok_iff.mp h
  obtain ⟨fields, hfields, h⟩ := bind_eq_ok_iff.mp h
  rw [ofMembers_eq] at hfields
  have hslots := (fillsSlots_readMember kind).holds_of_foldMembers hfields hmembers
  cases kind with
  | named =>
    obtain ⟨name, -, h⟩ := bind_eq_ok_iff.mp h
    cases h
    apply forall_mem_getD
    apply hslots (slots .named)[2] (List.getElem_mem _) rfl (givesAtDepth_list ih)
  | parameter =>
    obtain ⟨name, -, h⟩ := bind_eq_ok_iff.mp h
    cases h
    exact List.forall_mem_nil _
  | array =>
    obtain ⟨element, helement, h⟩ := bind_eq_ok_iff.mp h
    cases h
    intro s hs
    cases List.mem_singleton.mp hs
    apply hslots (slots .array)[0] (List.getElem_mem _) rfl ih
    apply required_eq_ok_iff.mp helement
  | nullable | byRef =>
    obtain ⟨inner, hinner, h⟩ := bind_eq_ok_iff.mp h
    cases h
    intro s hs
    cases List.mem_singleton.mp hs
    apply hslots (slots .nullable)[0] (List.getElem_mem _) rfl ih
    apply required_eq_ok_iff.mp hinner

theorem givesWithin_fieldsInOrder (ih : GivesAtDepth n (NestsWithin n) ofJson) (kind : Kind)
    {items : List Json} (hitems : ∀ v ∈ items, v.depth ≤ n) :
  GivesWithin (NestsWithin (n + 1)) (Fields.takeAll (fieldsInOrder kind) items)
  := by
  have hpart (t : TypeExpr) (ht : NestsWithin n t) : ∀ s ∈ [t], NestsWithin n s :=
    List.forall_mem_singleton.mpr ht
  cases kind with
  | named =>
    apply givesWithin_takeAll_next hitems (givesAtDepth_true n _)
    intro ns rest _ hrest
    apply givesWithin_takeAll_next hrest (givesAtDepth_true n _)
    intro name rest _ hrest
    apply givesWithin_takeAll_nextOr hrest (givesAtDepth_list ih) (List.forall_mem_nil _)
    intro arguments rest harguments hrest
    apply givesWithin_takeAll_nextOr hrest (givesAtDepth_true n _) trivial
    intro isValue rest _ _
    exact givesWithin_takeAll_pure harguments rest
  | parameter =>
    apply givesWithin_takeAll_next hitems (givesAtDepth_true n _)
    intro name rest _ _
    exact givesWithin_takeAll_pure (List.forall_mem_nil _) rest
  | array =>
    apply givesWithin_takeAll_next hitems ih
    intro element rest helement hrest
    apply givesWithin_takeAll_nextOr hrest (givesAtDepth_true n _) trivial
    intro rank rest _ _
    exact givesWithin_takeAll_pure (hpart element helement) rest
  | nullable | byRef =>
    apply givesWithin_takeAll_next hitems ih
    intro inner rest hinner _
    exact givesWithin_takeAll_pure (hpart inner hinner) rest

/-- A type is nested no deeper than the value that it is read of. -/
theorem givesAtDepth_ofJson (n : Nat) :
  GivesAtDepth n (NestsWithin n) ofJson
  := by
  induction n with
  | zero =>
    intro v hv
    cases v with
    | null | bool | integer | float | string =>
      rw [ofJson]
      apply givesWithin_error
    | array items | object members => cases hv
  | succ n ih =>
    intro v hv
    cases v with
    | null | bool | integer | float | string =>
      rw [ofJson]
      apply givesWithin_error
    | array items =>
      cases items with
      | nil =>
        rw [ofJson]
        apply givesWithin_error
      | cons tag rest =>
        have hitems := depth_item_le hv
        rw [List.forall_mem_cons] at hitems
        rw [ofJson]
        apply givesWithin_bind_last
        intro kind
        rw [ofFields_eq]
        apply givesWithin_fieldsInOrder ih kind hitems.2
    | object members => apply givesWithin_object ih (depth_member_le hv)

end TypeExpr

/-! ### Parameters and type parameters -/

variable {n : Nat}

theorem Parameter.givesAtDepth_ofJson (n : Nat) :
  GivesAtDepth (n + 1) (fun p => p.type.NestsWithin n) ofJson
  := by
  intro v hv
  cases v with
  | null | bool | integer | float | string => apply givesWithin_error
  | array items =>
    apply givesWithin_takeAll_next (depth_item_le hv) (givesAtDepth_true n _)
    intro name rest _ hrest
    apply givesWithin_takeAll_next hrest (TypeExpr.givesAtDepth_ofJson n)
    intro type rest htype hrest
    apply givesWithin_takeAll_nextOr hrest (givesAtDepth_true n _) trivial
    intro passing rest _ hrest
    apply givesWithin_takeAll_nextOr hrest (givesAtDepth_true n _) trivial
    intro default? rest _ _
    exact givesWithin_takeAll_pure (P := fun p : Parameter => p.type.NestsWithin n) htype rest
  | object members =>
    constructor
    intro p h
    obtain ⟨fields, hfields, h⟩ := bind_eq_ok_iff.mp h
    obtain ⟨name, -, h⟩ := bind_eq_ok_iff.mp h
    obtain ⟨type, htype, h⟩ := bind_eq_ok_iff.mp h
    cases h
    apply fillsSlots_read.holds_of_foldMembers hfields (depth_member_le hv) slots[1]
      (List.getElem_mem _) rfl (TypeExpr.givesAtDepth_ofJson n)
    apply required_eq_ok_iff.mp htype

theorem Constraint.givesAtDepth_ofJson (n : Nat) :
  GivesAtDepth (n + 1) (fun c => ∀ t ∈ c.supertype?, t.NestsWithin n) ofJson
  := by
  intro v hv
  constructor
  intro c h t ht
  obtain ⟨⟨kind, content⟩, hvariant, h⟩ := bind_eq_ok_iff.mp h
  cases kind with
  | reference | value | constructible =>
    obtain ⟨_, -, h⟩ := bind_eq_ok_iff.mp h
    cases h
    cases ht
  | subtype =>
    cases content with
    | none => cases h
    | some type =>
      obtain ⟨t', ht', h⟩ := bind_eq_ok_iff.mp h
      cases h
      cases ht
      apply (TypeExpr.givesAtDepth_ofJson n type (depth_content_le hvariant hv)).of_eq_ok t ht'

theorem TypeParameter.givesAtDepth_ofJson (n : Nat) :
  GivesAtDepth (n + 3) (fun p => ∀ t ∈ p.types, t.NestsWithin n) ofJson
  := by
  have hconstraints := givesAtDepth_asList (Constraint.givesAtDepth_ofJson n)
  have htypes (name : String) {cs : List Constraint}
      (hcs : ∀ c ∈ cs, ∀ t ∈ c.supertype?, t.NestsWithin n) :
      ∀ t ∈ types ⟨name, cs⟩, t.NestsWithin n := by
    intro t ht
    obtain ⟨c, hc, ht⟩ := List.mem_filterMap.mp ht
    apply hcs c hc t ht
  intro v hv
  cases v with
  | null | bool | integer | float | string => apply givesWithin_error
  | array items =>
    apply givesWithin_takeAll_next (depth_item_le hv) (givesAtDepth_true _ _)
    intro name rest _ hrest
    apply givesWithin_takeAll_nextOr hrest hconstraints (List.forall_mem_nil _)
    intro constraints rest hcs _
    exact givesWithin_takeAll_pure (htypes name hcs) rest
  | object members =>
    constructor
    intro p h
    obtain ⟨fields, hfields, h⟩ := bind_eq_ok_iff.mp h
    obtain ⟨name, -, h⟩ := bind_eq_ok_iff.mp h
    cases h
    apply htypes
    apply forall_mem_getD
    apply fillsSlots_read.holds_of_foldMembers hfields (depth_member_le hv) slots[1]
      (List.getElem_mem _) rfl hconstraints

/-! ### Members and aliases -/

theorem Member.givesWithin_ofMembers {members : List (String × Json)}
    (hmembers : ∀ m ∈ members, m.2.depth ≤ n) :
  GivesWithin (fun m => ∀ t ∈ m.types, t.NestsWithin n) (ofMembers members)
  := by
  constructor
  intro m h
  obtain ⟨kind, -, h⟩ := bind_eq_ok_iff.mp h
  obtain ⟨fields, hfields, h⟩ := bind_eq_ok_iff.mp h
  have hslots := (fillsSlots_read kind).holds_of_foldMembers hfields hmembers
  have hreadType := TypeExpr.givesAtDepth_ofJson n
  cases kind with
  | method =>
    have howners := hslots (slots .method)[1] (List.getElem_mem _) rfl hreadType
    have hresults := hslots (slots .method)[2] (List.getElem_mem _) rfl hreadType
    have hparameters := hslots (slots .method)[3] (List.getElem_mem _) rfl
      ((givesAtDepth_asList (Parameter.givesAtDepth_ofJson n)).of_le (by omega))
    have htypeParameters := hslots (slots .method)[4] (List.getElem_mem _) rfl
      ((givesAtDepth_asList (TypeParameter.givesAtDepth_ofJson n)).of_le (by omega))
    obtain ⟨name, -, h⟩ := bind_eq_ok_iff.mp h
    obtain ⟨owner, howner, h⟩ := bind_eq_ok_iff.mp h
    obtain ⟨result, hresult, h⟩ := bind_eq_ok_iff.mp h
    cases h
    simp only [types, List.cons_append, List.forall_mem_cons, List.forall_mem_append,
      List.forall_mem_map, List.forall_mem_flatMap]
    exact ⟨howners owner (required_eq_ok_iff.mp howner),
      hresults result (required_eq_ok_iff.mp hresult),
      forall_mem_getD hparameters, forall_mem_getD htypeParameters⟩
  | property =>
    have howners := hslots (slots .property)[1] (List.getElem_mem _) rfl hreadType
    have htypes := hslots (slots .property)[2] (List.getElem_mem _) rfl hreadType
    obtain ⟨name, -, h⟩ := bind_eq_ok_iff.mp h
    obtain ⟨owner, howner, h⟩ := bind_eq_ok_iff.mp h
    obtain ⟨type, htype, h⟩ := bind_eq_ok_iff.mp h
    cases h
    simp only [types, List.forall_mem_cons]
    exact ⟨howners owner (required_eq_ok_iff.mp howner),
      htypes type (required_eq_ok_iff.mp htype), List.forall_mem_nil _⟩

/-- In no type of the alias more than `levels` types are nested in each other. -/
abbrev Alias.NestsWithin (levels : Nat) (a : Alias) : Prop :=
  ∀ t ∈ a.member.types, t.NestsWithin levels

theorem Alias.givesAtDepth_ofJson (n : Nat) :
  GivesAtDepth (n + 1) (Alias.NestsWithin n) ofJson
  := by
  intro v hv
  constructor
  intro a h
  cases v with
  | object members =>
    obtain ⟨_, member, -, hmember, rfl⟩ := ofJson_object_eq_ok_iff.mp h
    apply (Member.givesWithin_ofMembers fun m hm => ?_).of_eq_ok member hmember
    apply depth_member_le hv m (List.mem_of_mem_filter hm)
  | null | bool | integer | float | string | array => cases h

namespace Manifest

/-- In no type of an alias of the manifest more types are nested than lists may be open in an
alias. -/
abbrev NestsWithin (m : Manifest) : Prop := ∀ a ∈ m.aliases, a.NestsWithin aliasDepth

theorem givesAtDepth_aliases :
  GivesAtDepth (maxDepth - 1) (fun as => ∀ a ∈ as, a.NestsWithin aliasDepth)
    (asList Alias.ofJson)
  := givesAtDepth_asList (Alias.givesAtDepth_ofJson aliasDepth)

/-- Of the members of a manifest, only the value of its aliases needs to have a depth. -/
theorem givesWithin_object {members : List (String × Json)}
    (hmembers : ∀ m ∈ members, m.1 = "aliases" → m.2.depth ≤ maxDepth - 1) :
  GivesWithin NestsWithin (ofJson (.object members))
  := by
  constructor
  intro m h
  obtain ⟨parts, hparts, h⟩ := bind_eq_ok_iff.mp h
  cases h
  have hslot : slots[1] ∈ slots := List.getElem_mem _
  apply forall_mem_getD
  intro aliases haliases
  obtain ⟨m, hm, hname, hread⟩ := fillsSlots_readValue.exists_read_of_get hslot rfl hparts haliases
  apply (givesAtDepth_aliases m.2 (hmembers m hm hname)).of_eq_ok aliases hread

theorem givesAtDepth_ofJson :
  GivesAtDepth maxDepth NestsWithin ofJson
  := by
  intro v hv
  cases v with
  | object members =>
    apply givesWithin_object
    intro m hm _
    apply depth_member_le hv m hm
  | array items =>
    apply givesWithin_takeAll_nextOr (depth_item_le hv) (givesAtDepth_true _ _) trivial
    intro module? rest _ hrest
    apply givesWithin_takeAll_nextOr hrest givesAtDepth_aliases (List.forall_mem_nil _)
    intro aliases rest haliases _
    exact givesWithin_takeAll_pure (P := NestsWithin) haliases rest
  | null | bool | integer | float | string => apply givesWithin_error

theorem givesWithin_readRoot (root : Node) :
  GivesWithin NestsWithin (readRoot root)
  := by
  constructor
  intro m h
  obtain ⟨v, hv⟩ := exists_rootPresents h
  have hm := hv.readRoot_eq_ok_iff.mp h
  cases hv with
  | value hv => apply (givesAtDepth_ofJson v (Node.depth_le_of_toJson hv)).of_eq_ok m hm
  | object hmembers =>
    apply (givesWithin_object ?_).of_eq_ok m hm
    apply forall_mem_of_forall₂ (P := fun nv => nv.1 = "aliases" → nv.2.depth ≤ maxDepth - 1)
      hmembers
    intro _ _ nv hnv hname
    apply Node.depth_le_of_toJson (hnv.value ⟨slots[1].field, ?_, hname.symm⟩)
    simp [fields, slots]

/-- In a manifest that is read of a text, no chain of types that are nested in each other has
more than 124 types, whatever type of an alias it starts in, and no walk of such a type needs more
than 124 calls open at once. -/
theorem nesting_of_ofText {s : String} {m : Manifest} (h : ofText s = .ok m) :
  ∀ a ∈ m.aliases, ∀ t ∈ a.member.types,
    (∀ chain : List TypeExpr, TypeExpr.IsChain chain →
      (∀ s ∈ chain.head?, TypeExpr.Occurs s t) → chain.length ≤ 124)
    ∧ t.WalkedWithin 124
  := by
  intro a ha t ht
  obtain ⟨hroot, -⟩ := ofText_eq_ok_iff.mp h
  have hnests : t.NestsWithin 124 :=
    (givesWithin_readRoot (Document.ofText s).root).of_eq_ok m hroot a ha t ht
  constructor
  · intro chain hchain hhead
    apply hnests.length_le_of_isChain hchain hhead
  · apply hnests.walkedWithin

/-- A type with as many marks for null around a type parameter. -/
def nullables (n : Nat) : TypeExpr := TypeExpr.nullable^[n] (.parameter "T")

theorem nullables_succ (n : Nat) :
  nullables (n + 1) = .nullable (nullables n)
  := Function.iterate_succ_apply' _ _ _

theorem depth_nullables (n : Nat) :
  (nullables n).toJson.depth = n + 1
  := by
  induction n with
  | zero => rfl
  | succ n ih => simp [nullables_succ, TypeExpr.toJson, depth, depthOfMembers, ih]

theorem exists_chain_nullables (n : Nat) :
  ∃ chain, TypeExpr.IsChain (nullables n :: chain) ∧ chain.length = n
  := by
  induction n with
  | zero => exact ⟨[], List.isChain_singleton _, rfl⟩
  | succ n ih =>
    obtain ⟨chain, hchain, hlength⟩ := ih
    use nullables n :: chain
    constructor
    · rw [nullables_succ]
      apply List.isChain_cons_cons.mpr ⟨List.mem_singleton_self _, hchain⟩
    · rw [List.length_cons, hlength]

/-- A property whose type takes all the lists that may be open in an alias. -/
def deepest : Manifest :=
  ⟨none, [.ofProperty "Depths" (.parameter "T") (nullables 123)]⟩

theorem nesting_of_ofText_deepest :
  ofText (deepest.toJson.write (fun _ => .ofInt 0) tabbed) = .ok deepest
    ∧ (∀ a ∈ deepest.aliases, ∀ t ∈ a.member.types,
      (∀ chain : List TypeExpr, TypeExpr.IsChain chain →
        (∀ s ∈ chain.head?, TypeExpr.Occurs s t) → chain.length ≤ 124)
      ∧ t.WalkedWithin 124)
    ∧ ∃ chain, TypeExpr.IsChain (nullables 123 :: chain) ∧ (nullables 123 :: chain).length = 124
  := by
  have hreal : deepest.HasNoRealDefault := by
    simp [deepest, HasNoRealDefault, Alias.ofProperty, Member.HasNoRealDefault]
  have hdepth : deepest.toJson.depth ≤ maxDepth := by
    simp [deepest, toJson, Alias.toJson, Alias.ofProperty, Member.toMembers, depth,
      depthOfMembers, depthOfItems, depth_nullables, maxDepth, TypeExpr.toJson,
      Member.toMembers.obsoleteJson, TypeExpr.optionalText, NameSet.empty]
  have hread : ofText (deepest.toJson.write (fun _ => .ofInt 0) tabbed) = .ok deepest := by
    rw [ofText_eq_ok_iff, ofText_write (exact_toJson hreal)]
    exact ⟨readRoot_node hreal hdepth, rfl⟩
  obtain ⟨chain, hchain, hlength⟩ := exists_chain_nullables 123
  refine ⟨hread, nesting_of_ofText hread, chain, hchain, ?_⟩
  rw [List.length_cons, hlength]

end Manifest

end AliasBinding
