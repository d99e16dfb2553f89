import AliasBinding.TypeExpr

/-!
# Types that occur in a type

Something holds of all types that occur in a type when it holds of the type itself and of all
types that occur in its parts.  In reading order, a type stands before the types in its parts,
and these stand from left to right; what is looked for in a type is mostly looked for in this
order (`firstParameter?_eq_findSome?`).
-/

namespace AliasBinding.TypeExpr

/-- The first type is the second one or occurs in it, at any depth. -/
inductive Occurs : TypeExpr → TypeExpr → Prop where
  | self (t : TypeExpr) : Occurs t t
  | argument {s t : TypeExpr} {ns : Option String} {name : String}
      {arguments : List TypeExpr} {isValue : Bool} (ht : t ∈ arguments) (hs : Occurs s t) :
      Occurs s (.named ns name arguments isValue)
  | element {s t : TypeExpr} {rank : UInt8} (hs : Occurs s t) : Occurs s (.array t rank)
  | nullable {s t : TypeExpr} (hs : Occurs s t) : Occurs s (.nullable t)
  | byRef {s t : TypeExpr} (hs : Occurs s t) : Occurs s (.byRef t)

variable {P : TypeExpr → Prop}

theorem forall_occurs_named {ns : Option String} {name : String} {arguments : List TypeExpr}
    {isValue : Bool} :
  (∀ s, Occurs s (.named ns name arguments isValue) → P s)
    ↔ P (.named ns name arguments isValue) ∧ ∀ t ∈ arguments, ∀ s, Occurs s t → P s
  := by
  constructor
  · intro h
    constructor
    · apply h _ (.self _)
    · intro t ht s hs
      apply h s (.argument ht hs)
  · rintro ⟨hself, harguments⟩ s hs
    cases hs with
    | self => apply hself
    | argument ht hs => apply harguments _ ht s hs

theorem forall_occurs_parameter {name : String} :
  (∀ s, Occurs s (.parameter name) → P s) ↔ P (.parameter name)
  := by
  constructor
  · intro h
    apply h _ (.self _)
  · intro h s hs
    cases hs
    apply h

theorem forall_occurs_array {element : TypeExpr} {rank : UInt8} :
  (∀ s, Occurs s (.array element rank) → P s)
    ↔ P (.array element rank) ∧ ∀ s, Occurs s element → P s
  := by
  constructor
  · intro h
    constructor
    · apply h _ (.self _)
    · intro s hs
      apply h s (.element hs)
  · rintro ⟨hself, helement⟩ s hs
    cases hs with
    | self => apply hself
    | element hs => apply helement s hs

theorem forall_occurs_nullable {inner : TypeExpr} :
  (∀ s, Occurs s (.nullable inner) → P s)
    ↔ P (.nullable inner) ∧ ∀ s, Occurs s inner → P s
  := by
  constructor
  · intro h
    constructor
    · apply h _ (.self _)
    · intro s hs
      apply h s (.nullable hs)
  · rintro ⟨hself, hinner⟩ s hs
    cases hs with
    | self => apply hself
    | nullable hs => apply hinner s hs

theorem forall_occurs_byRef {inner : TypeExpr} :
  (∀ s, Occurs s (.byRef inner) → P s) ↔ P (.byRef inner) ∧ ∀ s, Occurs s inner → P s
  := by
  constructor
  · intro h
    constructor
    · apply h _ (.self _)
    · intro s hs
      apply h s (.byRef hs)
  · rintro ⟨hself, hinner⟩ s hs
    cases hs with
    | self => apply hself
    | byRef hs => apply hinner s hs

theorem occurs_of_occurs_underlying {s : TypeExpr} :
  ∀ t : TypeExpr, Occurs s t.underlying → Occurs s t
  | .named _ _ _ _, h => h
  | .parameter _, h => h
  | .array _ _, h => h
  | .nullable inner, h => .nullable (occurs_of_occurs_underlying inner h)
  | .byRef inner, h => .byRef (occurs_of_occurs_underlying inner h)

/-- What holds of all types that occur in a type holds of those in its underlying type. -/
theorem forall_occurs_underlying {t : TypeExpr} (h : ∀ s, Occurs s t → P s) :
  ∀ s, Occurs s t.underlying → P s
  := by
  intro s hs
  apply h s (occurs_of_occurs_underlying t hs)

theorem isVoid_iff {t : TypeExpr} :
  t.isVoid = true ↔ ∃ isValue, t = .named (some "System") "Void" [] isValue
  := by
  unfold isVoid
  split
  · simp [systemNamespace]
  · rename_i h
    constructor
    · nofun
    · rintro ⟨isValue, rfl⟩
      exact absurd rfl (h _ _ _)

/-- The types with a keyword are those of the table, without type arguments. -/
theorem mem_keywords_of_keyword? {ns : Option String} {name : String}
    {arguments : List TypeExpr} {isValue : Bool} {keyword : String}
    (h : keyword? (.named ns name arguments isValue) = some keyword) :
  ns = some systemNamespace ∧ arguments = [] ∧ (name, keyword) ∈ keywords
  := by
  obtain ⟨systemName, hname, hlookup⟩ := Option.bind_eq_some_iff.mp h
  obtain ⟨before, after, hsplit, -⟩ := List.lookup_eq_some_iff.mp hlookup
  cases arguments with
  | nil =>
    rw [systemName?] at hname
    split at hname
    case isTrue hns =>
      cases hname
      refine ⟨eq_of_beq hns, rfl, ?_⟩
      rw [hsplit]
      simp
    case isFalse => cases hname
  | cons => cases hname

/-! ### Reading order -/

mutual

/-- The types that occur in a type in reading order: the type itself, and then those in its
parts. -/
def preorder : TypeExpr → List TypeExpr
  | .named ns name arguments isValue => .named ns name arguments isValue :: preorderIn arguments
  | .parameter name => [.parameter name]
  | .array element rank => .array element rank :: element.preorder
  | .nullable inner => .nullable inner :: inner.preorder
  | .byRef inner => .byRef inner :: inner.preorder

/-- The types that occur in a list of types, in reading order. -/
def preorderIn : List TypeExpr → List TypeExpr
  | [] => []
  | t :: rest => t.preorder ++ preorderIn rest

end

theorem mem_preorderIn_iff {s : TypeExpr} {ts : List TypeExpr} :
  s ∈ preorderIn ts ↔ ∃ t ∈ ts, s ∈ t.preorder
  := by
  induction ts with
  | nil => simp [preorderIn]
  | cons t ts ih => simp [preorderIn, ih]

theorem mem_preorder_of_occurs {s t : TypeExpr} (h : Occurs s t) :
  s ∈ t.preorder
  := by
  induction h with
  | self =>
    cases s with
    | named | parameter | array | nullable | byRef => simp [preorder]
  | argument ht _ ih =>
    rw [preorder]
    exact .tail _ (mem_preorderIn_iff.mpr ⟨_, ht, ih⟩)
  | element _ ih | nullable _ ih | byRef _ ih =>
    rw [preorder]
    exact .tail _ ih

mutual

theorem occurs_of_mem_preorder {s : TypeExpr} :
  ∀ t : TypeExpr, s ∈ t.preorder → Occurs s t
  | .named ns name arguments isValue, h => by
    rw [preorder, List.mem_cons] at h
    obtain rfl | h := h
    · exact .self _
    · obtain ⟨t, ht, hs⟩ := exists_occurs_of_mem_preorderIn arguments h
      exact .argument ht hs
  | .parameter name, h => by
    rw [preorder, List.mem_singleton] at h
    subst h
    exact .self _
  | .array element rank, h => by
    rw [preorder, List.mem_cons] at h
    obtain rfl | h := h
    · exact .self _
    · exact .element (occurs_of_mem_preorder element h)
  | .nullable inner, h => by
    rw [preorder, List.mem_cons] at h
    obtain rfl | h := h
    · exact .self _
    · exact .nullable (occurs_of_mem_preorder inner h)
  | .byRef inner, h => by
    rw [preorder, List.mem_cons] at h
    obtain rfl | h := h
    · exact .self _
    · exact .byRef (occurs_of_mem_preorder inner h)

theorem exists_occurs_of_mem_preorderIn {s : TypeExpr} :
  ∀ ts : List TypeExpr, s ∈ preorderIn ts → ∃ t ∈ ts, Occurs s t
  | [], h => by
    rw [preorderIn] at h
    cases h
  | t :: ts, h => by
    rw [preorderIn, List.mem_append] at h
    obtain h | h := h
    · exact ⟨t, List.mem_cons_self, occurs_of_mem_preorder t h⟩
    · obtain ⟨t', ht', hs⟩ := exists_occurs_of_mem_preorderIn ts h
      exact ⟨t', List.mem_cons_of_mem _ ht', hs⟩

end

theorem mem_preorder_iff {s t : TypeExpr} :
  s ∈ t.preorder ↔ Occurs s t
  := ⟨occurs_of_mem_preorder t, mem_preorder_of_occurs⟩

/-- What can be decided of a type can be decided of all types that occur in one. -/
instance {P : TypeExpr → Prop} [DecidablePred P] (t : TypeExpr) :
    Decidable (∀ s, Occurs s t → P s) :=
  decidable_of_iff (∀ s ∈ t.preorder, P s) <| by simp only [mem_preorder_iff]

/-- The name of a type parameter. -/
def parameterName? : TypeExpr → Option String
  | .parameter name => some name
  | .named _ _ _ _ | .array _ _ | .nullable _ | .byRef _ => none

mutual

/-- The first type parameter is the first one in reading order. -/
theorem firstParameter?_eq_findSome? :
  ∀ t : TypeExpr, t.firstParameter? = t.preorder.findSome? parameterName?
  | .named ns name arguments isValue => by
    rw [firstParameter?, preorder, List.findSome?_cons, parameterName?,
      firstParameterIn?_eq_findSome? arguments]
  | .parameter name => by
    rw [firstParameter?, preorder, List.findSome?_cons, parameterName?]
  | .array element rank => by
    rw [firstParameter?, preorder, List.findSome?_cons, parameterName?,
      firstParameter?_eq_findSome? element]
  | .nullable inner => by
    rw [firstParameter?, preorder, List.findSome?_cons, parameterName?,
      firstParameter?_eq_findSome? inner]
  | .byRef inner => by
    rw [firstParameter?, preorder, List.findSome?_cons, parameterName?,
      firstParameter?_eq_findSome? inner]

theorem firstParameterIn?_eq_findSome? :
  ∀ ts : List TypeExpr, firstParameterIn? ts = (preorderIn ts).findSome? parameterName?
  | [] => rfl
  | t :: ts => by
    rw [firstParameterIn?, preorderIn, List.findSome?_append, firstParameter?_eq_findSome? t,
      firstParameterIn?_eq_findSome? ts, Option.orElse_eq_orElse, Option.orElse_eq_or]

end

/-- No type parameter is found exactly when none occurs in the type. -/
theorem firstParameter?_eq_none_iff {t : TypeExpr} :
  t.firstParameter? = none ↔ ∀ name, ¬Occurs (.parameter name) t
  := by
  rw [firstParameter?_eq_findSome?, List.findSome?_eq_none_iff]
  constructor
  · intro h name hname
    cases h _ (mem_preorder_iff.mpr hname)
  · intro h s hs
    cases s with
    | parameter name => exact absurd (mem_preorder_iff.mp hs) (h name)
    | named | array | nullable | byRef => rfl

/-! ### Ranks -/

theorem one_le_toNat_iff {rank : UInt8} :
  1 ≤ rank.toNat ↔ rank ≠ 0
  := by
  rw [Nat.one_le_iff_ne_zero, ne_eq, ne_eq, ← UInt8.toNat_inj]
  rfl

end AliasBinding.TypeExpr
