import AliasBinding.Declaration.ParameterList
import AliasBinding.Proofs.TypeExpr
import Mathlib.Data.List.Basic

/-!
# What the texts of types leave out

By-reference marks are not written, whatever type they are on.  So nothing that is written of a
type or of a parameter changes when all marks are taken away: neither the text, nor the casts, the
suffixes and the default values that depend on the type (`marks_are_transparent`).  Namespaces are
not written in unqualified texts, where they only tell which types have a keyword; so the
unqualified text of a type is the qualified text of the type without namespaces
(`TypeExpr.text_false_eq_text_unqualified`).
-/

namespace AliasBinding

namespace TypeExpr

/-- What is written of a named type is its keyword or, if there is none, the name in front of its
type arguments and their texts. -/
theorem text_named_congr {ns ns' : Option String} {name : String}
    {arguments arguments' : List TypeExpr} {isValue isValue' qualify qualify' : Bool}
    (hkeyword : keyword? (.named ns name arguments isValue)
      = keyword? (.named ns' name arguments' isValue'))
    (hpath : keyword? (.named ns name arguments isValue) = none →
      path qualify ns name = path qualify' ns' name)
    (htexts : texts qualify arguments = texts qualify' arguments') :
  text qualify (.named ns name arguments isValue)
    = text qualify' (.named ns' name arguments' isValue')
  := by
  rw [text, text, ← hkeyword, ← htexts]
  cases h : keyword? (.named ns name arguments isValue) with
  | some keyword => rfl
  | none => rw [hpath h]

/-! ### Types without by-reference marks -/

mutual

/-- The type without by-reference marks, at any depth. -/
def unmarked : TypeExpr → TypeExpr
  | .named ns name arguments isValue => .named ns name (unmarkedIn arguments) isValue
  | .parameter name => .parameter name
  | .array element rank => .array element.unmarked rank
  | .nullable inner => .nullable inner.unmarked
  | .byRef inner => inner.unmarked

/-- The types without by-reference marks. -/
def unmarkedIn : List TypeExpr → List TypeExpr
  | [] => []
  | t :: rest => t.unmarked :: unmarkedIn rest

end

/-- What becomes of a type among those that occur in another one: a marked one is dropped, and the
others lose the marks in them. -/
def unmarkedNode? : TypeExpr → Option TypeExpr
  | .byRef _ => none
  | t => some t.unmarked

mutual

/-- Of the types that occur in a type, the marked ones are dropped and the others stay in order. -/
theorem preorder_unmarked :
  ∀ t : TypeExpr, t.unmarked.preorder = t.preorder.filterMap unmarkedNode?
  | .named ns name arguments isValue => by
    simp only [unmarked, preorder, List.filterMap_cons, unmarkedNode?,
      preorderIn_unmarkedIn arguments]
  | .parameter name => rfl
  | .array element rank => by
    simp only [unmarked, preorder, List.filterMap_cons, unmarkedNode?, preorder_unmarked element]
  | .nullable inner => by
    simp only [unmarked, preorder, List.filterMap_cons, unmarkedNode?, preorder_unmarked inner]
  | .byRef inner => by
    simp only [unmarked, preorder, List.filterMap_cons, unmarkedNode?, preorder_unmarked inner]

theorem preorderIn_unmarkedIn :
  ∀ ts : List TypeExpr, preorderIn (unmarkedIn ts) = (preorderIn ts).filterMap unmarkedNode?
  | [] => rfl
  | t :: ts => by
    rw [unmarkedIn, preorderIn, preorderIn, List.filterMap_append, preorder_unmarked t,
      preorderIn_unmarkedIn ts]

end

/-- No mark is left. -/
theorem not_occurs_byRef_unmarked (t inner : TypeExpr) :
  ¬Occurs (.byRef inner) t.unmarked
  := by
  rw [← mem_preorder_iff, preorder_unmarked, List.mem_filterMap]
  rintro ⟨s, -, hs⟩
  cases s with
  | byRef => cases hs
  | named | parameter | array | nullable => cases hs

mutual

/-- A type without marks stays as it is. -/
theorem unmarked_eq_self :
  ∀ t : TypeExpr, (∀ inner, ¬Occurs (.byRef inner) t) → t.unmarked = t
  | .named ns name arguments isValue, h => by
    rw [unmarked, unmarkedIn_eq_self arguments]
    intro s hs inner hinner
    exact h inner (.argument hs hinner)
  | .parameter name, _ => rfl
  | .array element rank, h => by
    rw [unmarked, unmarked_eq_self element fun inner hinner => h inner (.element hinner)]
  | .nullable inner, h => by
    rw [unmarked, unmarked_eq_self inner fun inner' hinner => h inner' (.nullable hinner)]
  | .byRef inner, h => absurd (.self _) (h inner)

theorem unmarkedIn_eq_self :
  ∀ ts : List TypeExpr, (∀ t ∈ ts, ∀ inner, ¬Occurs (.byRef inner) t) → unmarkedIn ts = ts
  | [], _ => rfl
  | t :: ts, h => by
    rw [List.forall_mem_cons] at h
    rw [unmarkedIn, unmarked_eq_self t h.1, unmarkedIn_eq_self ts h.2]

end

/-- A type stays as it is exactly when there are no marks in it. -/
theorem unmarked_eq_self_iff {t : TypeExpr} :
  t.unmarked = t ↔ ∀ inner, ¬Occurs (.byRef inner) t
  := by
  constructor
  · intro h inner
    rw [← h]
    apply not_occurs_byRef_unmarked
  · apply unmarked_eq_self

/-! ### What is decided on types -/

theorem firstParameter?_unmarked (t : TypeExpr) :
  t.unmarked.firstParameter? = t.firstParameter?
  := by
  have hnode : ∀ s : TypeExpr, (unmarkedNode? s).bind parameterName? = parameterName? s := by
    intro s
    cases s with
    | named | parameter | array | nullable | byRef => rfl
  rw [firstParameter?_eq_findSome?, firstParameter?_eq_findSome?, preorder_unmarked,
    ← List.head?_filterMap, ← List.head?_filterMap, List.filterMap_filterMap]
  simp only [hnode]

theorem isValueType_unmarked :
  ∀ t : TypeExpr, t.unmarked.isValueType = t.isValueType
  | .byRef inner => by
    rw [unmarked, isValueType_unmarked inner, isValueType]
  | .named _ _ _ _ | .parameter _ | .array _ _ | .nullable _ => by
    simp only [unmarked, isValueType]

/-! ### Texts of types -/

/-- The name of a built-in type stands at the front, where there is no mark. -/
theorem systemName?_unmarked {t : TypeExpr} (h : ∀ inner, t ≠ .byRef inner) :
  t.unmarked.systemName? = t.systemName?
  := by
  cases t with
  | named ns name arguments isValue =>
    cases arguments with
    | nil | cons => rfl
  | parameter | array | nullable => rfl
  | byRef inner => exact absurd rfl (h inner)

mutual

/-- A type is written as it is without its marks. -/
theorem text_unmarked (qualify : Bool) :
  ∀ t : TypeExpr, t.unmarked.text qualify = t.text qualify
  | .named ns name arguments isValue => by
    apply text_named_congr
    · rw [keyword?, keyword?, ← systemName?_unmarked (t := .named ns name arguments isValue) nofun,
        unmarked]
    · exact fun _ => rfl
    · apply texts_unmarkedIn qualify arguments
  | .parameter name => rfl
  | .array element rank => by
    rw [unmarked, text, text, text_unmarked qualify element]
  | .nullable inner => by
    rw [unmarked, text, text, text_unmarked qualify inner]
  | .byRef inner => by
    rw [unmarked, text, text_unmarked qualify inner]

theorem texts_unmarkedIn (qualify : Bool) :
  ∀ ts : List TypeExpr, texts qualify (unmarkedIn ts) = texts qualify ts
  | [] => rfl
  | t :: ts => by
    rw [unmarkedIn, texts, texts, text_unmarked qualify t, texts_unmarkedIn qualify ts]

end

/-! ### Texts of constants -/

theorem underlying_ne_byRef (inner : TypeExpr) :
  ∀ t : TypeExpr, t.underlying ≠ .byRef inner
  | .nullable t | .byRef t => underlying_ne_byRef inner t
  | .named _ _ _ _ | .parameter _ | .array _ _ => nofun

theorem underlying_unmarked :
  ∀ t : TypeExpr, t.unmarked.underlying = t.underlying.unmarked
  | .nullable inner => by
    rw [unmarked, underlying, underlying, underlying_unmarked inner]
  | .byRef inner => by
    rw [unmarked, underlying, underlying_unmarked inner]
  | .named _ _ _ _ | .parameter _ | .array _ _ => by
    simp only [unmarked, underlying]

theorem needsCast_unmarked {t : TypeExpr} (h : ∀ inner, t ≠ .byRef inner) :
  t.unmarked.needsCast = t.needsCast
  := by
  have hname := systemName?_unmarked h
  cases t with
  | named ns name arguments isValue =>
    cases isValue with
    | true => exact congrArg Option.isNone hname
    | false => rfl
  | parameter | array | nullable => rfl
  | byRef inner => exact absurd rfl (h inner)

theorem realSuffix_unmarked {t : TypeExpr} (h : ∀ inner, t ≠ .byRef inner) :
  t.unmarked.realSuffix = t.realSuffix
  := by
  rw [realSuffix, realSuffix, systemName?_unmarked h]

end TypeExpr

theorem Constant.integerText_unmarked (qualify : Bool) {t : TypeExpr}
    (h : ∀ inner, t ≠ .byRef inner) (n : Int64) :
  integerText qualify t.unmarked n = integerText qualify t n
  := by
  rw [integerText, integerText, t.needsCast_unmarked h, t.text_unmarked]

/-- The casts, the suffixes and the default values that depend on a type do not depend on its
marks. -/
theorem Constant.text_unmarked (qualify : Bool) (name : String) (t : TypeExpr) (c : Constant) :
  c.text qualify name t.unmarked = c.text qualify name t
  := by
  have hfront : ∀ inner, t.underlying ≠ .byRef inner := fun inner =>
    TypeExpr.underlying_ne_byRef inner t
  cases c with
  | null | bool | string | char => rfl
  | integer n => rw [text, text, t.underlying_unmarked, integerText_unmarked qualify hfront]
  | float x => rw [text, text, t.underlying_unmarked, TypeExpr.realSuffix_unmarked hfront]
  | zero => rw [text, text, t.text_unmarked]

/-! ### Texts of parameters -/

namespace Parameter

/-- The parameter without by-reference marks in its type. -/
def unmarked (p : Parameter) : Parameter := { p with type := p.type.unmarked }

theorem defaultText_unmarked (qualify : Bool) (p : Parameter) :
  p.unmarked.defaultText qualify = p.defaultText qualify
  := by
  simp only [defaultText, unmarked, Constant.text_unmarked]

theorem text_unmarked (qualify : Bool) (p : Parameter) :
  p.unmarked.text qualify = p.text qualify
  := by
  rw [text, text, defaultText_unmarked]
  simp only [unmarked, TypeExpr.text_unmarked]

theorem listText_unmarked (qualify : Bool) (ps : List Parameter) :
  listText qualify (ps.map unmarked) = listText qualify ps
  := by
  have hcomp : text qualify ∘ unmarked = text qualify := funext fun p => p.text_unmarked qualify
  rw [listText, listText, List.mapM_map, hcomp]

/-- Arguments do not mention types. -/
theorem argumentsText_unmarked (ps : List Parameter) :
  argumentsText (ps.map unmarked) = argumentsText ps
  := by
  have hcomp : argument ∘ unmarked = argument := rfl
  rw [argumentsText, argumentsText, List.mapM_map, hcomp]

end Parameter

/-- By-reference marks are transparent.  Without them a type, in which none is left, is written as
before or fails as before, with namespaces and without; it is a value type if it was one, and the
same type parameter is found in it.  The parameter list and the argument list of parameters whose
types lose their marks are the same as before, or fail as before. -/
theorem marks_are_transparent (qualify : Bool) (t : TypeExpr) (ps : List Parameter) :
  (∀ inner, ¬TypeExpr.Occurs (.byRef inner) t.unmarked)
    ∧ (t.unmarked = t ↔ ∀ inner, ¬TypeExpr.Occurs (.byRef inner) t)
    ∧ t.unmarked.text qualify = t.text qualify
    ∧ t.unmarked.isValueType = t.isValueType
    ∧ t.unmarked.firstParameter? = t.firstParameter?
    ∧ Parameter.listText qualify (ps.map Parameter.unmarked) = Parameter.listText qualify ps
    ∧ Parameter.argumentsText (ps.map Parameter.unmarked) = Parameter.argumentsText ps
  := ⟨t.not_occurs_byRef_unmarked, TypeExpr.unmarked_eq_self_iff, t.text_unmarked qualify,
    t.isValueType_unmarked, t.firstParameter?_unmarked, Parameter.listText_unmarked qualify ps,
    Parameter.argumentsText_unmarked ps⟩

/-! ### Types without namespaces -/

namespace TypeExpr

mutual

/-- The type without namespaces, at any depth, but for those of the types with a keyword. -/
def unqualified : TypeExpr → TypeExpr
  | .named ns name arguments isValue =>
    .named (if (keyword? (.named ns name arguments isValue)).isSome then ns else none) name
      (unqualifiedIn arguments) isValue
  | .parameter name => .parameter name
  | .array element rank => .array element.unqualified rank
  | .nullable inner => .nullable inner.unqualified
  | .byRef inner => .byRef inner.unqualified

/-- The types without namespaces. -/
def unqualifiedIn : List TypeExpr → List TypeExpr
  | [] => []
  | t :: rest => t.unqualified :: unqualifiedIn rest

end

mutual

/-- The types that occur in a type lose their namespaces where they stand. -/
theorem preorder_unqualified :
  ∀ t : TypeExpr, t.unqualified.preorder = t.preorder.map unqualified
  | .named ns name arguments isValue => by
    simp only [unqualified, preorder, List.map_cons, preorderIn_unqualifiedIn arguments]
  | .parameter name => rfl
  | .array element rank => by
    simp only [unqualified, preorder, List.map_cons, preorder_unqualified element]
  | .nullable inner => by
    simp only [unqualified, preorder, List.map_cons, preorder_unqualified inner]
  | .byRef inner => by
    simp only [unqualified, preorder, List.map_cons, preorder_unqualified inner]

theorem preorderIn_unqualifiedIn :
  ∀ ts : List TypeExpr, preorderIn (unqualifiedIn ts) = (preorderIn ts).map unqualified
  | [] => rfl
  | t :: ts => by
    rw [unqualifiedIn, preorderIn, preorderIn, List.map_append, preorder_unqualified t,
      preorderIn_unqualifiedIn ts]

end

/-- A type with a keyword stays as it is. -/
theorem unqualified_eq_self_of_keyword? {t : TypeExpr} (h : t.keyword?.isSome = true) :
  t.unqualified = t
  := by
  obtain ⟨keyword, hkeyword⟩ := Option.isSome_iff_exists.mp h
  cases t with
  | named ns name arguments isValue =>
    obtain ⟨rfl, rfl, -⟩ := mem_keywords_of_keyword? hkeyword
    rw [unqualified, if_pos h]
    rfl
  | parameter | array | nullable | byRef => cases hkeyword

/-- Keywords belong to a namespace. -/
theorem keyword?_named_none (name : String) (arguments : List TypeExpr) (isValue : Bool) :
  keyword? (.named none name arguments isValue) = none
  := by
  cases arguments with
  | nil | cons => rfl

theorem keyword?_unqualified (t : TypeExpr) :
  t.unqualified.keyword? = t.keyword?
  := by
  cases h : t.keyword? with
  | some keyword => rw [unqualified_eq_self_of_keyword? (by rw [h]; rfl), h]
  | none =>
    cases t with
    | named ns name arguments isValue =>
      rw [unqualified, h]
      apply keyword?_named_none
    | parameter | array | nullable | byRef => rfl

/-- Of the namespaces, those of the types with a keyword are left. -/
theorem isSome_keyword?_of_occurs_unqualified {t : TypeExpr} {ns name : String}
    {arguments : List TypeExpr} {isValue : Bool}
    (h : Occurs (.named (some ns) name arguments isValue) t.unqualified) :
  (keyword? (.named (some ns) name arguments isValue)).isSome = true
  := by
  rw [← mem_preorder_iff, preorder_unqualified, List.mem_map] at h
  obtain ⟨s, -, hs⟩ := h
  rw [← hs, keyword?_unqualified]
  cases s with
  | named ns' name' arguments' isValue' =>
    rw [unqualified] at hs
    by_contra hkeyword
    rw [if_neg hkeyword] at hs
    cases hs
  | parameter | array | nullable | byRef => cases hs

mutual

theorem text_unqualified :
  ∀ t : TypeExpr, t.unqualified.text true = t.text false
  | .named ns name arguments isValue => by
    rw [unqualified]
    apply text_named_congr
    · rw [← unqualified, keyword?_unqualified]
    · intro hkeyword
      rw [← unqualified, keyword?_unqualified] at hkeyword
      rw [hkeyword]
      cases ns with
      | none | some => rfl
    · apply texts_unqualifiedIn arguments
  | .parameter name => rfl
  | .array element rank => by
    rw [unqualified, text, text, text_unqualified element]
  | .nullable inner => by
    rw [unqualified, text, text, text_unqualified inner]
  | .byRef inner => by
    rw [unqualified, text, text, text_unqualified inner]

theorem texts_unqualifiedIn :
  ∀ ts : List TypeExpr, texts true (unqualifiedIn ts) = texts false ts
  | [] => rfl
  | t :: ts => by
    rw [unqualifiedIn, texts, texts, text_unqualified t, texts_unqualifiedIn ts]

end

/-- Without namespaces a type is written, or fails to be, as it is when namespaces are taken away
from it before, wherever there is no keyword. -/
theorem text_false_eq_text_unqualified (t : TypeExpr) :
  t.text false = t.unqualified.text true
    ∧ ∀ ns name arguments isValue,
      Occurs (.named (some ns) name arguments isValue) t.unqualified →
      (keyword? (.named (some ns) name arguments isValue)).isSome = true
  := ⟨t.text_unqualified.symm, fun _ _ _ _ h => isSome_keyword?_of_occurs_unqualified h⟩

/-- A type with names in several namespaces, of which one has a keyword. -/
def lazyTable : TypeExpr :=
  .applied (.plain "System.Collections.Generic" "Dictionary`2") [.plain "System" "String",
    .applied (.plain "System" "Lazy`1") [.array (.plain "" "Cell") 2]]

theorem text_false_eq_text_unqualified_lazyTable :
  lazyTable.text false = .ok "Dictionary<string, Lazy<Cell[,]>>"
    ∧ lazyTable.unqualified.text true = .ok "Dictionary<string, Lazy<Cell[,]>>"
    ∧ Occurs (.plain "System" "String") lazyTable.unqualified
    ∧ (keyword? (.plain "System" "String")).isSome = true
  := by
  have htext : lazyTable.text false = .ok "Dictionary<string, Lazy<Cell[,]>>" := by decide
  have hoccurs : Occurs (.plain "System" "String") lazyTable.unqualified :=
    .argument List.mem_cons_self (.self _)
  obtain ⟨hsame, hleft⟩ := text_false_eq_text_unqualified lazyTable
  exact ⟨htext, hsame.symm.trans htext, hoccurs, hleft _ _ _ _ hoccurs⟩

end TypeExpr

end AliasBinding
