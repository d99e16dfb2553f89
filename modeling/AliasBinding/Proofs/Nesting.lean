import AliasBinding.Proofs.TypeExpr
import AliasBinding.Declaration.TypeText
import AliasBinding.Verification
import Mathlib.Data.List.Basic
import Mathlib.Data.List.Chain
import Mathlib.Logic.Function.Iterate

/-!
# Nesting of types

How many types are nested in each other bounds the chains of types that lead inwards
(`NestsWithin.length_le_of_isChain`), and the calls that are open at once in a function that
calls itself for the parts of a type only (`IsWalk.iterate_eq`).  The text of a type, its issues,
its first type parameter, the type under its marks, and whether it is a value type are such
functions (`NestsWithin.walkedWithin`).
-/

namespace AliasBinding.TypeExpr

/-- The types right inside a type. -/
def parts : TypeExpr → List TypeExpr
  | .named _ _ arguments _ => arguments
  | .parameter _ => []
  | .array element _ => [element]
  | .nullable inner | .byRef inner => [inner]

/-- At most `levels` types are nested in each other, the type itself among them. -/
def NestsWithin : Nat → TypeExpr → Prop
  | 0, _ => False
  | levels + 1, t => ∀ s ∈ t.parts, NestsWithin levels s

/-! ### Chains -/

/-- Every type in a chain is right inside the type before it. -/
abbrev IsChain (chain : List TypeExpr) : Prop := chain.IsChain fun t s => s ∈ t.parts

theorem NestsWithin.succ {levels : Nat} {t : TypeExpr} (h : NestsWithin levels t) :
  NestsWithin (levels + 1) t
  := by
  induction levels generalizing t with
  | zero => cases h
  | succ levels ih =>
    intro s hs
    apply ih (h s hs)

/-- What occurs in a type nests no deeper than the type. -/
theorem NestsWithin.of_occurs {levels : Nat} {s t : TypeExpr} (hs : Occurs s t)
    (h : NestsWithin levels t) :
  NestsWithin levels s
  := by
  induction hs generalizing levels with
  | self => apply h
  | argument ht _ ih =>
    cases levels with
    | zero => cases h
    | succ levels => apply (ih (h _ ht)).succ
  | element _ ih | nullable _ ih | byRef _ ih =>
    cases levels with
    | zero => cases h
    | succ levels => apply (ih (h _ (by simp [parts]))).succ

/-- A chain that starts somewhere in a type is no longer than the type is nested. -/
theorem NestsWithin.length_le_of_isChain {levels : Nat} {t : TypeExpr}
    (h : NestsWithin levels t) {chain : List TypeExpr} (hchain : IsChain chain)
    (hhead : ∀ s ∈ chain.head?, Occurs s t) :
  chain.length ≤ levels
  := by
  have hlength : ∀ (levels : Nat) (s : TypeExpr) (chain : List TypeExpr),
      NestsWithin levels s → IsChain (s :: chain) → (s :: chain).length ≤ levels := by
    intro levels
    induction levels with
    | zero =>
      intro s chain h
      cases h
    | succ levels ih =>
      intro s chain h hchain
      cases chain with
      | nil => simp
      | cons r chain =>
        obtain ⟨hr, hchain⟩ := List.isChain_cons_cons.mp hchain
        apply Nat.succ_le_succ (ih r chain (h r hr) hchain)
  cases chain with
  | nil => simp
  | cons s chain => apply hlength levels s chain (h.of_occurs (hhead s rfl)) hchain

/-! ### Functions that call themselves for the parts -/

variable {β : Type}

/-- The function `f` does what `step` says when the calls in it are calls of `f`, and these calls
are for the parts of the type only. -/
structure IsWalk (f : TypeExpr → β) (step : (TypeExpr → β) → TypeExpr → β) : Prop where
  fixed : step f = f
  calls_parts : ∀ call call' t, (∀ s ∈ t.parts, call s = call' s) → step call t = step call' t

/-- No more than `levels` calls are open at once: whatever stood in for further calls, the result
would be the same. -/
theorem IsWalk.iterate_eq {f : TypeExpr → β} {step : (TypeExpr → β) → TypeExpr → β}
    (h : IsWalk f step) {levels : Nat} {t : TypeExpr} (ht : NestsWithin levels t)
    (further : TypeExpr → β) :
  step^[levels] further t = f t
  := by
  induction levels generalizing t with
  | zero => cases ht
  | succ levels ih =>
    rw [Function.iterate_succ_apply', h.calls_parts _ f t fun s hs => ih (ht s hs), h.fixed]

/-- A step of the text of a type. -/
def textStep (qualify : Bool) (call : TypeExpr → Except DeclarationError String) :
    TypeExpr → Except DeclarationError String
  | .named ns name arguments isValue =>
    if name = "" then .error (.invalidType .emptyName)
    else
      match keyword? (.named ns name arguments isValue) with
      | some keyword => .ok keyword
      | none => do
        let texts ← arguments.mapM call
        if texts.isEmpty then return path qualify ns name
        return path qualify ns name ++ "<" ++ commaList texts ++ ">"
  | .parameter name =>
    if name = "" then .error (.invalidType .emptyParameterName) else .ok (Text.escaped name)
  | .array element rank =>
    if rank = 0 then .error (.invalidType .noDimensions)
    else return (← call element) ++ dimensions rank
  | .nullable inner => return (← call inner) ++ "?"
  | .byRef inner => call inner

theorem texts_eq (qualify : Bool) (ts : List TypeExpr) :
  texts qualify ts = ts.mapM (text qualify)
  := by
  induction ts with
  | nil =>
    rw [texts]
    rfl
  | cons t ts ih => rw [texts, List.mapM_cons, ih]

theorem isWalk_text (qualify : Bool) :
  IsWalk (text qualify) (textStep qualify)
  where
    fixed := by
      funext t
      cases t with
      | named =>
        rw [text, texts_eq]
        rfl
      | parameter | array | nullable | byRef => rw [textStep, text]
    calls_parts := by
      intro call call' t h
      cases t with
      | named ns name arguments isValue =>
        have htexts (f : TypeExpr → Except DeclarationError String) :
            arguments.mapM f = (arguments.map f).mapM id := by
          rw [List.mapM_map, Function.id_comp]
        have hsame : arguments.map call = arguments.map call' := List.map_congr_left h
        rw [textStep, textStep, htexts, htexts, hsame]
      | parameter name => rfl
      | array element rank => rw [textStep, textStep, h element (by simp [parts])]
      | nullable inner | byRef inner => rw [textStep, textStep, h inner (by simp [parts])]

/-- A step of the search for issues. -/
def issuesStep (declared : List String) (call : TypeExpr → List Issue) :
    TypeExpr → List Issue
  | .named _ name arguments _ => Issue.when (name == "") .unnamedType ++ arguments.flatMap call
  | .parameter name => Issue.when (!declared.contains name) (.undeclaredTypeParameter name)
  | .array element rank => Issue.when (rank == 0) .noDimensions ++ call element
  | .nullable inner | .byRef inner => call inner

theorem issuesIn_eq (declared : List String) (ts : List TypeExpr) :
  issuesIn declared ts = ts.flatMap (issues declared)
  := by
  induction ts with
  | nil => rw [issuesIn, List.flatMap_nil]
  | cons t ts ih => rw [issuesIn, List.flatMap_cons, ih]

theorem isWalk_issues (declared : List String) :
  IsWalk (issues declared) (issuesStep declared)
  where
    fixed := by
      funext t
      cases t with
      | named => rw [issuesStep, issues, issuesIn_eq]
      | parameter | array | nullable | byRef => rw [issuesStep, issues]
    calls_parts := by
      intro call call' t h
      cases t with
      | named ns name arguments isValue =>
        have harguments : arguments.flatMap call = arguments.flatMap call' :=
          List.flatMap_congr h
        rw [issuesStep, issuesStep, harguments]
      | parameter name => rfl
      | array element rank => rw [issuesStep, issuesStep, h element (by simp [parts])]
      | nullable inner | byRef inner => rw [issuesStep, issuesStep, h inner (by simp [parts])]

/-- A step of the search for a type parameter. -/
def firstParameterStep (call : TypeExpr → Option String) : TypeExpr → Option String
  | .named _ _ arguments _ => arguments.findSome? call
  | .parameter name => some name
  | .array element _ => call element
  | .nullable inner | .byRef inner => call inner

theorem firstParameterIn?_eq (ts : List TypeExpr) :
  firstParameterIn? ts = ts.findSome? firstParameter?
  := by
  induction ts with
  | nil => rw [firstParameterIn?, List.findSome?_nil]
  | cons t ts ih =>
    rw [firstParameterIn?, List.findSome?_cons, ih]
    cases t.firstParameter? with
    | none | some _ => rfl

theorem isWalk_firstParameter? :
  IsWalk firstParameter? firstParameterStep
  where
    fixed := by
      funext t
      cases t with
      | named => rw [firstParameterStep, firstParameter?, firstParameterIn?_eq]
      | parameter | array | nullable | byRef => rw [firstParameterStep, firstParameter?]
    calls_parts := by
      intro call call' t h
      cases t with
      | named ns name arguments isValue =>
        have hfound (f : TypeExpr → Option String) :
            arguments.findSome? f = (arguments.map f).findSome? id := by
          rw [List.findSome?_map, Function.id_comp]
        have hsame : arguments.map call = arguments.map call' := List.map_congr_left h
        rw [firstParameterStep, firstParameterStep, hfound, hfound, hsame]
      | parameter name => rfl
      | array element rank => apply h element (by simp [parts])
      | nullable inner | byRef inner => apply h inner (by simp [parts])

/-- A step of the way to the type under the marks. -/
def underlyingStep (call : TypeExpr → TypeExpr) : TypeExpr → TypeExpr
  | .nullable inner | .byRef inner => call inner
  | t => t

theorem isWalk_underlying :
  IsWalk underlying underlyingStep
  where
    fixed := by
      funext t
      cases t with
      | named | parameter | array | nullable | byRef => rfl
    calls_parts := by
      intro call call' t h
      cases t with
      | named | parameter | array => rfl
      | nullable inner | byRef inner => apply h inner (by simp [parts])

/-- A step of the test for value types. -/
def isValueTypeStep (call : TypeExpr → Bool) : TypeExpr → Bool
  | .named ns name _ isValue =>
    isValue || (ns == some systemNamespace && primitives.contains name)
  | .nullable _ => true
  | .byRef inner => call inner
  | .parameter _ | .array _ _ => false

theorem isWalk_isValueType :
  IsWalk isValueType isValueTypeStep
  where
    fixed := by
      funext t
      cases t with
      | named | parameter | array | nullable | byRef => rfl
    calls_parts := by
      intro call call' t h
      cases t with
      | named | parameter | array | nullable => rfl
      | byRef inner => apply h inner (by simp [parts])

/-- The functions that walk a type have at most `levels` calls open at once. -/
structure WalkedWithin (levels : Nat) (t : TypeExpr) : Prop where
  text : ∀ qualify further, (textStep qualify)^[levels] further t = t.text qualify
  issues : ∀ declared further, (issuesStep declared)^[levels] further t = t.issues declared
  firstParameter? : ∀ further, firstParameterStep^[levels] further t = t.firstParameter?
  underlying : ∀ further, underlyingStep^[levels] further t = t.underlying
  isValueType : ∀ further, isValueTypeStep^[levels] further t = t.isValueType

theorem NestsWithin.walkedWithin {levels : Nat} {t : TypeExpr} (h : NestsWithin levels t) :
  WalkedWithin levels t
  where
    text qualify := (isWalk_text qualify).iterate_eq h
    issues declared := (isWalk_issues declared).iterate_eq h
    firstParameter? := isWalk_firstParameter?.iterate_eq h
    underlying := isWalk_underlying.iterate_eq h
    isValueType := isWalk_isValueType.iterate_eq h

end AliasBinding.TypeExpr
