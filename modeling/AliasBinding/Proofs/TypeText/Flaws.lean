import AliasBinding.Declaration.TypeText
import AliasBinding.Proofs.Outcome
import AliasBinding.Proofs.TypeExpr

/-!
# Types that cannot be written

A type is flawed by itself when its name is empty or it is an array without dimensions.  The text
of a type fails at the first flaw in reading order, and there is a text when nothing in the type
is flawed (`verdict_text`).  So whether a type has a text, and which error there is if not, does
not depend on the namespaces being written.
-/

namespace AliasBinding.TypeExpr

/-- What can be wrong with a type, the types in it apart. -/
inductive Flaw where
  | emptyName
  | emptyParameterName
  | noDimensions
  deriving DecidableEq

/-- The error that a flaw is as the first one in a type. -/
def Flaw.error : Flaw → DeclarationError
  | .emptyName => .invalidType .emptyName
  | .emptyParameterName => .invalidType .emptyParameterName
  | .noDimensions => .invalidType .noDimensions

/-- The flaw of a type, the types in it apart. -/
def flaw? : TypeExpr → Option Flaw
  | .named _ name _ _ => if name = "" then some .emptyName else none
  | .parameter name => if name = "" then some .emptyParameterName else none
  | .array _ rank => if rank = 0 then some .noDimensions else none
  | .nullable _ | .byRef _ => none

/-- The first flaw in a type, in reading order. -/
def firstFlaw? (t : TypeExpr) : Option Flaw := t.preorder.findSome? flaw?

/-- Fails with a flaw, if there is one. -/
def Flaw.report : Option Flaw → Except DeclarationError Unit
  | none => .ok ()
  | some flaw => .error flaw.error

theorem Flaw.report_or (first second : Option Flaw) :
  report (first.or second) = report first >>= fun _ => report second
  := by
  cases first with
  | none => rfl
  | some flaw => rfl

theorem Flaw.report_eq_ok_iff {flaw? : Option Flaw} :
  report flaw? = .ok () ↔ flaw? = none
  := by
  cases flaw? with
  | none => simp [report]
  | some flaw => simp [report]

theorem Flaw.report_eq_error_iff {flaw? : Option Flaw} {e : DeclarationError} :
  report flaw? = .error e ↔ ∃ flaw, flaw? = some flaw ∧ flaw.error = e
  := by
  cases flaw? with
  | none => simp [report]
  | some flaw => simp [report]

/-! ### Texts -/

mutual

/-- The text of a type fails at the first flaw. -/
theorem verdict_text (qualify : Bool) :
  ∀ t : TypeExpr, verdict (t.text qualify) = Flaw.report t.firstFlaw?
  | .named ns name arguments isValue => by
    rw [text, firstFlaw?, preorder, List.findSome?_cons, flaw?]
    split
    case isTrue => rfl
    case isFalse =>
      split
      case h_1 keyword hkeyword =>
        -- What has a keyword has no type arguments, so there is nothing more to be looked at.
        obtain ⟨-, rfl, -⟩ := mem_keywords_of_keyword? hkeyword
        rfl
      case h_2 =>
        rw [verdict_bind_of_ok, verdict_texts qualify arguments]
        intro texts
        cases texts with
        | nil => exact ⟨_, rfl⟩
        | cons => exact ⟨_, rfl⟩
  | .parameter name => by
    rw [text, firstFlaw?, preorder, List.findSome?_cons, flaw?]
    split
    case isTrue => rfl
    case isFalse => rfl
  | .array element rank => by
    rw [text, firstFlaw?, preorder, List.findSome?_cons, flaw?]
    split
    case isTrue => rfl
    case isFalse =>
      rw [verdict_bind_pure, verdict_text qualify element]
      rfl
  | .nullable inner => by
    rw [text, verdict_bind_pure, verdict_text qualify inner]
    rfl
  | .byRef inner => by
    rw [text, verdict_text qualify inner]
    rfl

theorem verdict_texts (qualify : Bool) :
  ∀ ts : List TypeExpr,
    verdict (texts qualify ts) = Flaw.report ((preorderIn ts).findSome? flaw?)
  | [] => rfl
  | t :: ts => by
    rw [texts, preorderIn, List.findSome?_append, Flaw.report_or, ← firstFlaw?,
      ← verdict_text qualify t, ← verdict_texts qualify ts, ← bind_const_eq_verdict_bind]
    cases t.text qualify with
    | error e => rfl
    | ok written => exact verdict_bind_pure _ _

end

section Text

variable {qualify : Bool} {t : TypeExpr}

theorem exists_text_iff_firstFlaw? :
  (∃ written, t.text qualify = .ok written) ↔ t.firstFlaw? = none
  := by
  rw [← verdict_eq_ok_iff, verdict_text, Flaw.report_eq_ok_iff]

theorem text_eq_error_iff {e : DeclarationError} :
  t.text qualify = .error e ↔ ∃ flaw, t.firstFlaw? = some flaw ∧ flaw.error = e
  := by
  rw [← verdict_eq_error_iff, verdict_text, Flaw.report_eq_error_iff]

end Text

/-! ### Flawless types -/

/-- No name in the type is empty, and its arrays have dimensions. -/
structure IsFlawless (t : TypeExpr) : Prop where
  name_ne : ∀ ns name arguments isValue, Occurs (.named ns name arguments isValue) t → name ≠ ""
  parameter_ne : ∀ name, Occurs (.parameter name) t → name ≠ ""
  rank_pos : ∀ element rank, Occurs (.array element rank) t → 1 ≤ rank.toNat

theorem isFlawless_iff_firstFlaw? {t : TypeExpr} :
  t.IsFlawless ↔ t.firstFlaw? = none
  := by
  rw [firstFlaw?, List.findSome?_eq_none_iff]
  simp only [mem_preorder_iff]
  constructor
  · intro h s hs
    cases s with
    | named ns name arguments isValue => exact if_neg (h.name_ne _ _ _ _ hs)
    | parameter name => exact if_neg (h.parameter_ne _ hs)
    | array element rank => exact if_neg (one_le_toNat_iff.mp (h.rank_pos _ _ hs))
    | nullable | byRef => rfl
  · intro h
    constructor
    · intro ns name arguments isValue hs
      simpa [flaw?] using h _ hs
    · intro name hs
      simpa [flaw?] using h _ hs
    · intro element rank hs
      apply one_le_toNat_iff.mpr
      simpa [flaw?] using h _ hs

/-- A type has a text when it is flawless. -/
theorem exists_text_iff_isFlawless {qualify : Bool} {t : TypeExpr} :
  (∃ written, t.text qualify = .ok written) ↔ t.IsFlawless
  := by
  rw [exists_text_iff_firstFlaw?, isFlawless_iff_firstFlaw?]

end AliasBinding.TypeExpr
