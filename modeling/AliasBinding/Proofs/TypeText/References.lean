import AliasBinding.Declaration.TypeText
import AliasBinding.Proofs.Outcome

/-!
# Types behind by-reference marks

By-reference marks are not written, so a type has the text of its target, the type behind the
marks at its front (`TypeExpr.text_target`).  Whether it is a value type, and which type
parameter comes first in it, is the same for the target as well.  Not all tests on types look
behind the marks, though: a reference to a nullable type is not nullable by itself.
-/

namespace AliasBinding.TypeExpr

/-- The type behind the by-reference marks at the front. -/
def target : TypeExpr → TypeExpr
  | .byRef inner => inner.target
  | t => t

theorem target_ne_byRef (inner : TypeExpr) :
  ∀ t : TypeExpr, t.target ≠ .byRef inner
  | .byRef t => target_ne_byRef inner t
  | .named _ _ _ _ | .parameter _ | .array _ _ | .nullable _ => nofun

/-- A type is its own target, or it has a mark at its front. -/
theorem target_eq_self_or (t : TypeExpr) :
  t.target = t ∨ ∃ inner, t = .byRef inner ∧ t.target = inner.target
  := by
  cases t with
  | byRef inner => exact .inr ⟨inner, rfl, rfl⟩
  | named | parameter | array | nullable => exact .inl rfl

theorem text_target (qualify : Bool) :
  ∀ t : TypeExpr, t.target.text qualify = t.text qualify
  | .byRef inner => by
    rw [target, text_target qualify inner, text]
  | .named _ _ _ _ | .parameter _ | .array _ _ | .nullable _ => rfl

theorem isValueType_target :
  ∀ t : TypeExpr, t.target.isValueType = t.isValueType
  | .byRef inner => by
    rw [target, isValueType_target inner, isValueType]
  | .named _ _ _ _ | .parameter _ | .array _ _ | .nullable _ => rfl

theorem firstParameter?_target :
  ∀ t : TypeExpr, t.target.firstParameter? = t.firstParameter?
  | .byRef inner => by
    rw [target, firstParameter?_target inner, firstParameter?]
  | .named _ _ _ _ | .parameter _ | .array _ _ | .nullable _ => rfl

/-! ### Nullable types -/

/-- Whether the type is one to which null was added. -/
def isNullable : TypeExpr → Bool
  | .nullable _ => true
  | _ => false

theorem isNullable_iff {t : TypeExpr} :
  t.isNullable = true ↔ ∃ inner, t = .nullable inner
  := by
  cases t with
  | nullable inner => simp [isNullable]
  | named | parameter | array | byRef => simp [isNullable]

theorem isValueType_of_isNullable {t : TypeExpr} (h : t.isNullable = true) :
  t.isValueType = true
  := by
  obtain ⟨inner, rfl⟩ := isNullable_iff.mp h
  rw [isValueType]

/-- The text of a nullable type ends with a question mark. -/
theorem text_of_isNullable {qualify : Bool} {t : TypeExpr} {text : String}
    (h : t.isNullable = true) (htext : t.text qualify = .ok text) :
  ∃ innerText, text = innerText ++ "?"
  := by
  obtain ⟨inner, rfl⟩ := isNullable_iff.mp h
  rw [TypeExpr.text] at htext
  obtain ⟨innerText, -, htext⟩ := bind_eq_ok_iff.mp htext
  cases htext
  use innerText

/-- Behind by-reference marks, one or more, the type is nullable. -/
def IsReferenceToNullable (t : TypeExpr) : Prop :=
  ∃ inner, t = .byRef inner ∧ inner.target.isNullable = true

/-- The target is nullable when the type is, or is a reference to such a type. -/
theorem isNullable_target_iff {t : TypeExpr} :
  t.target.isNullable = true ↔ t.isNullable = true ∨ t.IsReferenceToNullable
  := by
  cases t with
  | byRef inner => simp [target, isNullable, IsReferenceToNullable]
  | named | parameter | array | nullable => simp [target, IsReferenceToNullable]

theorem isNullable_eq_false_of_isReferenceToNullable {t : TypeExpr}
    (h : t.IsReferenceToNullable) :
  t.isNullable = false
  := by
  obtain ⟨inner, rfl, -⟩ := h
  rfl

end AliasBinding.TypeExpr
