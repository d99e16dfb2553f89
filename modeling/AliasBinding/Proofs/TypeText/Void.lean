import AliasBinding.Proofs.Outcome
import AliasBinding.Proofs.TypeExpr
import AliasBinding.Proofs.TypeText.References

/-!
# Types that are written as void

The type `void` is written as `void`, also behind by-reference marks, which are not written.  So
is a type of that name in no namespace, or in one that is left out: names of types are written
without a mark even where they are reserved words.  Nothing else is (`text_eq_void_iff`).  The
test for `void` knows none of these disguises (`text_eq_void_iff_isVoid_or`).
-/

namespace AliasBinding.TypeExpr

/-! ### Named types -/

theorem ne_void_of_mem {text : String} {c : Char} (hc : c ∉ "void".toList)
    (h : c ∈ text.toList) :
  text ≠ "void"
  := by
  rintro rfl
  apply hc h

/-- The type has no type arguments and is called `void`, and its namespace is not written. -/
def IsCalledVoid (qualify : Bool) : TypeExpr → Prop
  | .named ns name [] _ =>
    dotted name.toList false = "void".toList ∧ (qualify = true → ns = none ∨ ns = some "")
  | _ => False

theorem path_eq_void_iff {qualify : Bool} {ns : Option String} {name : String} :
  path qualify ns name = "void"
    ↔ dotted name.toList false = "void".toList ∧ (qualify = true → ns = none ∨ ns = some "")
  := by
  have hown : String.ofList (dotted name.toList false) = "void"
      ↔ dotted name.toList false = "void".toList := by
    rw [← String.toList_inj, String.toList_ofList]
  unfold path
  cases ns with
  | none => simp [hown]
  | some ns =>
    dsimp only
    split
    case isTrue hwritten =>
      rw [Bool.and_eq_true, bne_iff_ne] at hwritten
      constructor
      · intro h
        apply absurd h
        apply ne_void_of_mem (c := '.') (by decide)
        simp
      · rintro ⟨-, hns⟩
        obtain h | h := hns hwritten.1
        · cases h
        · cases h
          exact absurd rfl hwritten.2
    case isFalse hwritten =>
      rw [hown]
      apply (and_iff_left _).symm
      rintro rfl
      simpa using hwritten

section Named

variable {qualify : Bool} {ns : Option String} {name : String} {arguments : List TypeExpr}
  {isValue : Bool}

/-- Of the types with a keyword only `void` has this one, and none is called so. -/
theorem keyword_eq_void_iff {keyword : String}
    (h : keyword? (.named ns name arguments isValue) = some keyword) :
  keyword = "void"
    ↔ isVoid (.named ns name arguments isValue) = true
      ∨ IsCalledVoid qualify (.named ns name arguments isValue)
  := by
  obtain ⟨rfl, rfl, hmem⟩ := mem_keywords_of_keyword? h
  have hvoid : ∀ k ∈ keywords, k.2 = "void" ↔ k.1 = "Void" := by decide
  have hdotted : ∀ k ∈ keywords, dotted k.1.toList false ≠ "void".toList := by decide
  have hnot : ¬IsCalledVoid qualify (.named (some systemNamespace) name [] isValue) :=
    fun h => hdotted _ hmem h.1
  rw [or_iff_left hnot, hvoid _ hmem]
  simp [isVoid]

theorem isVoid_eq_false_of_keyword? {t : TypeExpr} (h : t.keyword? = none) :
  t.isVoid = false
  := by
  rw [← Bool.not_eq_true]
  intro hvoid
  obtain ⟨isValue, rfl⟩ := isVoid_iff.mp hvoid
  cases h

/-- A named type is written as `void` when it is, or is called so. -/
theorem text_named_eq_void_iff :
  text qualify (.named ns name arguments isValue) = .ok "void"
    ↔ isVoid (.named ns name arguments isValue) = true
      ∨ IsCalledVoid qualify (.named ns name arguments isValue)
  := by
  rw [text]
  split
  case isTrue hname =>
    subst hname
    cases arguments with
    | nil => simp [isVoid, IsCalledVoid, dotted]
    | cons => simp [isVoid, IsCalledVoid]
  case isFalse =>
    split
    case h_1 keyword hkeyword => rw [Except.ok.injEq, keyword_eq_void_iff hkeyword]
    case h_2 hkeyword =>
      rw [or_iff_right (Bool.eq_false_iff.mp (isVoid_eq_false_of_keyword? hkeyword))]
      cases arguments with
      | nil =>
        rw [IsCalledVoid, ← path_eq_void_iff, texts]
        exact iff_of_eq (Except.ok.injEq (path qualify ns name) "void")
      | cons t ts =>
        simp only [IsCalledVoid, iff_false]
        intro h
        obtain ⟨ss, hss, h⟩ := bind_eq_ok_iff.mp h
        rw [texts] at hss
        obtain ⟨s, -, hss⟩ := bind_eq_ok_iff.mp hss
        obtain ⟨ss', -, hss⟩ := bind_eq_ok_iff.mp hss
        cases hss
        apply absurd (Except.ok.inj h)
        apply ne_void_of_mem (c := '<') (by decide)
        simp

end Named

/-! ### All types -/

/-- A type that is no by-reference type is written as `void` when it is, or is called so. -/
theorem text_eq_void_iff_of_ne_byRef {qualify : Bool} {t : TypeExpr}
    (h : ∀ inner, t ≠ .byRef inner) :
  t.text qualify = .ok "void" ↔ t.isVoid = true ∨ t.IsCalledVoid qualify
  := by
  cases t with
  | named => apply text_named_eq_void_iff
  | parameter name =>
    simp only [isVoid, IsCalledVoid, Bool.false_eq_true, or_false, iff_false]
    rw [text]
    split
    · intro htext
      cases htext
    · intro htext
      have hescaped : Text.escaped name ≠ "void" := by
        rw [Text.escaped]
        split
        case isTrue => exact ne_void_of_mem (c := '@') (by decide) (by simp)
        case isFalse hname =>
          rintro rfl
          exact hname (by decide)
      apply hescaped (Except.ok.inj htext)
  | array element rank =>
    simp only [isVoid, IsCalledVoid, Bool.false_eq_true, or_false, iff_false]
    rw [text]
    split
    · intro htext
      cases htext
    · intro htext
      obtain ⟨s, -, htext⟩ := bind_eq_ok_iff.mp htext
      apply absurd (Except.ok.inj htext)
      apply ne_void_of_mem (c := '[') (by decide)
      simp [dimensions]
  | nullable inner =>
    simp only [isVoid, IsCalledVoid, Bool.false_eq_true, or_false, iff_false]
    rw [text]
    intro htext
    obtain ⟨s, -, htext⟩ := bind_eq_ok_iff.mp htext
    apply absurd (Except.ok.inj htext)
    apply ne_void_of_mem (c := '?') (by decide)
    simp
  | byRef inner => exact absurd rfl (h inner)

/-- A type is written as `void` when what is behind its by-reference marks is `void`, or is called
so. -/
theorem text_eq_void_iff {qualify : Bool} {t : TypeExpr} :
  t.text qualify = .ok "void" ↔ t.target.isVoid = true ∨ t.target.IsCalledVoid qualify
  := by
  rw [← text_target]
  apply text_eq_void_iff_of_ne_byRef
  intro inner
  apply target_ne_byRef

/-- The type is written as `void` and passes for another type: it is `void` behind by-reference
marks, or only called so. -/
def IsDisguisedVoid (qualify : Bool) (t : TypeExpr) : Prop :=
  (∃ inner, t = .byRef inner ∧ inner.target.isVoid = true) ∨ t.target.IsCalledVoid qualify

theorem isVoid_eq_false_of_isDisguisedVoid {qualify : Bool} {t : TypeExpr}
    (h : t.IsDisguisedVoid qualify) :
  t.isVoid = false
  := by
  obtain ⟨inner, rfl, -⟩ | hcalled := h
  · rfl
  · rw [← Bool.not_eq_true]
    intro hvoid
    obtain ⟨isValue, rfl⟩ := isVoid_iff.mp hvoid
    apply absurd hcalled.1
    decide

/-- There is no type parameter in `void`, nor in a type that is called so. -/
theorem firstParameter?_of_isDisguisedVoid {qualify : Bool} {t : TypeExpr}
    (h : t.IsDisguisedVoid qualify) :
  t.firstParameter? = none
  := by
  rw [← firstParameter?_target]
  obtain ⟨inner, rfl, hvoid⟩ | hcalled := h
  · obtain ⟨isValue, hinner⟩ := isVoid_iff.mp hvoid
    rw [target, hinner, firstParameter?, firstParameterIn?]
  · generalize t.target = s at hcalled
    unfold IsCalledVoid at hcalled
    split at hcalled
    · rw [firstParameter?, firstParameterIn?]
    · cases hcalled

/-- A type is written as `void` when it is `void`, openly or in disguise. -/
theorem text_eq_void_iff_isVoid_or {qualify : Bool} {t : TypeExpr} :
  t.text qualify = .ok "void" ↔ t.isVoid = true ∨ t.IsDisguisedVoid qualify
  := by
  rw [text_eq_void_iff, IsDisguisedVoid, ← or_assoc]
  apply or_congr_left
  obtain htarget | ⟨inner, rfl, htarget⟩ := t.target_eq_self_or
  · rw [htarget, iff_self_or]
    rintro ⟨inner, rfl, -⟩
    exact absurd htarget (target_ne_byRef inner (.byRef inner))
  · rw [htarget]
    constructor
    · intro h
      right
      use inner
    · rintro (h | ⟨inner', heq, h⟩)
      · cases h
      · cases heq
        apply h

end AliasBinding.TypeExpr
