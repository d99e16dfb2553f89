import AliasBinding.Declaration
import AliasBinding.Proofs.Outcome
import AliasBinding.Proofs.TypeExpr
import AliasBinding.Verification

/-!
# Integers as defaults

An integer is a constant of the number types that have a keyword.  A default of an enumeration, or
of another value type that has none, is a number as well, but has to be cast to the type.  The cast
is decided by the namespace alone: it is left out for all types of the namespace of the built-in
ones, also for the enumerations in it.  So integer defaults are written as they have to be exactly
when the type is in another namespace or has a keyword (`Parameter.integer_defaults_cast_iff`).
-/

namespace AliasBinding

/-! ### Types behind marks -/

namespace TypeExpr

/-- The second type is the first one with by-reference marks and null added to it, any number of
times and in any order. -/
inductive Wraps (t : TypeExpr) : TypeExpr → Prop where
  | self : Wraps t t
  | nullable {s : TypeExpr} (h : Wraps t s) : Wraps t (.nullable s)
  | byRef {s : TypeExpr} (h : Wraps t s) : Wraps t (.byRef s)

theorem Wraps.underlying_eq {t s : TypeExpr} (h : Wraps t s) :
  s.underlying = t.underlying
  := by
  induction h with
  | self => rfl
  | nullable _ ih | byRef _ ih =>
    rw [underlying]
    exact ih

section Named

variable {ns : Option String} {name : String}

/-- A type that has a name and no type arguments has a text. -/
theorem exists_text_named (qualify : Bool) (hname : name ≠ "") (isValue : Bool) :
  ∃ text, TypeExpr.text qualify (.named ns name [] isValue) = .ok text
  := by
  rw [text, if_neg hname]
  split
  case h_1 keyword _ => exact ⟨keyword, rfl⟩
  case h_2 => exact ⟨path qualify ns name, rfl⟩

theorem needsCast_named (isValue : Bool) :
  needsCast (.named ns name [] isValue) = (isValue && ns != some systemNamespace)
  := by
  cases isValue with
  | false => rfl
  | true =>
    rw [needsCast, systemName?, Bool.true_and, bne]
    split
    case isTrue h => rw [h]; rfl
    case isFalse h => rw [Bool.eq_false_iff.mpr h]; rfl

end Named

end TypeExpr

/-! ### Integers -/

namespace Constant

/-- The number without a cast. -/
def numberText (n : Int64) : String := toString n.toInt

/-- The number behind a cast to the type of this text, and in brackets if it is negative. -/
def castText (type : String) (n : Int64) : String :=
  if n < 0 then "(" ++ type ++ ")(" ++ numberText n ++ ")" else "(" ++ type ++ ")" ++ numberText n

theorem integerText_of_needsCast_eq_false {qualify : Bool} {t : TypeExpr}
    (h : t.needsCast = false) (n : Int64) :
  integerText qualify t n = .ok (numberText n)
  := by
  rw [integerText, h]
  rfl

theorem integerText_of_needsCast {qualify : Bool} {t : TypeExpr} {type : String}
    (h : t.needsCast = true) (htype : t.text qualify = .ok type) (n : Int64) :
  integerText qualify t n = .ok (castText type n)
  := by
  rw [integerText, if_pos h, htype, bind_eq_ok_iff]
  use type, rfl
  rw [castText]
  split
  case isTrue => rfl
  case isFalse => rfl

/-- A cast is seen in the text. -/
theorem castText_ne_numberText (type : String) :
  castText type ≠ numberText
  := by
  intro h
  have hzero : "(" ++ type ++ ")" ++ "0" = "0" := congrFun h 0
  have hlength := congrArg String.length hzero
  simp only [String.length_append] at hlength
  have hbracket : "(".length = 1 := rfl
  omega

end Constant

/-! ### Defaults -/

namespace Parameter

/-- Every default that is an integer is written this way, for all parameters of the type that may
have one: those that are handed over by value, or by reference for reading. -/
def WritesIntegers (qualify : Bool) (s : TypeExpr) (written : Int64 → String) : Prop :=
  ∀ (p : Parameter) (n : Int64), p.type = s → p.passing = .value ∨ p.passing = .input →
    p.default? = some (.integer n) → p.defaultText qualify = .ok (" = " ++ written n)

/-- The integer defaults of parameters of the type `s`, which is `t` behind marks, are written as
they have to be: as numbers if there is a keyword for `t`, and otherwise behind casts to `t`. -/
def CastsIntegers (qualify : Bool) (t s : TypeExpr) : Prop :=
  ∃ type, t.text qualify = .ok type ∧ WritesIntegers qualify s
    (if t.keyword?.isSome then Constant.numberText else Constant.castText type)

theorem defaultText_integer {qualify : Bool} {p : Parameter} {n : Int64} {text : String}
    (hpassing : p.passing = .value ∨ p.passing = .input)
    (hdefault : p.default? = some (.integer n))
    (htext : Constant.integerText qualify p.type.underlying n = .ok text) :
  p.defaultText qualify = .ok (" = " ++ text)
  := by
  have hallows : p.passing.allowsDefault = true := by
    obtain h | h := hpassing
    · rw [h]; rfl
    · rw [h]; rfl
  rw [defaultText, hdefault]
  simp only [hallows, if_true, Constant.text, htext]
  rfl

theorem writesIntegers_of_integerText {qualify : Bool} {s : TypeExpr} {written : Int64 → String}
    (h : ∀ n, Constant.integerText qualify s.underlying n = .ok (written n)) :
  WritesIntegers qualify s written
  := by
  rintro p n rfl hpassing hdefault
  apply defaultText_integer hpassing hdefault (h n)

/-- There is one way to write integer defaults. -/
theorem WritesIntegers.unique {qualify : Bool} {s : TypeExpr} {written written' : Int64 → String}
    (h : WritesIntegers qualify s written) (h' : WritesIntegers qualify s written') :
  written = written'
  := by
  funext n
  have hn := h ⟨"", s, .value, some (.integer n)⟩ n rfl (.inl rfl) rfl
  have hn' := h' ⟨"", s, .value, some (.integer n)⟩ n rfl (.inl rfl) rfl
  rw [hn, Except.ok.injEq, String.append_right_inj] at hn'
  exact hn'

section Wraps

variable {qualify : Bool} {ns : Option String} {name : String} {s : TypeExpr}

/-- No cast is written for types of the namespace of the built-in ones. -/
theorem writesIntegers_of_systemNamespace {isValue : Bool}
    (hs : TypeExpr.Wraps (.named (some TypeExpr.systemNamespace) name [] isValue) s) :
  WritesIntegers qualify s Constant.numberText
  := by
  have hunderlying : s.underlying = .named (some TypeExpr.systemNamespace) name [] isValue :=
    hs.underlying_eq
  apply writesIntegers_of_integerText
  rw [hunderlying]
  apply Constant.integerText_of_needsCast_eq_false
  rw [TypeExpr.needsCast_named]
  simp

/-- For types of other namespaces a cast is written. -/
theorem writesIntegers_of_ne_systemNamespace {type : String}
    (hs : TypeExpr.Wraps (.named ns name [] true) s) (hns : ns ≠ some TypeExpr.systemNamespace)
    (htype : TypeExpr.text qualify (.named ns name [] true) = .ok type) :
  WritesIntegers qualify s (Constant.castText type)
  := by
  have hunderlying : s.underlying = .named ns name [] true := hs.underlying_eq
  have hcast : TypeExpr.needsCast (.named ns name [] true) = true := by
    rw [TypeExpr.needsCast_named]
    simpa using hns
  apply writesIntegers_of_integerText
  rw [hunderlying]
  apply Constant.integerText_of_needsCast hcast htype

theorem castsIntegers_iff (hname : name ≠ "") (hs : TypeExpr.Wraps (.named ns name [] true) s) :
  CastsIntegers qualify (.named ns name [] true) s
    ↔ (ns = some TypeExpr.systemNamespace →
      (TypeExpr.keyword? (.named ns name [] true)).isSome = true)
  := by
  constructor
  · rintro ⟨type, -, h⟩ rfl
    by_contra hkeyword
    rw [if_neg hkeyword] at h
    apply Constant.castText_ne_numberText type
    apply h.unique (writesIntegers_of_systemNamespace hs)
  · intro h
    obtain ⟨type, htype⟩ := TypeExpr.exists_text_named qualify hname true
    use type, htype
    by_cases hns : ns = some TypeExpr.systemNamespace
    · rw [if_pos (h hns)]
      subst hns
      apply writesIntegers_of_systemNamespace hs
    · have hkeyword : ¬(TypeExpr.keyword? (.named ns name [] true)).isSome = true := by
        intro hsome
        obtain ⟨keyword, hkeyword⟩ := Option.isSome_iff_exists.mp hsome
        exact hns (TypeExpr.mem_keywords_of_keyword? hkeyword).1
      rw [if_neg hkeyword]
      apply writesIntegers_of_ne_systemNamespace hs hns htype

end Wraps

/-- For a value type with a name and no type arguments, behind any marks, integer defaults are
written as they have to be exactly when it is outside the namespace of the built-in types or has a
keyword.  In this namespace they are written without a cast in any case. -/
theorem integer_defaults_cast_iff {ns : Option String} {name : String} {isValue : Bool}
    {s : TypeExpr} (hname : name ≠ "") (hs : TypeExpr.Wraps (.named ns name [] isValue) s)
    (qualify : Bool) :
  (isValue = true → (CastsIntegers qualify (.named ns name [] isValue) s
      ↔ (ns = some TypeExpr.systemNamespace →
        (TypeExpr.keyword? (.named ns name [] isValue)).isSome = true)))
    ∧ (ns = some TypeExpr.systemNamespace → WritesIntegers qualify s Constant.numberText)
  := by
  constructor
  · rintro rfl
    apply castsIntegers_iff hname hs
  · rintro rfl
    apply writesIntegers_of_systemNamespace hs

theorem integer_defaults_cast_iff_level :
  "Level" ≠ ""
    ∧ TypeExpr.Wraps (.value "Tools" "Level") (.byRef (.nullable (.value "Tools" "Level")))
    ∧ CastsIntegers true (.value "Tools" "Level") (.byRef (.nullable (.value "Tools" "Level")))
    ∧ text true ⟨"level", .byRef (.nullable (.value "Tools" "Level")), .input,
      some (.integer (-3))⟩ = .ok "in Tools.Level? level = (Tools.Level)(-3)"
  := by
  have hname : "Level" ≠ "" := by decide
  have hs : TypeExpr.Wraps (.value "Tools" "Level")
      (.byRef (.nullable (.value "Tools" "Level"))) := .byRef (.nullable .self)
  exact ⟨hname, hs, ((integer_defaults_cast_iff hname hs true).1 rfl).mpr (by decide),
    by decide +kernel⟩

/-- A method with a default of an enumeration that is in the namespace of the built-in types. -/
def paint : Alias :=
  ((Alias.ofMethod "Paint" (.plain "Tools" "ToolAliases") .void).withParameter
    (.receiver "context" (.plain "Core" "IContext"))).withParameter
    ⟨"color", .value "System" "ConsoleColor", .value, some (.integer 12)⟩

/-- The default of the enumeration is accepted, and written without the cast that it needs. -/
theorem built_in_enumeration_is_not_cast :
  Alias.verify [paint] = []
    ∧ paint.declaration {} = .ok ("public void Paint(System.ConsoleColor color = 12)\n\x7b\n"
      ++ "    Tools.ToolAliases.Paint(Context, color);\n\x7d")
    ∧ ¬CastsIntegers true (.value "System" "ConsoleColor") (.value "System" "ConsoleColor")
  := by
  refine ⟨by decide, by decide +kernel, ?_⟩
  rw [TypeExpr.value, castsIntegers_iff (by decide) .self]
  decide

end Parameter

end AliasBinding
