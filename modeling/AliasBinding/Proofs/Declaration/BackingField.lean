import AliasBinding.Proofs.Declaration.Inversion
import AliasBinding.Proofs.TypeText.References
import AliasBinding.Verification

/-!
# Backing fields

The backing field of a cached property starts out with null, so the field of a value type is made
nullable, and the value is taken out of it again when it is returned.  A nullable type is not
made nullable twice, unless it is behind a by-reference mark: that is not written, but it hides
the type from the test (`Property.wrapsOnce_iff_not_reference`).
-/

namespace AliasBinding

/-! ### Fields and returns -/

namespace PropertyParts

/-- The declaration begins with the backing field, of the type `fieldType`, and ends with the
return of `returned` from the getter. -/
def Keeps (d : PropertyParts) (field fieldType returned : String) : Prop :=
  ∃ between, d.lines = ⟨0, "private " ++ fieldType ++ " " ++ field ++ ";"⟩ :: between
    ++ [⟨2, "return " ++ returned ++ ";"⟩, ⟨1, Draft.closingBrace⟩, ⟨0, Draft.closingBrace⟩]

/-- The field and the return are as they should be for a property whose type is `u` behind its
by-reference marks: the field is made nullable exactly when `u` is a value type to which null was
not added. -/
def WrapsOnce (d : PropertyParts) (field : String) (u : TypeExpr) : Prop :=
  if u.isValueType = true ∧ u.isNullable = false then
    d.Keeps field (d.type ++ "?") (field ++ ".Value")
  else d.Keeps field d.type field

variable {d : PropertyParts} {field fieldType returned : String}

/-- There is one type of the field, and one thing that is returned. -/
theorem Keeps.unique {fieldType' returned' : String} (h : d.Keeps field fieldType returned)
    (h' : d.Keeps field fieldType' returned') :
  fieldType = fieldType' ∧ returned = returned'
  := by
  obtain ⟨between, hlines⟩ := h
  obtain ⟨between', hlines'⟩ := h'
  rw [hlines] at hlines'
  obtain ⟨hfield, htail⟩ := List.append_inj' hlines' rfl
  have hfieldText := congrArg Line.text (List.cons.inj hfield).1
  have hreturnText := congrArg Line.text (List.cons.inj htail).1
  dsimp only at hfieldText hreturnText
  rw [String.append_left_inj, String.append_left_inj, String.append_left_inj,
    String.append_right_inj] at hfieldText
  rw [String.append_left_inj, String.append_right_inj] at hreturnText
  exact ⟨hfieldText, hreturnText⟩

/-- Whether the type is made nullable shows in the field and in the return. -/
theorem keeps_iff (h : d.field? = some field) :
  d.Keeps field fieldType returned
    ↔ fieldType = d.type ++ (if d.isWrapped then "?" else "")
      ∧ returned = field ++ (if d.isWrapped then ".Value" else "")
  := by
  have hkeeps : d.Keeps field (d.type ++ if d.isWrapped then "?" else "")
      (field ++ if d.isWrapped then ".Value" else "") := by
    use Obsolete.lines d.obsolete?
      ++ [⟨0, "public " ++ d.type ++ " " ++ d.name⟩, ⟨0, "\x7b"⟩, ⟨1, "get"⟩, ⟨1, "\x7b"⟩,
        ⟨2, "if (" ++ field ++ " == null)"⟩, ⟨2, "\x7b"⟩,
        ⟨3, field ++ " = " ++ (d.owner ++ "." ++ d.name ++ "(" ++ d.argument.text ++ ")")
          ++ ";"⟩,
        ⟨2, Draft.closingBrace⟩]
    rw [lines, reading, h]
    simp [fieldLine, String.append_assoc]
  constructor
  · intro h'
    apply h'.unique hkeeps
  · rintro ⟨rfl, rfl⟩
    apply hkeeps

theorem wrapsOnce_iff {u : TypeExpr} (h : d.field? = some field) :
  d.WrapsOnce field u ↔ (d.isWrapped = true ↔ u.isValueType = true ∧ u.isNullable = false)
  := by
  have hwrapped : d.Keeps field (d.type ++ "?") (field ++ ".Value") ↔ d.isWrapped = true := by
    rw [keeps_iff h]
    cases d.isWrapped with
    | true | false => simp
  have hplain : d.Keeps field d.type field ↔ d.isWrapped = false := by
    have hne : d.type ≠ d.type ++ "?" := fun h => by simpa using h.symm
    rw [keeps_iff h]
    cases d.isWrapped with
    | true => simp [hne]
    | false => simp
  rw [WrapsOnce]
  split
  case isTrue hvalue => rw [hwrapped, iff_true_right hvalue]
  case isFalse hvalue => rw [hplain, iff_false_right hvalue, Bool.not_eq_true]

end PropertyParts

/-! ### The test for value types -/

namespace Property

/-- The field is made nullable for a value type that is not openly nullable. -/
theorem needsNullableField_iff {p : Property} :
  p.needsNullableField = true ↔ p.type.isValueType = true ∧ p.type.isNullable = false
  := by
  rw [needsNullableField]
  cases p.type with
  | nullable inner => simp [TypeExpr.isNullable]
  | named | parameter | array | byRef => simp [TypeExpr.isNullable]

/-- The test is the same for the type behind by-reference marks, unless they hide that it is
nullable. -/
theorem needsNullableField_iff_target {p : Property} :
  (p.needsNullableField = true
      ↔ p.type.target.isValueType = true ∧ p.type.target.isNullable = false)
    ↔ ¬p.type.IsReferenceToNullable
  := by
  rw [needsNullableField_iff, TypeExpr.isValueType_target]
  constructor
  · intro h hreference
    have htarget := TypeExpr.isNullable_target_iff.mpr (.inr hreference)
    have hvalue := TypeExpr.isValueType_of_isNullable htarget
    rw [TypeExpr.isValueType_target] at hvalue
    have hopen := TypeExpr.isNullable_eq_false_of_isReferenceToNullable hreference
    rw [(h.mp ⟨hvalue, hopen⟩).2] at htarget
    cases htarget
  · intro hreference
    apply and_congr_right'
    rw [← Bool.not_eq_true, ← Bool.not_eq_true, TypeExpr.isNullable_target_iff,
      or_iff_left hreference]

/-! ### The backing field of a property -/

/-- The backing field of a cached property is made nullable exactly for value types that are not
nullable, and the getter returns accordingly, if and only if the type is no reference to a
nullable type.  For such a reference, a second question mark is added in the field, and the value
is taken out in the return. -/
theorem wrapsOnce_iff_not_reference {style : Style} {namespaces : NameSet} {p : Property}
    {text : String} (hcached : p.cached = true)
    (h : (⟨namespaces, .property p⟩ : Alias).Declares style text) :
  ∃ d, p.parts style = .ok d ∧ text = Line.join style d.lines
    ∧ p.type.text style.qualify = .ok d.type
    ∧ (d.WrapsOnce p.fieldName p.type.target ↔ ¬p.type.IsReferenceToNullable)
    ∧ (p.type.IsReferenceToNullable → ∃ s, d.type = s ++ "?"
      ∧ d.Keeps p.fieldName (s ++ "??") (p.fieldName ++ ".Value"))
  := by
  obtain ⟨d, hd, rfl⟩ := declares_iff.mp h
  obtain ⟨type, owner, -, -, -, htype, -, rfl⟩ := parts_eq_ok_iff.mp hd
  have hfield : p.field? = some p.fieldName := if_pos hcached
  refine ⟨_, hd, rfl, htype, ?_, ?_⟩
  · rw [PropertyParts.wrapsOnce_iff hfield, ← needsNullableField_iff_target]
  · intro hreference
    have htarget := TypeExpr.isNullable_target_iff.mpr (.inr hreference)
    have hvalue := TypeExpr.isValueType_of_isNullable htarget
    rw [TypeExpr.isValueType_target] at hvalue
    have hopen := TypeExpr.isNullable_eq_false_of_isReferenceToNullable hreference
    have hneeds := needsNullableField_iff.mpr ⟨hvalue, hopen⟩
    rw [← TypeExpr.text_target] at htype
    obtain ⟨s, rfl⟩ := TypeExpr.text_of_isNullable htarget htype
    use s, rfl
    rw [PropertyParts.keeps_iff hfield, if_pos hneeds, if_pos hneeds, String.append_assoc]
    exact ⟨rfl, rfl⟩

end Property

/-- A cached property that hands over a number by reference. -/
def depthByReference : Property where
  name := "Depth"
  owner := .plain "Tools" "ToolAliases"
  type := .byRef (.plain "System" "Int32")
  cached := true
  obsolete? := none

theorem Property.wrapsOnce_iff_not_reference_depth :
  depthByReference.cached = true
    ∧ (⟨.empty, .property depthByReference⟩ : Alias).Declares {}
      ("private int? _Depth;\npublic int Depth\n\x7b\n    get\n    \x7b\n"
        ++ "        if (_Depth == null)\n        \x7b\n"
        ++ "            _Depth = Tools.ToolAliases.Depth(Context);\n        \x7d\n"
        ++ "        return _Depth.Value;\n    \x7d\n\x7d")
    ∧ ∃ d, depthByReference.parts {} = .ok d
      ∧ d.WrapsOnce "_Depth" (.plain "System" "Int32")
  := by
  have hdeclares : (⟨.empty, .property depthByReference⟩ : Alias).Declares {}
      ("private int? _Depth;\npublic int Depth\n\x7b\n    get\n    \x7b\n"
        ++ "        if (_Depth == null)\n        \x7b\n"
        ++ "            _Depth = Tools.ToolAliases.Depth(Context);\n        \x7d\n"
        ++ "        return _Depth.Value;\n    \x7d\n\x7d") := by
    apply Alias.declaration_eq_ok_iff.mp
    decide +kernel
  obtain ⟨d, hd, -, -, hwraps, -⟩ := wrapsOnce_iff_not_reference rfl hdeclares
  use rfl, hdeclares, d, hd
  apply hwraps.mpr
  rintro ⟨inner, heq, hinner⟩
  cases heq
  cases hinner

/-- A cached property that hands over a nullable number by reference. -/
def exitCodeByReference : Property where
  name := "ExitCode"
  owner := .plain "Tools" "ToolAliases"
  type := .byRef (.nullable (.plain "System" "Int32"))
  cached := true
  obsolete? := none

/-- The property is verified, and its field is made nullable although its type is. -/
theorem nullable_by_reference_is_wrapped_twice :
  Alias.verify [⟨.empty, .property exitCodeByReference⟩] = []
    ∧ (⟨.empty, .property exitCodeByReference⟩ : Alias).Declares {}
      ("private int?? _ExitCode;\npublic int? ExitCode\n\x7b\n    get\n    \x7b\n"
        ++ "        if (_ExitCode == null)\n        \x7b\n"
        ++ "            _ExitCode = Tools.ToolAliases.ExitCode(Context);\n        \x7d\n"
        ++ "        return _ExitCode.Value;\n    \x7d\n\x7d")
    ∧ ∃ d, exitCodeByReference.parts {} = .ok d
      ∧ d.Keeps "_ExitCode" "int??" "_ExitCode.Value"
      ∧ ¬d.WrapsOnce "_ExitCode" exitCodeByReference.type.target
  := by
  have hdeclares : (⟨.empty, .property exitCodeByReference⟩ : Alias).Declares {}
      ("private int?? _ExitCode;\npublic int? ExitCode\n\x7b\n    get\n    \x7b\n"
        ++ "        if (_ExitCode == null)\n        \x7b\n"
        ++ "            _ExitCode = Tools.ToolAliases.ExitCode(Context);\n        \x7d\n"
        ++ "        return _ExitCode.Value;\n    \x7d\n\x7d") := by
    apply Alias.declaration_eq_ok_iff.mp
    decide +kernel
  obtain ⟨d, hd, -⟩ := Property.declares_iff.mp hdeclares
  obtain ⟨type, owner, -, -, -, htype, -, hparts⟩ := Property.parts_eq_ok_iff.mp hd
  have htypeText : type = "int?" := by
    cases htype
    rfl
  have hfield : d.field? = some "_ExitCode" := by
    rw [hparts]
    rfl
  have hwrapped : d.isWrapped = true := by
    rw [hparts]
    rfl
  refine ⟨by decide, hdeclares, d, hd, ?_, ?_⟩
  · rw [PropertyParts.keeps_iff hfield, hparts, htypeText]
    exact ⟨rfl, rfl⟩
  · rw [PropertyParts.wrapsOnce_iff hfield, hwrapped]
    decide

end AliasBinding
