import AliasBinding.Manifest.AliasShape
import AliasBinding.Proofs.Outcome

/-!
# Shapes read back

Every record of a manifest is read back to what it was written from: a type, a default, a
parameter, a type parameter, an obsolete mark and a member (`Member.ofMembers_toMembers`).  The
records have all their fields, so each field is read once and none is left to its default.  A
real default is read back as well, for a double stands for itself in a value.
-/

namespace AliasBinding

open Json

namespace Json

/-! ### Simple values -/

theorem asUInt8_toNat (n : UInt8) :
  asUInt8 (.integer n.toNat) = .ok n
  := by
  have h : (0 : Int) ≤ n.toNat ∧ (n.toNat : Int) < 256 := by
    have := n.toNat_lt
    omega
  rw [asUInt8, if_pos h]
  simp

theorem asInt64_toInt (n : Int64) :
  asInt64 (.integer n.toInt) = .ok n
  := by
  have h : Int64.minValue.toInt ≤ n.toInt ∧ n.toInt ≤ Int64.maxValue.toInt :=
    ⟨n.minValue_le_toInt, n.toInt_le⟩
  rw [asInt64, if_pos h, Int64.ofInt_toInt]

theorem asChar_singleton (c : Char) :
  asChar (.string (String.singleton c)) = .ok c
  := by
  rw [asChar, String.toList_singleton]

theorem asOption_optionalText (s : Option String) :
  asOption asString (TypeExpr.optionalText s) = .ok s
  := by
  cases s with
  | none => rfl
  | some s => rfl

/-- A list is read back when each item is. -/
theorem asList_map {α : Type} {read : Json → Read α} {written : α → Json} {xs : List α}
    (h : ∀ x ∈ xs, read (written x) = .ok x) :
  asList read (.array (xs.map written)) = .ok xs
  := by
  rw [asList, mapM_eq_ok_iff, List.forall₂_map_left_iff, List.forall₂_same]
  apply h

/-! ### Fields -/

/-- A field that was not read before is taken over. -/
theorem map_readOnce_none {α σ : Type} {name : String} {read : Read α} {a : α}
    (h : read = .ok a) (f : Option α → σ) :
  f <$> readOnce name none read = .ok (f (some a))
  := by
  rw [h]
  rfl

/-- The members of an object are read one after the other. -/
theorem foldMembers_cons {σ : Type} {step : σ → String → Json → Read σ}
    {state state' final : σ} {name : String} {value : Json} {members : List (String × Json)}
    (h : step state name value = .ok state')
    (hmembers : foldMembers step state' members = .ok final) :
  foldMembers step state ((name, value) :: members) = .ok final
  := by
  rw [foldMembers, List.foldlM_cons, h]
  apply hmembers

end Json

/-! ### Types -/

namespace TypeExpr

/-- The members of the record of a type are read one after the other. -/
theorem ofMembers_cons {kind : Kind} {fields fields' final : Partial} {name : String}
    {value : Json} {members : List (String × Json)} {read : Read Partial}
    (hread : ∀ rest, ofMembers kind fields ((name, value) :: rest)
      = read >>= fun fields => ofMembers kind fields rest)
    (h : read = .ok fields') (hmembers : ofMembers kind fields' members = .ok final) :
  ofMembers kind fields ((name, value) :: members) = .ok final
  := by
  rw [hread, h]
  apply hmembers

/-- The record of a type is read by its tag, and then by its fields. -/
theorem ofJson_object {kind : Kind} {members : List (String × Json)} {fields : Partial}
    {t : TypeExpr} (hkind : tagOf "type" Kind.table members = .ok kind)
    (hfields : ofMembers kind {} members = .ok fields) (ht : fields.assemble kind = .ok t) :
  ofJson (.object members) = .ok t
  := by
  apply bind_eq_ok hkind
  apply bind_eq_ok hfields ht

mutual

/-- A type is read back from its record. -/
theorem ofJson_toJson :
  ∀ t : TypeExpr, ofJson t.toJson = .ok t
  | .named ns name arguments isValue => by
    have harguments : listOfJson (.array (toItems arguments)) = .ok arguments :=
      ofItems_toItems arguments
    apply ofJson_object rfl
    · apply ofMembers_cons (fun _ => rfl) rfl
      apply ofMembers_cons (fun _ => rfl) (map_readOnce_none (asOption_optionalText ns) _)
      apply ofMembers_cons (fun _ => rfl) rfl
      apply ofMembers_cons (fun _ => rfl) (map_readOnce_none harguments _)
      apply ofMembers_cons (fun _ => rfl) rfl
      rfl
    · rfl
  | .parameter name => rfl
  | .array element rank => by
    have hrank := asUInt8_toNat rank
    rw [toJson]
    -- Otherwise `rfl` would compare the rank with its bounds.
    generalize Json.integer rank.toNat = value at hrank ⊢
    apply ofJson_object rfl
    · apply ofMembers_cons (fun _ => rfl) rfl
      apply ofMembers_cons (fun _ => rfl) (map_readOnce_none (ofJson_toJson element) _)
      apply ofMembers_cons (fun _ => rfl) (map_readOnce_none hrank _)
      rfl
    · rfl
  | .nullable inner => by
    apply ofJson_object rfl
    · apply ofMembers_cons (fun _ => rfl) rfl
      apply ofMembers_cons (fun _ => rfl) (map_readOnce_none (ofJson_toJson inner) _)
      rfl
    · rfl
  | .byRef inner => by
    apply ofJson_object rfl
    · apply ofMembers_cons (fun _ => rfl) rfl
      apply ofMembers_cons (fun _ => rfl) (map_readOnce_none (ofJson_toJson inner) _)
      rfl
    · rfl

theorem ofItems_toItems :
  ∀ ts : List TypeExpr, ofItems (toItems ts) = .ok ts
  | [] => rfl
  | t :: ts => by
    rw [toItems, ofItems, ofJson_toJson t, ofItems_toItems ts]
    rfl

end

end TypeExpr

/-! ### Parameters -/

/-- A constant is read back from its record. -/
theorem Constant.ofJson_toJson (c : Constant) :
  ofJson c.toJson = .ok c
  := by
  cases c with
  | null | bool | float | string | zero => rfl
  | integer n =>
    change (Constant.integer <$> asInt64 (.integer n.toInt) >>= fun c => c.last []) = _
    rw [asInt64_toInt]
    rfl
  | char c =>
    change (Constant.char <$> asChar (.string (String.singleton c)) >>= fun c => c.last []) = _
    rw [asChar_singleton]
    rfl

/-- A way of passing is read back from its name. -/
theorem Passing.asPlainVariant_tag (p : Passing) :
  asPlainVariant Passing.table (.string p.tag) = .ok p
  := by
  cases p with
  | value | receiver | reference | output | input | rest => rfl

namespace Parameter

/-- A default is read back, and so is the lack of one. -/
theorem asOption_default (d : Option Constant) :
  asOption Constant.ofJson (match d with | some c => c.toJson | none => .null) = .ok d
  := by
  cases d with
  | none => rfl
  | some c =>
    have hsome : asOption Constant.ofJson c.toJson = some <$> Constant.ofJson c.toJson := by
      cases c with
      | null | bool | integer | float | string | char | zero => rfl
    change asOption Constant.ofJson c.toJson = _
    rw [hsome, Constant.ofJson_toJson]
    rfl

/-- A parameter is read back from its record. -/
theorem ofJson_toJson (p : Parameter) :
  ofJson p.toJson = .ok p
  := by
  apply bind_eq_ok
  · apply foldMembers_cons (map_readOnce_none rfl _)
    apply foldMembers_cons (map_readOnce_none p.type.ofJson_toJson _)
    apply foldMembers_cons (map_readOnce_none p.passing.asPlainVariant_tag _)
    apply foldMembers_cons (map_readOnce_none (asOption_default p.default?) _)
    rfl
  · rfl

end Parameter

/-! ### Type parameters -/

/-- A constraint is read back from its variant. -/
theorem Constraint.ofJson_toJson (c : Constraint) :
  ofJson c.toJson = .ok c
  := by
  cases c with
  | reference | value | constructible => rfl
  | subtype t =>
    change (TypeExpr.ofJson t.toJson >>= fun t => pure (subtype t)) = _
    rw [t.ofJson_toJson]
    rfl

/-- A type parameter is read back from its record. -/
theorem TypeParameter.ofJson_toJson (p : TypeParameter) :
  ofJson p.toJson = .ok p
  := by
  have hconstraints : asList Constraint.ofJson (.array (p.constraints.map Constraint.toJson))
      = .ok p.constraints := asList_map fun c _ => c.ofJson_toJson
  apply bind_eq_ok
  · apply foldMembers_cons (map_readOnce_none rfl _)
    apply foldMembers_cons (map_readOnce_none hconstraints _)
    rfl
  · rfl

/-! ### Members -/

/-- An obsolete mark is read back from its record. -/
theorem Obsolete.ofJson_toJson (o : Obsolete) :
  ofJson o.toJson = .ok o
  := by
  apply bind_eq_ok
  · apply foldMembers_cons (map_readOnce_none (asOption_optionalText o.message?) _)
    apply foldMembers_cons (map_readOnce_none rfl _)
    rfl
  · rfl

namespace Member

/-- An obsolete mark is read back, and so is the lack of one. -/
theorem asOption_obsoleteJson (o : Option Obsolete) :
  asOption Obsolete.ofJson (toMembers.obsoleteJson o) = .ok o
  := by
  cases o with
  | none => rfl
  | some o =>
    change some <$> Obsolete.ofJson o.toJson = _
    rw [o.ofJson_toJson]
    rfl

/-- A member is read back from its record. -/
theorem ofMembers_toMembers (m : Member) :
  ofMembers m.toMembers = .ok m
  := by
  cases m with
  | method m =>
    have hparameters : asList Parameter.ofJson (.array (m.parameters.map Parameter.toJson))
        = .ok m.parameters := asList_map fun p _ => p.ofJson_toJson
    have htypeParameters : asList TypeParameter.ofJson
        (.array (m.typeParameters.map TypeParameter.toJson))
        = .ok m.typeParameters := asList_map fun p _ => p.ofJson_toJson
    apply bind_eq_ok rfl
    apply bind_eq_ok
    · apply foldMembers_cons rfl
      apply foldMembers_cons (map_readOnce_none rfl _)
      apply foldMembers_cons (map_readOnce_none m.owner.ofJson_toJson _)
      apply foldMembers_cons (map_readOnce_none m.result.ofJson_toJson _)
      apply foldMembers_cons (map_readOnce_none hparameters _)
      apply foldMembers_cons (map_readOnce_none htypeParameters _)
      apply foldMembers_cons (map_readOnce_none (asOption_obsoleteJson m.obsolete?) _)
      rfl
    · rfl
  | property p =>
    apply bind_eq_ok rfl
    apply bind_eq_ok
    · apply foldMembers_cons rfl
      apply foldMembers_cons (map_readOnce_none rfl _)
      apply foldMembers_cons (map_readOnce_none p.owner.ofJson_toJson _)
      apply foldMembers_cons (map_readOnce_none p.type.ofJson_toJson _)
      apply foldMembers_cons (map_readOnce_none rfl _)
      apply foldMembers_cons (map_readOnce_none (asOption_obsoleteJson p.obsolete?) _)
      rfl
    · rfl

end Member

end AliasBinding
