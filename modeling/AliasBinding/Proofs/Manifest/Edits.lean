import AliasBinding.Proofs.Manifest.Records

/-!
# Edits of a manifest

An edit rearranges the members of a record, adds one that is no field, writes or leaves out a
field whose content is its default, or edits a field, an item of an array or the type of a
constraint (`Edit`).  What is read of the edited value is what was read of the value before
(`Edit.keeps`).
-/

namespace AliasBinding

open Json

/-- A single edit of a value that is read by `read`. -/
inductive Edit : {α : Type} → (Json → Read α) → Json → Json → Prop where
  /-- The members of a record come in another order. -/
  | permute {α : Type} {read : Json → Read α} {ms ms' : List (String × Json)}
      {fields : List Field} (hrecord : Record read ms fields) (h : ms.Perm ms') :
      Edit read (.object ms) (.object ms')
  /-- A record gets a member that is no field of it. -/
  | add {α : Type} {read : Json → Read α} (before after : List (String × Json))
      {fields : List Field} (hrecord : Record read (before ++ after) fields) {name : String}
      (hname : ∀ f ∈ fields, f.name ≠ name) (v : Json) :
      Edit read (.object (before ++ after)) (.object (before ++ (name, v) :: after))
  /-- A field that was left out is written with its default. -/
  | write {α : Type} {read : Json → Read α} (before after : List (String × Json))
      {fields : List Field} (hrecord : Record read (before ++ after) fields) {f : Field}
      (hf : f ∈ fields) (habsent : contents f.name (before ++ after) = []) {v : Json}
      {x : f.Content} (hx : f.default? = some x) (hv : f.read v = .ok x) :
      Edit read (.object (before ++ after)) (.object (before ++ (f.name, v) :: after))
  /-- A field whose content is its default is left out. -/
  | leaveOut {α : Type} {read : Json → Read α} (before after : List (String × Json))
      {fields : List Field} {f : Field} {v : Json}
      (hrecord : Record read (before ++ (f.name, v) :: after) fields) (hf : f ∈ fields)
      {x : f.Content} (hx : f.default? = some x) (hv : f.read v = .ok x) :
      Edit read (.object (before ++ (f.name, v) :: after)) (.object (before ++ after))
  /-- A field is edited. -/
  | field {α : Type} {read : Json → Read α} (before after : List (String × Json))
      {fields : List Field} {f : Field} {v v' : Json}
      (hrecord : Record read (before ++ (f.name, v) :: after) fields) (hf : f ∈ fields)
      (h : Edit f.read v v') :
      Edit read (.object (before ++ (f.name, v) :: after))
        (.object (before ++ (f.name, v') :: after))
  /-- A field of a record that is written as an array is edited. -/
  | position {α β : Type} {read : Json → Read α} {item : Json → Read β} {before : List Json}
      (hposition : Position read before item) {v v' : Json} (h : Edit item v v')
      (after : List Json) :
      Edit read (.array (before ++ v :: after)) (.array (before ++ v' :: after))
  /-- An item of a list is edited. -/
  | item {α : Type} {read : Json → Read α} (before after : List Json) {v v' : Json}
      (h : Edit read v v') :
      Edit (asList read) (.array (before ++ v :: after)) (.array (before ++ v' :: after))
  /-- What might be null is edited. -/
  | present {α : Type} {read : Json → Read α} {v v' : Json} (h : Edit read v v') :
      Edit (asOption read) v v'
  /-- The type in a constraint is edited. -/
  | constraint {v v' : Json} (h : Edit TypeExpr.ofJson v v') :
      Edit Constraint.ofJson (.object [("type", v)]) (.object [("type", v')])

namespace Edit

variable {α : Type} {read : Json → Read α} {v v' : Json}

/-- Null is not edited, and no edit makes it. -/
theorem ne_null (h : Edit read v v') :
  v ≠ .null ∧ v' ≠ .null
  := by
  induction h with
  | present _ ih => apply ih
  | permute | add | write | leaveOut | field | position | item | constraint =>
    exact ⟨nofun, nofun⟩

theorem asOption_of_ne_null (hv : v ≠ .null) :
  asOption read v = some <$> read v
  := by
  cases v with
  | null => contradiction
  | bool | integer | float | string | array | object => rfl

/-- What is read of a value is read of the edited value. -/
theorem keeps (h : Edit read v v') :
  Keeps (read v) (read v')
  := by
  induction h with
  | permute hrecord h => apply hrecord.keeps (agree_of_perm h)
  | add _ _ hrecord hname v => apply hrecord.keeps (agree_add hname v)
  | write _ _ hrecord hf habsent hx hv =>
    apply hrecord.keeps (agree_write hrecord.distinct hf hx hv habsent)
  | leaveOut _ _ hrecord hf hx hv => apply hrecord.keeps (agree_omit hrecord.distinct hf hx hv)
  | field _ _ hrecord hf _ ih => apply hrecord.keeps (agree_replace hrecord.distinct hf ih)
  | position hposition _ after ih => apply hposition.keeps ih after
  | item before after _ ih =>
    simp only [asList, List.mapM_append, List.mapM_cons]
    apply keeps_bind
    intro _
    apply (ih.bind_left _).bind_left
  | present h ih =>
    rw [asOption_of_ne_null h.ne_null.1, asOption_of_ne_null h.ne_null.2]
    apply ih.bind_left
  | constraint _ ih => apply ih.bind_left

end Edit

end AliasBinding
