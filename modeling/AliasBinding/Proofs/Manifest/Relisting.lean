import AliasBinding.Proofs.Manifest.Records
import AliasBinding.Proofs.Manifest.Shapes

/-!
# Namespaces listed anew

A set of names does not depend on how its names are listed: in which order, or how often
(`NameSet.insertAll_eq`).  So an alias is read the same of a value in which its namespaces are
listed anew (`Alias.Relists.keeps`), and so is a manifest (`Manifest.Relists.keeps`).
-/

namespace AliasBinding

open Json

/-- The lists have the same members, be it in another order or another number of times. -/
def SameMembers {α : Type} (xs ys : List α) : Prop := ∀ x, x ∈ xs ↔ x ∈ ys

namespace SameMembers

variable {α : Type} {xs ys : List α}

theorem symm (h : SameMembers xs ys) :
  SameMembers ys xs
  := fun x => (h x).symm

/-- What holds for some member, or for all of them, does not depend on the listing. -/
theorem exists_iff (h : SameMembers xs ys) (P : α → Prop) :
  (∃ x ∈ xs, P x) ↔ ∃ y ∈ ys, P y
  := by
  simp only [h _]

theorem forall_iff (h : SameMembers xs ys) (P : α → Prop) :
  (∀ x ∈ xs, P x) ↔ ∀ y ∈ ys, P y
  := by
  simp only [h _]

end SameMembers

theorem NameSet.insertAll_eq {names names' : List String} (h : SameMembers names names')
    (s : NameSet) :
  s.insertAll names = s.insertAll names'
  := by
  ext ns
  rw [mem_insertAll, mem_insertAll, h ns]

/-! ### Aliases -/

namespace Alias

/-- The value of an alias, with its namespaces listed anew or left as they are. -/
inductive Relists : Json → Json → Prop where
  | same (v : Json) : Relists v v
  | names (before after : List (String × Json)) {names names' : List String}
      (h : SameMembers names names') :
      Relists (.object (before ++ ("namespaces", .array (names.map .string)) :: after))
        (.object (before ++ ("namespaces", .array (names'.map .string)) :: after))

theorem Relists.symm {v v' : Json} (h : Relists v v') :
  Relists v' v
  := by
  cases h with
  | same => apply Relists.same
  | names before after h => apply Relists.names before after h.symm

/-- The namespaces are none of the other members. -/
theorem others_insert (before after : List (String × Json)) (v : Json) :
  others (before ++ ("namespaces", v) :: after) = others (before ++ after)
  := by
  simp [others]

theorem asList_strings (names : List String) :
  asList asString (.array (names.map .string)) = .ok names
  := by
  apply asList_map
  intro _ _
  rfl

/-- An alias is read of its value when its namespaces are listed anew. -/
theorem Relists.keeps {v v' : Json} (h : Relists v v') :
  Keeps (ofJson v) (ofJson v')
  := by
  cases h with
  | same => apply keeps_refl
  | @names before after names names' h =>
    intro a ha
    rw [ofJson_object_eq_ok_iff, others_insert] at ha ⊢
    obtain ⟨y, member, hy, hmember, rfl⟩ := ha
    obtain ⟨habsent, x, hx, rfl⟩ := absent_of_find_insert (f := namespacesField) hy
    cases (asList_strings names).symm.trans hx
    use some names', member,
      find_insert_of_absent (f := namespacesField) (asList_strings names') habsent, hmember
    rw [Option.getD_some, Option.getD_some, NameSet.ofList, NameSet.insertAll_eq h.symm]
    rfl

end Alias

/-! ### Manifests -/

/-- A list is kept when its items are. -/
theorem keeps_asList {α : Type} {read : Json → Read α} {vs vs' : List Json}
    (h : List.Forall₂ (fun v v' => Keeps (read v) (read v')) vs vs') :
  Keeps (asList read (.array vs)) (asList read (.array vs'))
  := by
  rw [asList, asList]
  induction h with
  | nil => apply keeps_refl
  | cons hv _ ih =>
    rw [List.mapM_cons, List.mapM_cons]
    apply hv.bind
    intro _
    apply ih.bind_left

namespace Manifest

/-- The value of a manifest, with the namespaces of some of its aliases listed anew. -/
inductive Relists : Json → Json → Prop where
  | object (before after : List (String × Json)) {vs vs' : List Json}
      (h : List.Forall₂ Alias.Relists vs vs') :
      Relists (.object (before ++ ("aliases", .array vs) :: after))
        (.object (before ++ ("aliases", .array vs') :: after))
  | array (module : Json) (after : List Json) {vs vs' : List Json}
      (h : List.Forall₂ Alias.Relists vs vs') :
      Relists (.array (module :: .array vs :: after)) (.array (module :: .array vs' :: after))

theorem Relists.symm {v v' : Json} (h : Relists v v') :
  Relists v' v
  := by
  cases h with
  | object before after h =>
    apply Relists.object before after
    apply h.flip.imp
    intro _ _ h
    apply h.symm
  | array module after h =>
    apply Relists.array module after
    apply h.flip.imp
    intro _ _ h
    apply h.symm

/-- A manifest is read of its value when namespaces in it are listed anew. -/
theorem Relists.keeps {v v' : Json} (h : Relists v v') :
  Keeps (ofJson v) (ofJson v')
  := by
  have haliases {vs vs' : List Json} (h : List.Forall₂ Alias.Relists vs vs') :
      Keeps (asList Alias.ofJson (.array vs)) (asList Alias.ofJson (.array vs')) := by
    apply keeps_asList
    apply h.imp
    intro _ _ h
    apply h.keeps
  cases h with
  | @object before after vs vs' h =>
    have hfield : ⟨"aliases", asList Alias.ofJson, some []⟩ ∈ fields := by simp [fields, slots]
    have hrecord := Record.ofManifest (before ++ ("aliases", .array vs) :: after)
    apply hrecord.keeps
    apply agree_replace hrecord.distinct hfield
    apply haliases h
  | array module after h => apply (Position.aliases module).keeps (haliases h) after

end Manifest

end AliasBinding
