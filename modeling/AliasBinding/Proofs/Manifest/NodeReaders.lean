import AliasBinding.Proofs.Json.Values
import AliasBinding.Proofs.Manifest.Records

/-!
# Readers of nodes and of values

The readers of a text take a node apart as they come to it, those of a value know it as a whole.
They read the same where the node has a value, and the readers of nodes read nothing of a node
without one (`Mirrors`), nor of an array whose items are read as its fields (`MirrorsFields`).  This
holds up to the aliases (`mirrors_readAlias`); a manifest is read of more nodes than have a value.
-/

namespace AliasBinding

open Json Json.Node

/-! ### Readers of nodes and of values -/

namespace Manifest

/-- A reader of nodes has what a reader of values has of the values of the nodes, in which at
most `room` lists may be open at once. -/
def Mirrors {α : Type} (room : Nat) (read : Node → Except Fault α) (readValue : Json → Read α) :
    Prop :=
  ∀ {n : Node} {x : α}, read n = .ok x ↔ ∃ v, n.toJson room = .ok v ∧ readValue v = .ok x

theorem mirrors_readString (room : Nat) :
  Mirrors room readString asString
  := by
  intro n s
  simp only [toJson_eq_ok_iff]
  constructor
  · intro h
    cases n with
    | text read => exact ⟨.string s, .string room h, rfl⟩
    | absent | word | number | array | object => cases h
  · rintro ⟨v, hv, h⟩
    cases hv with
    | string _ hs =>
      cases h
      apply hs
    | null | bool | integer | float | array | object => cases h

theorem mirrors_readOptionalString (room : Nat) :
  Mirrors room readOptionalString (asOption asString)
  := by
  intro n s
  simp only [toJson_eq_ok_iff]
  constructor
  · intro h
    cases n with
    | text read =>
      obtain ⟨s, hs, rfl⟩ := map_eq_ok_iff.mp h
      exact ⟨.string s, .string room hs, rfl⟩
    | word read =>
      obtain _ | _ | b := read
      · cases h
      · cases h
        exact ⟨.null, .null room, rfl⟩
      · cases h
    | absent | number | array | object => cases h
  · rintro ⟨v, hv, h⟩
    cases hv with
    | null =>
      cases h
      rfl
    | string _ hs =>
      cases h
      apply map_eq_ok_iff.mpr ⟨_, hs, rfl⟩
    | bool | integer | float | array | object => cases h

theorem mirrors_readList {α : Type} {room : Nat} {read : Node → Except Fault α}
    {readValue : Json → Read α} (hread : Mirrors room read readValue) :
  Mirrors (room + 1) (readList read) (asList readValue)
  := by
  intro n xs
  simp only [toJson_eq_ok_iff]
  constructor
  · intro h
    cases n with
    | array items ending =>
      obtain ⟨values, hvalues, h⟩ := bind_eq_ok_iff.mp h
      obtain ⟨_, rfl, h⟩ := bind_eq_ok_iff.mp h
      cases h
      obtain ⟨vs, hvs, hvalues⟩ := (mapM_eq_ok_iff_of_comp hread).mp hvalues
      exact ⟨.array vs, .array (mapM_eq_ok_iff.mp hvs), hvalues⟩
    | absent | word | number | text | object => cases h
  · rintro ⟨v, hv, h⟩
    cases hv with
    | array hvs =>
      apply bind_eq_ok ((mapM_eq_ok_iff_of_comp hread).mpr ⟨_, mapM_eq_ok_iff.mpr hvs, h⟩)
      rfl
    | null | bool | integer | float | string | object => cases h

/-- A field is put into its place when the place is empty, be it read of a node or of its value. -/
theorem Mirrors.put_eq_ok_iff {α σ : Type} {room : Nat} {read : Node → Except Fault α}
    {readValue : Json → Read α} (hread : Mirrors room read readValue) {n : Node} (name : String)
    (present : Option α) (put : Option α → σ) {s : σ} :
  (refuseSecond name present >>= fun _ => read n >>= fun x => pure (put (some x))) = .ok s
    ↔ ∃ v, n.toJson room = .ok v ∧ put <$> readOnce name present (readValue v) = .ok s
  := by
  cases present with
  | some x =>
    constructor
    · nofun
    · rintro ⟨v, -, h⟩
      cases h
  | none =>
    constructor
    · intro h
      obtain ⟨_, -, h⟩ := bind_eq_ok_iff.mp h
      obtain ⟨x, hx, h⟩ := bind_eq_ok_iff.mp h
      cases h
      obtain ⟨v, hv, hx⟩ := hread.mp hx
      exact ⟨v, hv, map_eq_ok_iff.mpr ⟨some x, map_eq_ok_iff.mpr ⟨x, hx, rfl⟩, rfl⟩⟩
    · rintro ⟨v, hv, h⟩
      obtain ⟨_, hsome, rfl⟩ := map_eq_ok_iff.mp h
      obtain ⟨x, hx, rfl⟩ := map_eq_ok_iff.mp hsome
      apply bind_eq_ok rfl
      apply bind_eq_ok (hread.mpr ⟨v, hv, hx⟩)
      rfl

/-! ### Fields in an array -/

section MirrorsFields

variable {α β : Type} {room : Nat} {ending : Except Fault Unit} {n : Node} {items : List Node}

/-- The outcome of reading the items of an array to its end is what `fields` takes of their
values. -/
def MirrorsFields (room : Nat) (ending : Except Fault Unit) (items : List Node)
    (outcome : Except Fault α) (fields : Fields α) : Prop :=
  ∀ a, outcome = .ok a ↔ ending = .ok ()
    ∧ ∃ vs, List.Forall₂ (fun n v => n.toJson room = .ok v) items vs
      ∧ Fields.takeAll fields vs = .ok a

/-- A field is read of the next item. -/
theorem Mirrors.next {read : Node → Except Fault α} {readValue : Json → Read α}
    (hread : Mirrors room read readValue) {default : α} {outcome : α → Except Fault β}
    {fields : α → Fields β}
    (h : ∀ a, MirrorsFields room ending items (outcome a) (fields a)) :
  MirrorsFields room ending (n :: items) (read n >>= outcome)
    (Fields.nextOr default readValue >>= fields)
  := by
  intro b
  rw [bind_eq_ok_iff]
  constructor
  · rintro ⟨a, ha, hb⟩
    obtain ⟨v, hv, ha⟩ := hread.mp ha
    obtain ⟨hending, vs, hvs, hb⟩ := (h a b).mp hb
    refine ⟨hending, v :: vs, .cons hv hvs, ?_⟩
    rw [takeAll_nextOr]
    apply bind_eq_ok ha hb
  · rintro ⟨hending, vs, hvs, hb⟩
    cases hvs with
    | cons hv hvs =>
      rw [takeAll_nextOr] at hb
      obtain ⟨a, ha, hb⟩ := bind_eq_ok_iff.mp hb
      exact ⟨a, hread.mpr ⟨_, hv, ha⟩, (h a b).mpr ⟨hending, _, hvs, hb⟩⟩

/-- A field is left out. -/
theorem MirrorsFields.leftOut {outcome : Except Fault β} {default : α} {fields : α → Fields β}
    (h : MirrorsFields room ending [] outcome (fields default)) (readValue : Json → Read α) :
  MirrorsFields room ending [] outcome (Fields.nextOr default readValue >>= fields)
  := by
  intro b
  simp only [h b, List.forall₂_nil_left_iff, exists_eq_left, takeAll_nextOr_nil]

/-- The array ends behind the fields. -/
theorem mirrorsFields_pure (a : α) :
  MirrorsFields room ending [] (ending >>= fun _ => pure a) (pure a)
  := by
  intro b
  simp only [bind_eq_ok_iff, List.forall₂_nil_left_iff, exists_eq_left]
  constructor
  · rintro ⟨_, hending, hb⟩
    cases hb
    exact ⟨hending, rfl⟩
  · rintro ⟨hending, hb⟩
    cases hb
    exact ⟨(), hending, rfl⟩

/-- An item behind the fields is refused. -/
theorem mirrorsFields_excess (a : α) (fault : Fault) :
  MirrorsFields room ending (n :: items) (.error fault) (pure a)
  := by
  intro b
  constructor
  · nofun
  · rintro ⟨-, vs, hvs, hb⟩
    cases hvs with
    | cons => cases hb

end MirrorsFields

/-! ### Aliases -/

/-- Reads a member of an alias from its value: namespaces are put into their field, and anything
else is held back. -/
def AliasParts.readValue (parts : AliasParts) (name : String) (v : Json) : Read AliasParts :=
  if name = "namespaces" then
    (fun x => { parts with namespaces? := x }) <$>
      readOnce name parts.namespaces? (asList asString v)
  else .ok { parts with members := (name, v) :: parts.members }

/-- A member of an alias is read like the member of its value. -/
theorem AliasParts.read_eq_ok_iff (parts : AliasParts) (m : Quoted × Node)
    (parts' : AliasParts) :
  parts.read m = .ok parts'
    ↔ ∃ nv, MemberValue aliasDepth m nv ∧ parts.readValue nv.1 nv.2 = .ok parts'
  := by
  have hnames : Mirrors aliasDepth (readList readString) (asList asString) :=
    mirrors_readList (mirrors_readString 123)
  have hput {n : Node} (name : String) {s : AliasParts} :=
    hnames.put_eq_ok_iff (n := n) (s := s) name parts.namespaces?
      fun x => { parts with namespaces? := x }
  rw [read, bind_eq_ok_iff]
  constructor
  · rintro ⟨name, hname, h⟩
    split at h
    case isTrue hnamespaces =>
      obtain ⟨v, hv, h⟩ := (hput name).mp h
      refine ⟨(name, v), ⟨hname, hv⟩, ?_⟩
      rw [readValue, if_pos hnamespaces]
      apply h
    case isFalse hnamespaces =>
      obtain ⟨v, hv, h⟩ := bind_eq_ok_iff.mp h
      cases h
      refine ⟨(name, v), ⟨hname, hv⟩, ?_⟩
      rw [readValue, if_neg hnamespaces]
  · rintro ⟨⟨name, v⟩, ⟨hname, hv⟩, h⟩
    rw [readValue] at h
    use name, hname
    split at h
    case isTrue hnamespaces =>
      rw [if_pos hnamespaces]
      apply (hput name).mpr ⟨v, hv, h⟩
    case isFalse hnamespaces =>
      rw [if_neg hnamespaces]
      cases h
      apply bind_eq_ok hv
      rfl

/-- The members of an alias are collected into its namespaces and those that are held back. -/
theorem foldMembers_readValue (parts : AliasParts) (ms : List (String × Json)) :
  foldMembers AliasParts.readValue parts ms
    = (fun y => (⟨y, (Alias.others ms).reverse ++ parts.members⟩ : AliasParts)) <$>
      Alias.namespacesField.collect parts.namespaces? (contents "namespaces" ms)
  := by
  induction ms generalizing parts with
  | nil => rfl
  | cons m ms ih =>
    obtain ⟨name, v⟩ := m
    change (parts.readValue name v >>= fun next => foldMembers AliasParts.readValue next ms) = _
    simp only [ih]
    by_cases hname : name = "namespaces"
    · subst hname
      rw [contents_cons_same, Field.collect_cons, map_bind, Alias.others_cons_same,
        AliasParts.readValue, if_pos rfl, bind_map_left]
    · rw [contents_cons_of_ne hname, Alias.others_cons_of_ne hname, AliasParts.readValue,
        if_neg hname, List.reverse_cons, List.append_assoc]
      rfl

theorem foldlM_aliasParts_read_eq_ok_iff {parts : AliasParts} {members : List (Quoted × Node)} :
  members.foldlM AliasParts.read {} = .ok parts
    ↔ ∃ ms, List.Forall₂ (MemberValue aliasDepth) members ms
      ∧ ∃ y, Alias.namespacesField.find ms = .ok y ∧ ⟨y, (Alias.others ms).reverse⟩ = parts
  := by
  apply (foldlM_eq_ok_iff_of_comp AliasParts.read_eq_ok_iff).trans
  apply exists_congr
  intro ms
  apply and_congr_right
  intro _
  change foldMembers AliasParts.readValue {} ms = .ok parts ↔ _
  rw [foldMembers_readValue, map_eq_ok_iff, List.append_nil]
  rfl

theorem mismatch_eq_ok_iff {α : Type} {x : Read α} {a : α} :
  mismatch x = .ok a ↔ x = .ok a
  := by
  cases x with
  | ok a' => simp [mismatch, Except.mapError]
  | error e => simp [mismatch, Except.mapError]

theorem readAlias_object_eq_ok_iff {members : List (Quoted × Node)}
    {ending : Except Fault Unit} {a : Alias} :
  readAlias (.object members ending) = .ok a
    ↔ ∃ parts, members.foldlM AliasParts.read {} = .ok parts ∧ ending = .ok ()
      ∧ ∃ member, Member.ofMembers parts.members.reverse = .ok member
        ∧ (⟨.ofList (parts.namespaces?.getD []), member⟩ : Alias) = a
  := by
  rw [readAlias, bind_eq_ok_iff]
  simp only [bind_eq_ok_iff, mismatch_eq_ok_iff, pure, Except.pure, Except.ok.injEq]
  constructor
  · rintro ⟨parts, hparts, _, hending, h⟩
    exact ⟨parts, hparts, hending, h⟩
  · rintro ⟨parts, hparts, hending, h⟩
    exact ⟨parts, hparts, (), hending, h⟩

theorem mirrors_readAlias :
  Mirrors (aliasDepth + 1) readAlias Alias.ofJson
  := by
  intro n a
  simp only [toJson_eq_ok_iff]
  constructor
  · intro h
    cases n with
    | object members ending =>
      obtain ⟨parts, hparts, rfl, member, hmember, rfl⟩ := readAlias_object_eq_ok_iff.mp h
      obtain ⟨ms, hms, y, hy, rfl⟩ := foldlM_aliasParts_read_eq_ok_iff.mp hparts
      rw [List.reverse_reverse] at hmember
      refine ⟨.object ms, .object hms, ?_⟩
      apply Alias.ofJson_object_eq_ok_iff.mpr ⟨y, member, hy, hmember, rfl⟩
    | absent | word | number | text | array => cases h
  · rintro ⟨v, hv, h⟩
    cases hv with
    | @object _ members ms hms =>
      obtain ⟨y, member, hy, hmember, rfl⟩ := Alias.ofJson_object_eq_ok_iff.mp h
      have hparts := foldlM_aliasParts_read_eq_ok_iff.mpr ⟨ms, hms, y, hy, rfl⟩
      apply readAlias_object_eq_ok_iff.mpr ⟨_, hparts, rfl, member, ?_, rfl⟩
      rw [List.reverse_reverse]
      apply hmember
    | null | bool | integer | float | string | array => cases h

end Manifest

end AliasBinding
