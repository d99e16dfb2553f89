import AliasBinding.Json.Document
import AliasBinding.Proofs.Outcome

/-!
# Values of nodes

A node has a value when nothing is wrong in it and there is room for its depth (`HasValue`).
Such a node can be passed over as well (`pass_of_toJson`).
-/

namespace AliasBinding.Json.Node

/-! ### Values of nodes -/

/-- The name and the value of a member. -/
def MemberValue (room : Nat) (m : Quoted × Node) (nv : String × Json) : Prop :=
  m.1.decode = .ok nv.1 ∧ m.2.toJson room = .ok nv.2

/-- A node and its value, in which at most `room` lists may be open at once. -/
inductive HasValue : Nat → Node → Json → Prop where
  | null (room : Nat) : HasValue room (.word (.ok .null)) .null
  | bool (room : Nat) (b : Bool) : HasValue room (.word (.ok (.bool b))) (.bool b)
  | integer (room : Nat) {n : Numeral} {i : Int} (h : n.toJson? = some (.integer i)) :
      HasValue room (.number (.ok n)) (.integer i)
  | float (room : Nat) {n : Numeral} {x : Float} (h : n.toJson? = some (.float x)) :
      HasValue room (.number (.ok n)) (.float x)
  | string (room : Nat) {read : Quoted} {s : String} (h : read.decode = .ok s) :
      HasValue room (.text read) (.string s)
  | array {room : Nat} {items : List Node} {vs : List Json}
      (h : List.Forall₂ (fun n v => n.toJson room = .ok v) items vs) :
      HasValue (room + 1) (.array items (.ok ())) (.array vs)
  | object {room : Nat} {members : List (Quoted × Node)} {ms : List (String × Json)}
      (h : List.Forall₂ (MemberValue room) members ms) :
      HasValue (room + 1) (.object members (.ok ())) (.object ms)

theorem itemsToJson_eq (room : Nat) (items : List Node) :
  itemsToJson room items = items.mapM (toJson room)
  := by
  induction items with
  | nil =>
    rw [itemsToJson]
    rfl
  | cons item items ih => rw [itemsToJson, List.mapM_cons, ih]

/-- Reads the name and the value of a member. -/
def memberToJson (room : Nat) (m : Quoted × Node) : Except Fault (String × Json) := do
  let name ← m.1.decode
  let v ← m.2.toJson room
  return (name, v)

theorem membersToJson_eq (room : Nat) (members : List (Quoted × Node)) :
  membersToJson room members = members.mapM (memberToJson room)
  := by
  induction members with
  | nil =>
    rw [membersToJson]
    rfl
  | cons m members ih => simp [membersToJson, memberToJson, ih]

theorem membersToJson_eq_ok_iff {room : Nat} {members : List (Quoted × Node)}
    {ms : List (String × Json)} :
  membersToJson room members = .ok ms ↔ List.Forall₂ (MemberValue room) members ms
  := by
  rw [membersToJson_eq, mapM_eq_ok_iff]
  apply iff_of_eq
  congr 1
  funext m nv
  simp [MemberValue, memberToJson, bind_eq_ok_iff, pure, Except.pure, Prod.ext_iff]

/-- The value of a numeral is an integer or a double. -/
theorem exists_of_toJson?_eq_some {n : Numeral} {v : Json} (h : n.toJson? = some v) :
  (∃ i, v = .integer i) ∨ ∃ x, v = .float x
  := by
  rw [Numeral.toJson?] at h
  split at h
  · cases h
    exact .inl ⟨_, rfl⟩
  · obtain ⟨x, -, rfl⟩ := Option.map_eq_some_iff.mp h
    exact .inr ⟨x, rfl⟩

theorem hasValue_of_toJson_eq_ok {room : Nat} {n : Node} {v : Json} (h : n.toJson room = .ok v) :
  HasValue room n v
  := by
  cases n with
  | absent fault => cases h
  | word read =>
    obtain ⟨w, rfl, rfl⟩ := map_eq_ok_iff.mp h
    cases w with
    | null => apply HasValue.null
    | bool b => apply HasValue.bool
  | number read =>
    cases read with
    | error fault => cases h
    | ok n =>
      have hvalue : n.toJson? = some v := by
        rw [toJson] at h
        split at h
        · rename_i hv
          cases h
          apply hv
        · cases h
      obtain ⟨i, rfl⟩ | ⟨x, rfl⟩ := exists_of_toJson?_eq_some hvalue
      · apply HasValue.integer room hvalue
      · apply HasValue.float room hvalue
  | text read =>
    obtain ⟨s, hs, rfl⟩ := map_eq_ok_iff.mp h
    apply HasValue.string room hs
  | array items ending =>
    cases room with
    | zero => cases h
    | succ room =>
      obtain ⟨vs, hvs, h⟩ := bind_eq_ok_iff.mp h
      obtain ⟨_, rfl, h⟩ := bind_eq_ok_iff.mp h
      cases h
      rw [itemsToJson_eq, mapM_eq_ok_iff] at hvs
      apply HasValue.array hvs
  | object members ending =>
    cases room with
    | zero => cases h
    | succ room =>
      obtain ⟨ms, hms, h⟩ := bind_eq_ok_iff.mp h
      obtain ⟨_, rfl, h⟩ := bind_eq_ok_iff.mp h
      cases h
      rw [membersToJson_eq_ok_iff] at hms
      apply HasValue.object hms

theorem HasValue.toJson_eq_ok {room : Nat} {n : Node} {v : Json} (h : HasValue room n v) :
  n.toJson room = .ok v
  := by
  cases h with
  | null => rfl
  | bool => rfl
  | integer _ h => rw [toJson, h]
  | float _ h => rw [toJson, h]
  | string _ h =>
    rw [toJson, h]
    rfl
  | array h =>
    rw [← mapM_eq_ok_iff, ← itemsToJson_eq] at h
    rw [toJson, h]
    rfl
  | object h =>
    rw [← membersToJson_eq_ok_iff] at h
    rw [toJson, h]
    rfl

/-- A node has the value that is read of it. -/
theorem toJson_eq_ok_iff {room : Nat} {n : Node} {v : Json} :
  n.toJson room = .ok v ↔ HasValue room n v
  := ⟨hasValue_of_toJson_eq_ok, HasValue.toJson_eq_ok⟩

/-! ### Passing over -/

theorem decodeUnits_trail {lead : Nat} (hlead : 0xDC00 ≤ lead) (rest : List TextUnit)
    (ending : Except Fault Unit) :
  Quoted.decodeUnits ending (.surrogate lead :: rest) = .error .malformed
  := by
  rw [Quoted.decodeUnits.eq_def]
  simp only [if_pos hlead]

theorem ending_of_decodeUnits {units : List TextUnit} {ending : Except Fault Unit}
    {cs : List Char} (hcs : Quoted.decodeUnits ending units = .ok cs) :
  ending = .ok ()
  := by
  induction units using Quoted.decodeUnits.induct ending generalizing cs with
  | case1 =>
    obtain ⟨_, hending, -⟩ := map_eq_ok_iff.mp hcs
    apply hending
  | case2 c rest ih =>
    obtain ⟨cs', hcs', -⟩ := bind_eq_ok_iff.mp hcs
    apply ih hcs'
  | case3 lead rest hlead =>
    rw [decodeUnits_trail hlead] at hcs
    cases hcs
  | case4 lead hlead trail rest htrail ih =>
    simp only [Quoted.decodeUnits, if_neg hlead, if_pos htrail] at hcs
    obtain ⟨cs', hcs', -⟩ := bind_eq_ok_iff.mp hcs
    apply ih hcs'
  | case5 lead hlead trail rest htrail =>
    simp only [Quoted.decodeUnits, if_neg hlead, if_neg htrail] at hcs
    cases hcs
  | case6 lead hlead c rest =>
    simp only [Quoted.decodeUnits, if_neg hlead] at hcs
    cases hcs
  | case7 lead hlead hending =>
    simp only [Quoted.decodeUnits, if_neg hlead, hending] at hcs
    cases hcs
  | case8 lead hlead hending =>
    simp only [Quoted.decodeUnits, if_neg hlead] at hcs
    cases hcs

/-- A string that can be decoded is closed. -/
theorem ending_of_decode {t : Quoted} {s : String} (h : t.decode = .ok s) :
  t.ending = .ok ()
  := by
  obtain ⟨cs, hcs, -⟩ := map_eq_ok_iff.mp h
  apply ending_of_decodeUnits hcs

mutual

/-- A node that has a value can be passed over. -/
theorem pass_of_toJson :
  ∀ {n : Node} {room : Nat} {v : Json}, n.toJson room = .ok v → n.pass = .ok ()
  | .absent _, _, _, h => by cases h
  | .word _, _, _, h => by
    obtain ⟨w, rfl, -⟩ := map_eq_ok_iff.mp h
    rfl
  | .number read, _, _, h => by
    cases read with
    | error => cases h
    | ok => rfl
  | .text read, _, _, h => by
    obtain ⟨s, hs, -⟩ := map_eq_ok_iff.mp h
    apply ending_of_decode hs
  | .array items ending, 0, _, h => by cases h
  | .array items ending, room + 1, v, h => by
    obtain ⟨vs, hvs, h⟩ := bind_eq_ok_iff.mp h
    obtain ⟨_, rfl, h⟩ := bind_eq_ok_iff.mp h
    rw [pass, passItems_of_itemsToJson hvs]
    rfl
  | .object members ending, 0, _, h => by cases h
  | .object members ending, room + 1, v, h => by
    obtain ⟨ms, hms, h⟩ := bind_eq_ok_iff.mp h
    obtain ⟨_, rfl, h⟩ := bind_eq_ok_iff.mp h
    rw [pass, passMembers_of_membersToJson hms]
    rfl

theorem passItems_of_itemsToJson :
  ∀ {items : List Node} {room : Nat} {vs : List Json}, itemsToJson room items = .ok vs →
    passItems items = .ok ()
  | [], _, _, _ => by rw [passItems]
  | n :: items, _, _, h => by
    obtain ⟨v, hv, h⟩ := bind_eq_ok_iff.mp h
    obtain ⟨vs, hvs, h⟩ := bind_eq_ok_iff.mp h
    rw [passItems, pass_of_toJson hv, passItems_of_itemsToJson hvs]
    rfl

theorem passMembers_of_membersToJson :
  ∀ {members : List (Quoted × Node)} {room : Nat} {ms : List (String × Json)},
    membersToJson room members = .ok ms → passMembers members = .ok ()
  | [], _, _, _ => by rw [passMembers]
  | (key, n) :: members, _, _, h => by
    obtain ⟨name, hname, h⟩ := bind_eq_ok_iff.mp h
    obtain ⟨v, hv, h⟩ := bind_eq_ok_iff.mp h
    obtain ⟨ms, hms, h⟩ := bind_eq_ok_iff.mp h
    rw [passMembers, ending_of_decode hname, pass_of_toJson hv,
      passMembers_of_membersToJson hms]
    rfl

end

end AliasBinding.Json.Node
