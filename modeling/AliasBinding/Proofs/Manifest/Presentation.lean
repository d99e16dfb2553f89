import AliasBinding.Proofs.Json.Building
import AliasBinding.Proofs.Manifest.Cut
import AliasBinding.Proofs.Manifest.Edits
import AliasBinding.Proofs.Manifest.NodeReaders
import AliasBinding.Proofs.Manifest.RoundTrip

/-!
# Texts that stand for a value

The manifest of a text that stands for a value is read like the value
(`Presents.ofText_eq_ok_iff`).  The text that writes a value stands for it (`presents_write`), but
the value is not fixed by the text: a member of a manifest that is no field is passed over, and
need not have a value.  So every text of a manifest stands for a value, and a text that stands for
this value with any edits is a text of the same manifest (`ofText_of_edits`).
-/

namespace AliasBinding

open Json Json.Node

namespace Manifest

/-! ### Roots -/

/-- A member of a manifest stands for a name and a value: only the value of a field matters. -/
structure MemberPresents (m : Quoted × Node) (nv : String × Json) : Prop where
  name : m.1.decode = .ok nv.1
  passed : m.2.pass = .ok ()
  value : (∃ f ∈ fields, f.name = nv.1) → m.2.toJson (maxDepth - 1) = .ok nv.2

/-- A root stands for a value: for its own, or for an object whose members it has. -/
inductive RootPresents : Node → Json → Prop where
  | value {n : Node} {v : Json} (h : n.toJson maxDepth = .ok v) : RootPresents n v
  | object {members : List (Quoted × Node)} {ms : List (String × Json)}
      (h : List.Forall₂ MemberPresents members ms) :
      RootPresents (.object members (.ok ())) (.object ms)

theorem mirrors_module :
  Mirrors (maxDepth - 1) readOptionalString (asOption asString)
  := mirrors_readOptionalString (maxDepth - 1)

theorem mirrors_aliases :
  Mirrors (maxDepth - 1) (readList readAlias) (asList Alias.ofJson)
  := mirrors_readList mirrors_readAlias

/-- A member of a manifest is read like the name and the value that it stands for. -/
theorem MemberPresents.read_eq_ok_iff {m : Quoted × Node} {nv : String × Json}
    (h : MemberPresents m nv) {parts parts' : Parts} :
  parts.read m = .ok parts' ↔ parts.readValue nv.1 nv.2 = .ok parts'
  := by
  obtain ⟨key, node⟩ := m
  obtain ⟨name, v⟩ := nv
  obtain ⟨hname, hpassed, hvalue⟩ := h
  dsimp only at hname hpassed hvalue ⊢
  by_cases hmodule : name = "module"
  · subst hmodule
    have hv := hvalue (by simp [fields, slots])
    have hput := mirrors_module.put_eq_ok_iff (n := node) (s := parts') "module" parts.module?
      fun x => { parts with module? := x }
    simp only [hv, Except.ok.injEq, exists_eq_left'] at hput
    rw [Parts.read, hname]
    apply hput
  · by_cases haliases : name = "aliases"
    · subst haliases
      have hv := hvalue (by simp [fields, slots])
      have hput := mirrors_aliases.put_eq_ok_iff (n := node) (s := parts') "aliases"
        parts.aliases? fun x => { parts with aliases? := x }
      simp only [hv, Except.ok.injEq, exists_eq_left'] at hput
      rw [Parts.read, hname]
      apply hput
    · have hunknown : ∀ slot ∈ slots, slot.field.name ≠ name := by
        simp [slots, Ne.symm hmodule, Ne.symm haliases]
      have hread : parts.read (key, node) = .ok parts := by
        apply bind_eq_ok hname
        rw [if_neg hmodule, if_neg haliases]
        apply bind_eq_ok hpassed
        rfl
      rw [hread, fillsSlots_readValue.unknown name hunknown, Except.ok.injEq, Except.ok.injEq]

/-- A member of a manifest that is read stands for a name and a value. -/
theorem exists_memberPresents {m : Quoted × Node} {parts parts' : Parts}
    (h : parts.read m = .ok parts') :
  ∃ nv, MemberPresents m nv
  := by
  obtain ⟨key, node⟩ := m
  obtain ⟨name, hname, h⟩ := bind_eq_ok_iff.mp h
  split at h
  · obtain ⟨_, -, h⟩ := bind_eq_ok_iff.mp h
    obtain ⟨x, hx, -⟩ := bind_eq_ok_iff.mp h
    obtain ⟨v, hv, -⟩ := mirrors_module.mp hx
    exact ⟨(name, v), hname, pass_of_toJson hv, fun _ => hv⟩
  · split at h
    · obtain ⟨_, -, h⟩ := bind_eq_ok_iff.mp h
      obtain ⟨x, hx, -⟩ := bind_eq_ok_iff.mp h
      obtain ⟨v, hv, -⟩ := mirrors_aliases.mp hx
      exact ⟨(name, v), hname, pass_of_toJson hv, fun _ => hv⟩
    · rename_i hmodule haliases
      obtain ⟨_, hpassed, -⟩ := bind_eq_ok_iff.mp h
      -- The value of a member that is no field is not looked at, so any will do.
      refine ⟨(name, .null), hname, hpassed, ?_⟩
      rintro ⟨f, hf, rfl⟩
      simp only [fields, slots, List.map_cons, List.map_nil, List.mem_cons, List.not_mem_nil,
        or_false] at hf
      obtain rfl | rfl := hf
      · contradiction
      · contradiction

theorem Parts.read_eq_ok_iff (parts : Parts) (m : Quoted × Node) (parts' : Parts) :
  parts.read m = .ok parts'
    ↔ ∃ nv, MemberPresents m nv ∧ parts.readValue nv.1 nv.2 = .ok parts'
  := by
  constructor
  · intro h
    obtain ⟨nv, hnv⟩ := exists_memberPresents h
    exact ⟨nv, hnv, hnv.read_eq_ok_iff.mp h⟩
  · rintro ⟨nv, hnv, h⟩
    apply hnv.read_eq_ok_iff.mpr h

theorem foldlM_read_eq_ok_iff {members : List (Quoted × Node)} {ms : List (String × Json)}
    (h : List.Forall₂ MemberPresents members ms) {parts parts' : Parts} :
  members.foldlM Parts.read parts = .ok parts' ↔ foldMembers Parts.readValue parts ms = .ok parts'
  := by
  induction h generalizing parts with
  | nil => simp [foldMembers, pure, Except.pure]
  | cons hm _ ih =>
    rw [foldMembers, List.foldlM_cons, List.foldlM_cons, bind_eq_ok_iff, bind_eq_ok_iff]
    simp only [hm.read_eq_ok_iff, ih]
    rfl

theorem exists_membersPresent {members : List (Quoted × Node)} {parts parts' : Parts}
    (h : members.foldlM Parts.read parts = .ok parts') :
  ∃ ms, List.Forall₂ MemberPresents members ms
  := by
  obtain ⟨ms, hms, -⟩ := (foldlM_eq_ok_iff_of_comp Parts.read_eq_ok_iff).mp h
  use ms

theorem mirrorsFields_readFields (ending : Except Fault Unit) (items : List Node) :
  MirrorsFields (maxDepth - 1) ending items (readFields ending items) (do
    let module? ← Fields.nextOr none (asOption asString)
    let aliases ← Fields.nextOr [] (asList Alias.ofJson)
    return ⟨module?, aliases⟩)
  := by
  rcases items with _ | ⟨module, _ | ⟨aliases, rest⟩⟩
  · apply MirrorsFields.leftOut
    apply MirrorsFields.leftOut
    apply mirrorsFields_pure
  · apply mirrors_module.next
    intro module?
    apply MirrorsFields.leftOut
    apply mirrorsFields_pure
  · apply mirrors_module.next
    intro module?
    apply mirrors_aliases.next
    intro aliases
    cases rest with
    | nil => apply mirrorsFields_pure
    | cons => apply mirrorsFields_excess

/-- A manifest that is written as an array is read like the value of the array. -/
theorem readFields_eq_ok_iff {items : List Node} {ending : Except Fault Unit} {m : Manifest} :
  readFields ending items = .ok m
    ↔ ∃ v, (Node.array items ending).toJson maxDepth = .ok v ∧ ofJson v = .ok m
  := by
  simp only [toJson_eq_ok_iff]
  apply (mirrorsFields_readFields ending items m).trans
  constructor
  · rintro ⟨rfl, vs, hvs, h⟩
    exact ⟨.array vs, .array hvs, h⟩
  · rintro ⟨v, hv, h⟩
    cases hv with
    | array hvs => exact ⟨rfl, _, hvs, h⟩

theorem readRoot_object_eq_ok_iff {members : List (Quoted × Node)}
    {ending : Except Fault Unit} {m : Manifest} :
  readRoot (.object members ending) = .ok m
    ↔ ∃ parts, members.foldlM Parts.read {} = .ok parts ∧ ending = .ok () ∧ parts.assemble = m
  := by
  rw [readRoot, bind_eq_ok_iff]
  simp only [bind_eq_ok_iff, pure, Except.pure, Except.ok.injEq]
  constructor
  · rintro ⟨parts, hparts, _, hending, h⟩
    exact ⟨parts, hparts, hending, h⟩
  · rintro ⟨parts, hparts, hending, h⟩
    exact ⟨parts, hparts, (), hending, h⟩

theorem readRoot_object_of_present {members : List (Quoted × Node)}
    {ms : List (String × Json)} (h : List.Forall₂ MemberPresents members ms) {m : Manifest} :
  readRoot (.object members (.ok ())) = .ok m ↔ ofJson (.object ms) = .ok m
  := by
  rw [readRoot_object_eq_ok_iff, ofJson, bind_eq_ok_iff]
  simp only [foldlM_read_eq_ok_iff h, pure, Except.pure, Except.ok.injEq, true_and]

/-- The members of an object stand for their own values. -/
theorem memberPresents_of_memberValue {m : Quoted × Node} {nv : String × Json}
    (h : MemberValue (maxDepth - 1) m nv) :
  MemberPresents m nv
  := ⟨h.1, pass_of_toJson h.2, fun _ => h.2⟩

/-- What a root stands for is read like the root. -/
theorem RootPresents.readRoot_eq_ok_iff {n : Node} {v : Json} (h : RootPresents n v)
    {m : Manifest} :
  readRoot n = .ok m ↔ ofJson v = .ok m
  := by
  cases h with
  | object h => apply readRoot_object_of_present h
  | value h =>
    cases n with
    | array items ending =>
      apply readFields_eq_ok_iff.trans
      simp only [h, Except.ok.injEq, exists_eq_left']
    | object members ending =>
      cases toJson_eq_ok_iff.mp h with
      | object hms =>
        apply readRoot_object_of_present
        apply hms.imp
        intro m nv hnv
        apply memberPresents_of_memberValue hnv
    | absent => cases h
    | word =>
      cases toJson_eq_ok_iff.mp h with
      | null | bool => exact ⟨nofun, nofun⟩
    | number =>
      cases toJson_eq_ok_iff.mp h with
      | integer | float => exact ⟨nofun, nofun⟩
    | text =>
      cases toJson_eq_ok_iff.mp h with
      | string => exact ⟨nofun, nofun⟩

theorem exists_rootPresents {n : Node} {m : Manifest} (h : readRoot n = .ok m) :
  ∃ v, RootPresents n v
  := by
  cases n with
  | array items ending =>
    obtain ⟨v, hv, -⟩ := readFields_eq_ok_iff.mp h
    exact ⟨v, .value hv⟩
  | object members ending =>
    obtain ⟨parts, hparts, rfl, -⟩ := readRoot_object_eq_ok_iff.mp h
    obtain ⟨ms, hms⟩ := exists_membersPresent hparts
    exact ⟨.object ms, .object hms⟩
  | absent | word | number | text => cases h

/-! ### Texts -/

/-- The text stands for the value. -/
def Presents (s : String) (v : Json) : Prop :=
  RootPresents (Document.ofText s).root v ∧ (Document.ofText s).extra = false

/-- The text that writes an exact value stands for it. -/
theorem presents_write {v : Json} (hv : v.Exact) (hdepth : v.depth ≤ maxDepth)
    (real : Float → Numeral) (spacing : Spacing) :
  Presents (v.write real spacing) v
  := by
  rw [Presents, ofText_write hv]
  exact ⟨.value (toJson_node v maxDepth hv hdepth), rfl⟩

/-- What a text stands for is read like the text. -/
theorem Presents.ofText_eq_ok_iff {s : String} {v : Json} (h : Presents s v) {m : Manifest} :
  ofText s = .ok m ↔ ofJson v = .ok m
  := by
  rw [Manifest.ofText_eq_ok_iff, h.1.readRoot_eq_ok_iff]
  exact ⟨fun hm => hm.1, fun hm => ⟨hm, h.2⟩⟩

/-- Every text of a manifest stands for a value, and every text that stands for this value
with any edits is a text of the same manifest. -/
theorem ofText_of_edits {s : String} {m : Manifest} (h : ofText s = .ok m) :
  (∃ v, Presents s v)
    ∧ ∀ v, Presents s v → ∀ v', Relation.ReflTransGen (Edit ofJson) v v' →
      ∀ s', Presents s' v' → ofText s' = .ok m
  := by
  constructor
  · obtain ⟨hroot, hextra⟩ := ofText_eq_ok_iff.mp h
    obtain ⟨v, hv⟩ := exists_rootPresents hroot
    exact ⟨v, hv, hextra⟩
  · intro v hv v' hedits
    have hread : ofJson v' = .ok m := by
      induction hedits with
      | refl => apply hv.ofText_eq_ok_iff.mp h
      | tail _ hedit ih => apply hedit.keeps m ih
    intro s' hs'
    apply hs'.ofText_eq_ok_iff.mpr hread

/-- A property with its tag first and the mark of what is obsolete as null. -/
def tagFirst : Json :=
  .object [("kind", .string "property"), ("name", .string "Verbose"),
    ("declaring_type", .object [("type", .string "generic_parameter"), ("name", .string "T")]),
    ("property_type", .object [("type", .string "generic_parameter"), ("name", .string "T")]),
    ("obsolete", .null)]

/-- The same property with its tags behind all other members, without a mark, and with a member
that is no field. -/
def tagLast : Json :=
  .object [("since", .integer 3), ("name", .string "Verbose"),
    ("declaring_type", .object [("type", .string "generic_parameter"), ("name", .string "T")]),
    ("property_type", .object [("name", .string "T"), ("type", .string "generic_parameter")]),
    ("kind", .string "property")]

/-- A manifest of a single alias. -/
def singleton (a : Json) : Json := .object [("aliases", .array [a])]

theorem edits_singleton {a a' : Json} (h : Relation.ReflTransGen (Edit Alias.ofJson) a a') :
  Relation.ReflTransGen (Edit ofJson) (singleton a) (singleton a')
  := by
  have hfield : ⟨"aliases", asList Alias.ofJson, some []⟩ ∈ fields := by simp [fields, slots]
  induction h with
  | refl => apply Relation.ReflTransGen.refl
  | tail _ hedit ih =>
    apply ih.tail
    apply Edit.field [] [] (.ofManifest _) hfield (.item [] [] hedit)

theorem edits_tagLast :
  Relation.ReflTransGen (Edit Alias.ofJson) tagFirst tagLast
  := by
  have hrecord {ms : List (String × Json)}
      (htag : tagOf "kind" Member.Kind.table ms = .ok .property) :
      Record Alias.ofJson ms (Alias.fields .property) := .ofAlias htag
  have hpropertyFields : ∀ f ∈ Alias.fields .property, f.name ≠ "since" := by
    simp [Alias.fields, Member.fields, Member.slots]
  have hobsolete :
      ⟨"obsolete", asOption Obsolete.ofJson, some none⟩ ∈ Alias.fields .property := by
    simp [Alias.fields, Member.fields, Member.slots]
  have htype : ⟨"property_type", TypeExpr.ofJson, none⟩ ∈ Alias.fields .property := by
    simp [Alias.fields, Member.fields, Member.slots]
  have hswap (m m' : String × Json) : [m, m'].Perm [m', m] := .swap m' m []
  have hrotate (m : String × Json) (ms : List (String × Json)) : (m :: ms).Perm (ms ++ [m]) :=
    @List.perm_append_comm _ [m] ms
  apply Relation.ReflTransGen.head
  · apply Edit.leaveOut [("kind", _), ("name", _), ("declaring_type", _), ("property_type", _)] []
      (hrecord rfl) hobsolete rfl rfl
  apply Relation.ReflTransGen.head
  · apply Edit.field [("kind", _), ("name", _), ("declaring_type", _)] [] (hrecord rfl) htype
      (.permute (.ofType rfl) (hswap _ _))
  apply Relation.ReflTransGen.head
  · apply Edit.permute (hrecord rfl) (hrotate _ _)
  apply Relation.ReflTransGen.single
  apply Edit.add [] _ (hrecord rfl) hpropertyFields

/-- The manifest of this property. -/
def verboseOfT : Manifest :=
  ⟨none, [.ofProperty "Verbose" (.parameter "T") (.parameter "T")]⟩

theorem ofText_of_edits_tagLast :
  ofText ((singleton tagFirst).write (fun _ => .ofInt 0) tabbed) = .ok verboseOfT
    ∧ Relation.ReflTransGen (Edit ofJson) (singleton tagFirst) (singleton tagLast)
    ∧ ofText ((singleton tagLast).write (fun _ => .ofInt 0) tabbed) = .ok verboseOfT
  := by
  have hfirst : Presents ((singleton tagFirst).write (fun _ => .ofInt 0) tabbed)
      (singleton tagFirst) := by
    apply presents_write _ (by decide)
    simp [singleton, tagFirst, Exact, ExactItems, ExactMembers]
  have hlast : Presents ((singleton tagLast).write (fun _ => .ofInt 0) tabbed)
      (singleton tagLast) := by
    apply presents_write _ (by decide)
    simp [singleton, tagLast, Exact, ExactItems, ExactMembers]
  have hread : ofText ((singleton tagFirst).write (fun _ => .ofInt 0) tabbed)
      = .ok verboseOfT := by
    rw [hfirst.ofText_eq_ok_iff]
    rfl
  have hedits := edits_singleton edits_tagLast
  use hread, hedits
  apply (ofText_of_edits hread).2 _ hfirst _ hedits _ hlast

end Manifest

end AliasBinding
