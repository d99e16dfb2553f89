import Mathlib
import AliasBinding.Manifest.Reader
import AliasBinding.Proofs.Outcome
import AliasBinding.Proofs.Json.CutDocument
import AliasBinding.Proofs.Json.Values

/-!
# Manifests of a text that is cut

Every reader of nodes is steady: of a node that another one grows from, it has the fault of a
text that ends too early, or what it has of the other one (`Steady`).  A list grows at its end, so
a reader that takes its items in a row is steady on the list when it is on an item
(`InARow.shortOf_items`, `InARow.shortOf_members`).  Hence a cut text, unless a number was cut, is
a text that ends too early, or nothing but spaces was cut off (`ofText_of_cut`).
-/

namespace AliasBinding

open Json Json.Node

/-! ### Falling short -/

section ShortOf

variable {α β : Type} {x y z : Except Fault α}

/-- The first outcome is the fault of a text that ends too early, or the second outcome. -/
def ShortOf (x y : Except Fault α) : Prop := x = .error .truncated ∨ x = y

theorem shortOf_refl (x : Except Fault α) :
  ShortOf x x
  := .inr rfl

theorem shortOf_truncated (x : Except Fault α) :
  ShortOf (.error .truncated) x
  := .inl rfl

theorem ShortOf.trans (h : ShortOf x y) (h' : ShortOf y z) :
  ShortOf x z
  := by
  obtain rfl | rfl := h
  · apply shortOf_truncated
  · apply h'

theorem ShortOf.bind {f g : α → Except Fault β} (h : ShortOf x y)
    (hf : ∀ a, ShortOf (f a) (g a)) :
  ShortOf (x >>= f) (y >>= g)
  := by
  obtain rfl | rfl := h
  · apply shortOf_truncated
  · cases x with
    | error e => apply shortOf_refl
    | ok a => apply hf

theorem ShortOf.bind_left (h : ShortOf x y) (f : α → Except Fault β) :
  ShortOf (x >>= f) (y >>= f)
  := h.bind fun a => shortOf_refl (f a)

/-- Computations in a row fall short when the second ones do. -/
theorem shortOf_bind {f g : α → Except Fault β} (hf : ∀ a, ShortOf (f a) (g a)) :
  ShortOf (x >>= f) (x >>= g)
  := (shortOf_refl x).bind hf

/-- A computation behind which the text ends falls short of one that goes on. -/
theorem shortOf_bind_truncated (x : Except Fault α) (f : α → Except Fault β) :
  ShortOf (x >>= fun _ => .error .truncated) (x >>= f)
  := shortOf_bind fun a => shortOf_truncated (f a)

theorem ShortOf.map (h : ShortOf x y) (f : α → β) :
  ShortOf (x.map f) (y.map f)
  := by
  obtain rfl | rfl := h
  · apply shortOf_truncated
  · apply shortOf_refl

end ShortOf

/-! ### Strings -/

theorem shortOf_decodeUnits (units more : List TextUnit) (ending : Except Fault Unit) :
  ShortOf (Quoted.decodeUnits (.error .truncated) units)
    (Quoted.decodeUnits ending (units ++ more))
  := by
  induction units using Quoted.decodeUnits.induct (.error .truncated) with
  | case1 => apply shortOf_truncated
  | case2 c rest ih => apply ih.bind_left
  | case3 lead rest hlead =>
    rw [List.cons_append, decodeUnits_trail hlead, decodeUnits_trail hlead]
    apply shortOf_refl
  | case4 lead hlead trail rest htrail ih =>
    simp only [List.cons_append, Quoted.decodeUnits, if_neg hlead, if_pos htrail]
    apply ih.bind_left
  | case5 lead hlead trail rest htrail =>
    simp only [List.cons_append, Quoted.decodeUnits, if_neg hlead, if_neg htrail]
    apply shortOf_refl
  | case6 lead hlead c rest =>
    simp only [List.cons_append, Quoted.decodeUnits, if_neg hlead]
    apply shortOf_refl
  | case7 lead hlead =>
    simp only [Quoted.decodeUnits, if_neg hlead]
    apply shortOf_truncated
  | case8 lead hlead hending => exact absurd rfl hending

theorem shortOf_decode {t t' : Quoted} (h : t.Begins t') :
  ShortOf t.decode t'.decode
  := by
  cases h with
  | same => apply shortOf_refl
  | cut units more ending => apply (shortOf_decodeUnits units more ending).map

theorem shortOf_ending {t t' : Quoted} (h : t.Begins t') :
  ShortOf t.ending t'.ending
  := by
  cases h with
  | same => apply shortOf_refl
  | cut units more ending => apply shortOf_truncated

/-! ### Values -/

/-- A reader falls short on a node of what it has of a node that grows from it. -/
def Steady {α : Type} (read : Node → Except Fault α) : Prop :=
  ∀ {n n' : Node}, Grows n n' → ShortOf (read n) (read n')

theorem Steady.bind_left {α β : Type} {read : Node → Except Fault α} (hread : Steady read)
    (f : α → Except Fault β) :
  Steady fun n => read n >>= f
  := by
  intro n n' h
  apply (hread h).bind_left

theorem Steady.shortOf {α : Type} {read : Node → Except Fault α} (hread : Steady read)
    {n n' : Node} (h : Becomes n n') :
  ShortOf (read n) (read n')
  := by
  induction h with
  | refl => apply shortOf_refl
  | tail _ hgrows ih => apply ih.trans (hread hgrows)

/-- A reader of members falls short on a member that is cut. -/
structure SteadyOnMembers {σ : Type} (read : σ → Quoted × Node → Except Fault σ) : Prop where
  key (made : σ) {key key' : Quoted} (h : key.Begins key') (n : Node) :
    ShortOf (read made (key, n)) (read made (key', n))
  value (made : σ) (key : Quoted) {n n' : Node} (h : Grows n n') :
    ShortOf (read made (key, n)) (read made (key, n'))

/-! ### Lists that are read in a row -/

/-- The last item of a list is read by `next`, with what was made of the items before it. -/
def InARow {α σ : Type} (readAll : List α → Except Fault σ)
    (next : σ → α → Except Fault σ) : Prop :=
  ∀ xs x, readAll (xs ++ [x]) = readAll xs >>= fun made => next made x

section InARow

variable {α β σ : Type} {readAll : List α → Except Fault σ} {next : σ → α → Except Fault σ}

/-- A list behind which the text ends falls short of one with a further item. -/
theorem InARow.shortOf_next (h : InARow readAll next) (xs : List α) (x : α)
    (finish : σ → Except Fault β) :
  ShortOf (readAll xs >>= fun _ => .error .truncated) (readAll (xs ++ [x]) >>= finish)
  := by
  rw [h, bind_assoc]
  apply shortOf_bind_truncated

/-- A list falls short when its last item does. -/
theorem InARow.shortOf_last (h : InARow readAll next) (xs : List α) {x x' : α}
    (hx : ∀ made, ShortOf (next made x) (next made x')) (finish : σ → Except Fault β) :
  ShortOf (readAll (xs ++ [x]) >>= finish) (readAll (xs ++ [x']) >>= finish)
  := by
  rw [h, h]
  apply (shortOf_bind hx).bind_left

theorem inARow_mapM (read : α → Except Fault β) :
  InARow (List.mapM read) fun made x => read x >>= fun y => pure (made ++ [y])
  := by
  intro xs x
  simp only [List.mapM_append, List.mapM_cons, List.mapM_nil, bind_assoc, pure_bind]

theorem inARow_foldlM (read : σ → α → Except Fault σ) (made : σ) :
  InARow (fun xs => xs.foldlM read made) read
  := by
  intro xs x
  simp only [List.foldlM_append, List.foldlM_cons, List.foldlM_nil, bind_pure]

end InARow

section Lists

variable {β σ : Type} {items items' : List Node} {members members' : List (Quoted × Node)}
variable {ending ending' : Except Fault Unit}

/-- An array falls short when its items are read steadily. -/
theorem InARow.shortOf_items {readAll : List Node → Except Fault σ}
    {next : σ → Node → Except Fault σ} (hrow : InARow readAll next)
    (hnext : ∀ made, Steady (next made))
    (h : Grows (.array items ending) (.array items' ending')) (finish : σ → Except Fault β) :
  ShortOf (readAll items >>= fun made => ending >>= fun _ => finish made)
    (readAll items' >>= fun made => ending' >>= fun _ => finish made)
  := by
  cases h with
  | endArray items ending => apply shortOf_bind_truncated
  | nextItem items => apply hrow.shortOf_next
  | item items h => apply hrow.shortOf_last items fun made => hnext made h

/-- An object falls short when its members are read steadily. -/
theorem InARow.shortOf_members {readAll : List (Quoted × Node) → Except Fault σ}
    {next : σ → Quoted × Node → Except Fault σ} (hrow : InARow readAll next)
    (hnext : SteadyOnMembers next)
    (h : Grows (.object members ending) (.object members' ending')) (finish : σ → Except Fault β) :
  ShortOf (readAll members >>= fun made => ending >>= fun _ => finish made)
    (readAll members' >>= fun made => ending' >>= fun _ => finish made)
  := by
  cases h with
  | endObject members ending => apply shortOf_bind_truncated
  | nextMember members key => apply hrow.shortOf_next
  | key members h n => apply hrow.shortOf_last members fun made => hnext.key made h n
  | member members key h => apply hrow.shortOf_last members fun made => hnext.value made key h

end Lists

/-! ### Values and what is passed over -/

theorem inARow_itemsToJson (room : Nat) :
  InARow (itemsToJson room) fun made n => n.toJson room >>= fun v => pure (made ++ [v])
  := by
  rw [funext (itemsToJson_eq room)]
  apply inARow_mapM

theorem inARow_membersToJson (room : Nat) :
  InARow (membersToJson room) fun made m =>
    memberToJson room m >>= fun nv => pure (made ++ [nv])
  := by
  rw [funext (membersToJson_eq room)]
  apply inARow_mapM

theorem inARow_passItems :
  InARow passItems fun _ n => n.pass
  := by
  have hpure : (.ok () : Except Fault Unit) = pure () := rfl
  intro items n
  induction items with
  | nil => simp [passItems, hpure]
  | cons item items ih => simp [passItems, ih]

theorem inARow_passMembers :
  InARow passMembers fun _ m => m.1.ending >>= fun _ => m.2.pass
  := by
  have hpure : (.ok () : Except Fault Unit) = pure () := rfl
  intro members m
  induction members with
  | nil => simp [passMembers, hpure]
  | cons member members ih => simp [passMembers, ih]

theorem steadyOnMembers_memberToJson {room : Nat} (h : Steady (toJson room)) :
  SteadyOnMembers fun made m => memberToJson room m >>= fun nv => pure (made ++ [nv])
  where
    key _ _ _ hkey _ := ((shortOf_decode hkey).bind_left _).bind_left _
    value made key n n' hgrows := by
      apply ShortOf.bind_left
      apply shortOf_bind
      intro name
      apply (h hgrows).bind_left

theorem steady_toJson (room : Nat) :
  Steady (toJson room)
  := by
  induction room with
  | zero =>
    intro n n' h
    cases h using Grows.byKind with
    | absent | word | number => apply shortOf_truncated
    | text h => apply (shortOf_decode h).map
    | array | object => apply shortOf_refl
  | succ room ih =>
    intro n n' h
    cases h using Grows.byKind with
    | absent | word | number => apply shortOf_truncated
    | text h => apply (shortOf_decode h).map
    | array h => apply (inARow_itemsToJson room).shortOf_items (fun _ => ih.bind_left _) h
    | object h =>
      apply (inARow_membersToJson room).shortOf_members (steadyOnMembers_memberToJson ih) h

theorem steady_pass :
  Steady Node.pass
  := by
  intro n n' h
  induction h with
  | absent | word => apply shortOf_truncated
  -- A number that is passed over is broken, whether the text ends in it or goes on behind it.
  | number => apply shortOf_refl
  | text h => apply shortOf_ending h
  | endArray | endObject => apply shortOf_bind_truncated
  | nextItem items => apply inARow_passItems.shortOf_next
  | item items h ih => apply inARow_passItems.shortOf_last items fun _ => ih
  | nextMember members key => apply inARow_passMembers.shortOf_next
  | key members h n =>
    apply inARow_passMembers.shortOf_last members fun _ => (shortOf_ending h).bind_left _
  | member members key h ih =>
    apply inARow_passMembers.shortOf_last
    intro _
    apply shortOf_bind
    intro _
    apply ih

/-- What is of the wrong type is refused with the fault of a text that ends too early, or as
it is refused when the text goes on. -/
theorem shortOf_refuse {α : Type} {n n' : Node} (h : Grows n n') :
  ShortOf (.error n.refuse : Except Fault α) (.error n'.refuse)
  := by
  cases h using Grows.byKind with
  | absent | word | number => apply shortOf_truncated
  | text h =>
    obtain hdecode | hdecode := shortOf_decode h
    · simp only [refuse, toJson, hdecode]
      apply shortOf_truncated
    · simp only [refuse, toJson, hdecode]
      apply shortOf_refl
  | array | object => apply shortOf_refl

/-! ### Manifests -/

namespace Manifest

theorem steady_readString :
  Steady readString
  := by
  intro n n' h
  cases h using Grows.byKind with
  | absent => apply shortOf_truncated
  | text h => apply shortOf_decode h
  | word read => apply shortOf_refuse (.word read)
  | number => apply shortOf_refuse .number
  | array | object => apply shortOf_refl

theorem steady_readOptionalString :
  Steady readOptionalString
  := by
  intro n n' h
  cases h using Grows.byKind with
  | absent | word => apply shortOf_truncated
  | text h => apply (shortOf_decode h).map
  | number => apply (shortOf_refuse .number).map some
  | array | object => apply shortOf_refl

theorem steady_readList {α : Type} {read : Node → Except Fault α} (hread : Steady read) :
  Steady (readList read)
  := by
  intro n n' h
  cases h using Grows.byKind with
  | absent => apply shortOf_truncated
  | text h => apply shortOf_refuse (.text h)
  | word read => apply shortOf_refuse (.word read)
  | number => apply shortOf_refuse .number
  | array h => apply (inARow_mapM read).shortOf_items (fun _ => hread.bind_left _) h
  | object => apply shortOf_refl

theorem steadyOnMembers_aliasParts :
  SteadyOnMembers AliasParts.read
  where
    key parts _ _ h n := (shortOf_decode h).bind_left _
    value parts key n n' h := by
      apply shortOf_bind
      intro name
      split
      · apply shortOf_bind
        intro _
        apply (steady_readList steady_readString h).bind_left
      · apply (steady_toJson aliasDepth h).bind_left

theorem steady_readAlias :
  Steady readAlias
  := by
  intro n n' h
  cases h using Grows.byKind with
  | absent => apply shortOf_truncated
  | text h => apply shortOf_refuse (.text h)
  | word read => apply shortOf_refuse (.word read)
  | number => apply shortOf_refuse .number
  | array => apply shortOf_refl
  | object h =>
    apply (inARow_foldlM AliasParts.read {}).shortOf_members steadyOnMembers_aliasParts h

theorem steadyOnMembers_parts :
  SteadyOnMembers Parts.read
  where
    key parts _ _ h n := (shortOf_decode h).bind_left _
    value parts key n n' h := by
      apply shortOf_bind
      intro name
      split
      · apply shortOf_bind
        intro _
        apply (steady_readOptionalString h).bind_left
      · split
        · apply shortOf_bind
          intro _
          apply (steady_readList steady_readAlias h).bind_left
        · apply (steady_pass h).bind_left

theorem shortOf_readFields {items items' : List Node} {ending ending' : Except Fault Unit}
    (h : Grows (.array items ending) (.array items' ending')) :
  ShortOf (readFields ending items) (readFields ending' items')
  := by
  cases h with
  | endArray items ending =>
    rcases items with _ | ⟨module, _ | ⟨aliases, rest⟩⟩
    · apply shortOf_truncated
    · apply shortOf_bind_truncated
    · apply shortOf_bind
      intro module?
      apply shortOf_bind
      intro aliases
      -- A third item is refused before the end of the array is looked at.
      split
      · apply shortOf_truncated
      · apply shortOf_refl
  | nextItem items =>
    rcases items with _ | ⟨module, _ | ⟨aliases, _ | ⟨further, rest⟩⟩⟩
    · apply shortOf_truncated
    · apply shortOf_bind_truncated
    · apply shortOf_bind
      intro module?
      apply shortOf_bind_truncated
    · apply shortOf_refl
  | item items h =>
    rcases items with _ | ⟨module, _ | ⟨aliases, _ | ⟨further, rest⟩⟩⟩
    · apply (steady_readOptionalString h).bind_left
    · apply shortOf_bind
      intro module?
      apply (steady_readList steady_readAlias h).bind_left
    · apply shortOf_refl
    · apply shortOf_refl

theorem steady_readRoot :
  Steady readRoot
  := by
  intro n n' h
  cases h using Grows.byKind with
  | absent => apply shortOf_truncated
  | text h => apply shortOf_refuse (.text h)
  | word read => apply shortOf_refuse (.word read)
  | number => apply shortOf_refuse .number
  | array h => apply shortOf_readFields h
  | object h => apply (inARow_foldlM Parts.read {}).shortOf_members steadyOnMembers_parts h

/-- A manifest is read from nothing but a closed node. -/
theorem isClosed_of_readRoot {n : Node} {m : Manifest} (h : readRoot n = .ok m) :
  n.IsClosed
  := by
  cases n with
  | absent | word | number | text => cases h
  | object members ending =>
    obtain ⟨parts, -, h⟩ := bind_eq_ok_iff.mp h
    obtain ⟨_, rfl, -⟩ := bind_eq_ok_iff.mp h
    trivial
  | array items ending =>
    rcases items with _ | ⟨module, _ | ⟨aliases, rest⟩⟩
    · obtain ⟨_, rfl, -⟩ := bind_eq_ok_iff.mp h
      trivial
    · obtain ⟨module?, -, h⟩ := bind_eq_ok_iff.mp h
      obtain ⟨_, rfl, -⟩ := bind_eq_ok_iff.mp h
      trivial
    · obtain ⟨module?, -, h⟩ := bind_eq_ok_iff.mp h
      obtain ⟨aliases, -, h⟩ := bind_eq_ok_iff.mp h
      split at h
      · obtain ⟨_, rfl, -⟩ := bind_eq_ok_iff.mp h
        trivial
      · cases h

theorem ofText_eq_ok_iff {s : String} {m : Manifest} :
  ofText s = .ok m
    ↔ readRoot (Document.ofText s).root = .ok m ∧ (Document.ofText s).extra = false
  := by
  constructor
  · intro h
    obtain ⟨m', hroot, h⟩ := bind_eq_ok_iff.mp h
    obtain ⟨_, hextra, h⟩ := bind_eq_ok_iff.mp h
    cases h
    exact ⟨hroot, Document.afterRoot_eq_ok_iff.mp hextra⟩
  · rintro ⟨hroot, hextra⟩
    apply bind_eq_ok hroot
    apply bind_eq_ok (Document.afterRoot_eq_ok_iff.mpr hextra)
    rfl

/-- A text that a manifest is read from, cut anywhere, has lost nothing but spaces and is read
as the same manifest, or it cannot be read; and unless a number was cut, it cannot because the
text ends too early. -/
theorem ofText_of_cut {p q : String} {m : Manifest} (h : ofText (p ++ q) = .ok m) :
  (ofText p = .ok m ∧ ∀ c ∈ q.toList, Scan.isSpace c = true)
    ∨ ∃ fault, ofText p = .error fault ∧ (¬SplitsNumber p q → fault = .truncated)
  := by
  have hcut := Document.cut_ofText p q
  obtain ⟨hroot, hextra⟩ := ofText_eq_ok_iff.mp h
  cases hread : readRoot (Document.ofText p).root with
  | ok m' =>
    left
    obtain ⟨hdocument, hspaces⟩ := hcut.eq_of_isClosed (isClosed_of_readRoot hread) hextra
    rw [ofText, hdocument] at h
    exact ⟨h, hspaces⟩
  | error fault =>
    right
    use fault
    constructor
    · rw [ofText, hread]
      rfl
    · intro hsplits
      obtain hshort | hsame := steady_readRoot.shortOf (hcut.becomes_root hsplits)
      · rw [hread] at hshort
        cases hshort
        rfl
      · rw [hread, hroot] at hsame
        cases hsame

/-- The text is cut in the name of the module, between the halves of a surrogate pair. -/
theorem ofText_of_cut_between_surrogates :
  ofText ("[\"\\ud83d" ++ "\\ude00\"]") = .ok ⟨some "😀", []⟩
    ∧ ¬SplitsNumber "[\"\\ud83d" "\\ude00\"]"
    ∧ ofText "[\"\\ud83d" = .error .truncated
  := by
  have hwhole : ofText ("[\"\\ud83d" ++ "\\ude00\"]") = .ok ⟨some "😀", []⟩ := by cbv
  have hsplits : ¬SplitsNumber "[\"\\ud83d" "\\ude00\"]" := by
    rintro ⟨⟨stage, n, hpending⟩, -⟩
    cbv at hpending
    cases hpending
  use hwhole, hsplits
  obtain ⟨-, hspaces⟩ | ⟨fault, hfault, htruncated⟩ := ofText_of_cut hwhole
  · have hbackslash := hspaces '\\' (by decide)
    cases hbackslash
  · rw [hfault, htruncated hsplits]

end Manifest

end AliasBinding
