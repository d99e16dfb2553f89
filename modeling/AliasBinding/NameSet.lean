/-!
# Sets of names

A set of names is kept as the list of its members in strictly ascending code point order, so
two sets with the same members are equal (`ext`).  Insertion and union are described by their
members (`mem_insert`, `mem_union`).
-/

namespace AliasBinding

/-- A finite set of names. -/
structure NameSet where
  /-- The members, in ascending code point order. -/
  toList : List String
  /-- The members ascend strictly. -/
  ascending : toList.Pairwise (· < ·)
  deriving DecidableEq

namespace NameSet

/-- Puts `a` at its place in an ascending list, unless it is there. -/
def place (a : String) : List String → List String
  | [] => [a]
  | b :: rest =>
    if a < b then a :: b :: rest
    else if b < a then b :: place a rest
    else b :: rest

theorem mem_place {x a : String} {names : List String} :
  x ∈ place a names ↔ x = a ∨ x ∈ names
  := by
  induction names with
  | nil => simp [place]
  | cons b rest ih =>
    simp only [place]
    split
    · simp
    · split
      · simp only [List.mem_cons, ih]
        grind
      · have : a = b := String.le_antisymm (String.not_lt.mp ‹_›) (String.not_lt.mp ‹_›)
        simp [this]

theorem place_ascending {a : String} {names : List String} (h : names.Pairwise (· < ·)) :
  (place a names).Pairwise (· < ·)
  := by
  induction names with
  | nil => simp [place]
  | cons b rest ih =>
    obtain ⟨hb, hrest⟩ := List.pairwise_cons.mp h
    simp only [place]
    split
    · rename_i hab
      refine List.pairwise_cons.mpr ⟨fun x hx => ?_, h⟩
      rcases List.mem_cons.mp hx with rfl | hx
      · exact hab
      · exact String.lt_trans hab (hb x hx)
    · split
      · rename_i hba
        refine List.pairwise_cons.mpr ⟨fun x hx => ?_, ih hrest⟩
        rcases mem_place.mp hx with rfl | hx
        · exact hba
        · exact hb x hx
      · exact h

/-- Strictly ascending lists with the same members are equal. -/
theorem eq_of_ascending {names others : List String} (hnames : names.Pairwise (· < ·))
    (hothers : others.Pairwise (· < ·)) (h : ∀ x, x ∈ names ↔ x ∈ others) :
  names = others
  := by
  induction names generalizing others with
  | nil =>
    cases others with
    | nil => rfl
    | cons b others => exact absurd ((h b).mpr List.mem_cons_self) List.not_mem_nil
  | cons a names ih =>
    cases others with
    | nil => exact absurd ((h a).mp List.mem_cons_self) List.not_mem_nil
    | cons b others =>
      obtain ⟨ha, hrest⟩ := List.pairwise_cons.mp hnames
      obtain ⟨hb, hrest'⟩ := List.pairwise_cons.mp hothers
      have hab : a = b := by
        rcases List.mem_cons.mp ((h a).mp List.mem_cons_self) with hab | hmem
        · exact hab
        · rcases List.mem_cons.mp ((h b).mpr List.mem_cons_self) with hba | hmem'
          · exact hba.symm
          · exact absurd (String.lt_trans (ha b hmem') (hb a hmem)) (String.lt_irrefl a)
      obtain rfl := hab
      congr 1
      apply ih hrest hrest'
      intro x
      constructor
      · intro hx
        rcases List.mem_cons.mp ((h x).mp (List.mem_cons_of_mem a hx)) with rfl | hx'
        · exact absurd (ha x hx) (String.lt_irrefl x)
        · exact hx'
      · intro hx
        rcases List.mem_cons.mp ((h x).mpr (List.mem_cons_of_mem a hx)) with rfl | hx'
        · exact absurd (hb x hx) (String.lt_irrefl x)
        · exact hx'

/-- The set without members. -/
def empty : NameSet := ⟨[], List.Pairwise.nil⟩

instance : Inhabited NameSet := ⟨empty⟩

instance : Membership String NameSet := ⟨fun s x => x ∈ s.toList⟩

/-- Sets with the same members are equal. -/
@[ext]
theorem ext {s t : NameSet} (h : ∀ x, x ∈ s ↔ x ∈ t) :
  s = t
  := by
  obtain ⟨names, hnames⟩ := s
  obtain ⟨others, hothers⟩ := t
  obtain rfl := eq_of_ascending hnames hothers h
  rfl

/-- The set with the member `a` added. -/
def insert (s : NameSet) (a : String) : NameSet :=
  ⟨place a s.toList, place_ascending s.ascending⟩

/-- The set with the names of a list added. -/
def insertAll (s : NameSet) (names : List String) : NameSet :=
  names.foldl insert s

/-- The members of either set. -/
def union (s t : NameSet) : NameSet := s.insertAll t.toList

/-- The set of the names of a list. -/
def ofList (names : List String) : NameSet := empty.insertAll names

/-- Whether the set has no members. -/
def isEmpty (s : NameSet) : Bool := s.toList.isEmpty

theorem mem_insert {s : NameSet} {a x : String} :
  x ∈ s.insert a ↔ x = a ∨ x ∈ s
  := mem_place

theorem mem_insertAll {names : List String} {s : NameSet} {x : String} :
  x ∈ s.insertAll names ↔ x ∈ s ∨ x ∈ names
  := by
  induction names generalizing s with
  | nil => simp [insertAll]
  | cons a rest ih =>
    have : s.insertAll (a :: rest) = (s.insert a).insertAll rest := rfl
    rw [this, ih, mem_insert, List.mem_cons]
    grind

theorem mem_union {s t : NameSet} {x : String} :
  x ∈ s.union t ↔ x ∈ s ∨ x ∈ t
  := mem_insertAll

theorem mem_ofList {names : List String} {x : String} :
  x ∈ ofList names ↔ x ∈ names
  := by
  rw [ofList, mem_insertAll]
  exact ⟨fun h => h.resolve_left List.not_mem_nil, .inr⟩

/-- The set of the members of a set is the set. -/
theorem ofList_toList (s : NameSet) :
  ofList s.toList = s
  := by
  ext x
  apply mem_ofList

end NameSet

end AliasBinding
