import AliasBinding.Declaration.TypeText
import AliasBinding.Verification
import Mathlib.Data.List.Basic

/-!
# Arrays of arrays

Each array adds its rank specifier behind the text of its element, so a nest of arrays is written
with the specifier of the innermost one first.  The language reads them the other way: the first
specifier behind the element is that of the outermost array.  So what a nest is written as is
read as the nest with the ranks in reverse, which is the same nest exactly when the ranks are the
same from both ends (`text_nest_reads`).
-/

namespace AliasBinding.TypeExpr

/-! ### Nests -/

/-- Arrays of arrays, with the given ranks from the outermost to the innermost, over a type. -/
def nest (element : TypeExpr) (ranks : List UInt8) : TypeExpr :=
  ranks.foldr (fun rank t => .array t rank) element

/-- Rank specifiers in a row. -/
def specifiers (ranks : List UInt8) : String := String.join (ranks.map dimensions)

theorem specifiers_concat (ranks : List UInt8) (rank : UInt8) :
  specifiers (ranks ++ [rank]) = specifiers ranks ++ dimensions rank
  := by
  rw [specifiers, List.map_append, String.join_append, List.map_singleton, String.join_cons,
    String.join_nil, String.append_empty, specifiers]

/-- The specifiers are written from the innermost to the outermost. -/
theorem text_nest {qualify : Bool} {element : TypeExpr} {text : String} {ranks : List UInt8}
    (helement : element.text qualify = .ok text) (hranks : ∀ rank ∈ ranks, rank ≠ 0) :
  (nest element ranks).text qualify = .ok (text ++ specifiers ranks.reverse)
  := by
  induction ranks with
  | nil =>
    rw [List.reverse_nil, specifiers, List.map_nil, String.join_nil, String.append_empty]
    apply helement
  | cons rank ranks ih =>
    rw [List.forall_mem_cons] at hranks
    rw [nest, List.foldr_cons, ← nest, TypeExpr.text, if_neg hranks.1, ih hranks.2,
      List.reverse_cons, specifiers_concat, ← String.append_assoc]
    rfl

/-- Nests of one depth over one type are the same only if their ranks are. -/
theorem nest_inj {element : TypeExpr} {ranks ranks' : List UInt8}
    (hlength : ranks.length = ranks'.length) :
  nest element ranks = nest element ranks' ↔ ranks = ranks'
  := by
  constructor
  · intro h
    induction ranks generalizing ranks' with
    | nil => apply (List.length_eq_zero_iff.mp hlength.symm).symm
    | cons rank ranks ih =>
      cases ranks' with
      | nil => cases hlength
      | cons rank' ranks' =>
        obtain ⟨hinner, rfl⟩ := TypeExpr.array.inj h
        rw [ih (Nat.succ.inj hlength) hinner]
  · apply congrArg

/-! ### Reading -/

/-- The ranks that rank specifiers stand for, from left to right.  The state is the rank so far,
inside of brackets. -/
def ranksOf? : Option Nat → List Char → Option (List Nat)
  | none, [] => some []
  | none, '[' :: rest => ranksOf? (some 1) rest
  | some rank, ',' :: rest => ranksOf? (some (rank + 1)) rest
  | some rank, ']' :: rest => (rank :: ·) <$> ranksOf? none rest
  | _, _ => none

theorem ranksOf?_commas (rank commas : Nat) (rest : List Char) :
  ranksOf? (some rank) (List.replicate commas ',' ++ ']' :: rest)
    = ((rank + commas) :: ·) <$> ranksOf? none rest
  := by
  induction commas generalizing rank with
  | zero => rfl
  | succ commas ih =>
    rw [List.replicate_succ, List.cons_append, ranksOf?, ih, Nat.add_right_comm, Nat.add_assoc]

theorem ranksOf?_dimensions {rank : UInt8} (hrank : rank ≠ 0) (rest : List Char) :
  ranksOf? none ((dimensions rank).toList ++ rest)
    = (rank.toNat :: ·) <$> ranksOf? none rest
  := by
  have hpositive : 0 < rank.toNat := by
    rw [Nat.pos_iff_ne_zero, ne_eq, ← UInt8.toNat_zero, UInt8.toNat_inj]
    apply hrank
  rw [dimensions, String.toList_ofList, List.cons_append, List.append_assoc, ranksOf?,
    List.singleton_append, ranksOf?_commas, Nat.add_sub_cancel' hpositive]

/-- Rank specifiers stand for the ranks that they were made of. -/
theorem ranksOf?_specifiers {ranks : List UInt8} (hranks : ∀ rank ∈ ranks, rank ≠ 0) :
  ranksOf? none (specifiers ranks).toList = some (ranks.map UInt8.toNat)
  := by
  induction ranks with
  | nil => rfl
  | cons rank ranks ih =>
    rw [List.forall_mem_cons] at hranks
    rw [specifiers, List.map_cons, String.join_cons, String.toList_append, ← specifiers,
      ranksOf?_dimensions hranks.1, ih hranks.2]
    rfl

theorem specifiers_inj {ranks ranks' : List UInt8} (hranks : ∀ rank ∈ ranks, rank ≠ 0)
    (hranks' : ∀ rank ∈ ranks', rank ≠ 0) :
  specifiers ranks = specifiers ranks' ↔ ranks = ranks'
  := by
  constructor
  · intro h
    have hread := ranksOf?_specifiers hranks
    rw [h, ranksOf?_specifiers hranks', Option.some_inj] at hread
    apply (List.map_injective_iff.mpr fun _ _ => UInt8.toNat_inj.mp) hread.symm
  · apply congrArg

/-- What the language reads in rank specifiers behind the text of a type that is no array: arrays
over this type, the outermost one first. -/
def ReadsAs (written : String) (element t : TypeExpr) : Prop :=
  ∃ ranks : List UInt8, ranksOf? none written.toList = some (ranks.map UInt8.toNat)
    ∧ t = nest element ranks

theorem readsAs_specifiers_iff {ranks : List UInt8} {element t : TypeExpr}
    (hranks : ∀ rank ∈ ranks, rank ≠ 0) :
  ReadsAs (specifiers ranks) element t ↔ t = nest element ranks
  := by
  rw [ReadsAs, ranksOf?_specifiers hranks]
  constructor
  · rintro ⟨ranks', hread, rfl⟩
    rw [Option.some_inj] at hread
    rw [(List.map_injective_iff.mpr fun _ _ => UInt8.toNat_inj.mp) hread]
  · rintro rfl
    use ranks

/-! ### Written nests -/

/-- A nest of arrays is written as the text of the type that it is over and the rank specifiers
of its arrays, the innermost one first.  They are in the order of the language, and are read as
the nest that was written, exactly when the ranks are the same from both ends. -/
theorem text_nest_reads {qualify : Bool} {element : TypeExpr} {text : String}
    {ranks : List UInt8} (helement : element.text qualify = .ok text)
    (hranks : ∀ rank ∈ ranks, rank ≠ 0) :
  ∃ written, (nest element ranks).text qualify = .ok (text ++ written)
    ∧ written = specifiers ranks.reverse
    ∧ (∀ t, ReadsAs written element t ↔ t = nest element ranks.reverse)
    ∧ (written = specifiers ranks ↔ ranks.reverse = ranks)
    ∧ (ReadsAs written element (nest element ranks) ↔ ranks.reverse = ranks)
  := by
  have hreverse : ∀ rank ∈ ranks.reverse, rank ≠ 0 := by
    intro rank hrank
    apply hranks rank (List.mem_reverse.mp hrank)
  use specifiers ranks.reverse, text_nest helement hranks, rfl
  refine ⟨fun t => readsAs_specifiers_iff hreverse, specifiers_inj hreverse hranks, ?_⟩
  rw [readsAs_specifiers_iff hreverse, nest_inj List.length_reverse.symm]
  apply eq_comm

theorem text_nest_reads_matrices :
  text true (.plain "System" "Int32") = .ok "int"
    ∧ (∀ rank ∈ ([2, 1, 2] : List UInt8), rank ≠ 0)
    ∧ text true (nest (.plain "System" "Int32") [2, 1, 2]) = .ok "int[,][][,]"
    ∧ ReadsAs (specifiers [2, 1, 2]) (.plain "System" "Int32")
      (nest (.plain "System" "Int32") [2, 1, 2])
  := by
  have helement : text true (.plain "System" "Int32") = .ok "int" := rfl
  have hranks : ∀ rank ∈ ([2, 1, 2] : List UInt8), rank ≠ 0 := by simp
  obtain ⟨_, -, rfl, -, -, hreads⟩ := text_nest_reads helement hranks
  exact ⟨helement, hranks, rfl, hreads.mpr rfl⟩

/-- An array of matrices has no issues, and is written as a matrix of arrays. -/
theorem array_of_matrices_reads_as_matrix_of_arrays :
  issues [] (nest (.plain "System" "Int32") [1, 2]) = []
    ∧ text true (nest (.plain "System" "Int32") [1, 2]) = .ok ("int" ++ "[,][]")
    ∧ "int" ++ specifiers [1, 2] = "int[][,]"
    ∧ ReadsAs "[,][]" (.plain "System" "Int32") (nest (.plain "System" "Int32") [2, 1])
    ∧ ¬ReadsAs "[,][]" (.plain "System" "Int32") (nest (.plain "System" "Int32") [1, 2])
  := by
  have hwritten : "[,][]" = specifiers [2, 1] := by decide
  have hranks : ∀ rank ∈ ([2, 1] : List UInt8), rank ≠ 0 := by simp
  refine ⟨by decide, rfl, by decide, ?_, ?_⟩
  · rw [hwritten, readsAs_specifiers_iff hranks]
  · rw [hwritten, readsAs_specifiers_iff hranks]
    intro h
    apply absurd (TypeExpr.array.inj h).2
    decide

end AliasBinding.TypeExpr
