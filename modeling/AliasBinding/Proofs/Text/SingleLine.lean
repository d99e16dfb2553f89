import AliasBinding.Proofs.Text.Quotation
import AliasBinding.Text.Decimal
import AliasBinding.Text.Identifier

/-!
# Texts on a single line

A text is split into its lines at the line feeds, and is on a single line when it has none.
Identifiers and numbers have none, and neither has a literal, whatever is quoted in it
(`singleLine_stringLiteral`).
-/

namespace AliasBinding.Text

/-- The text has no line feed. -/
def SingleLine (s : String) : Prop := '\n' ∉ s.toList

instance (s : String) : Decidable (SingleLine s) := inferInstanceAs (Decidable ('\n' ∉ s.toList))

@[simp]
theorem singleLine_append {s t : String} :
  SingleLine (s ++ t) ↔ SingleLine s ∧ SingleLine t
  := by
  simp only [SingleLine, String.toList_append, List.mem_append, not_or]

@[simp]
theorem singleLine_ofList {cs : List Char} :
  SingleLine (String.ofList cs) ↔ '\n' ∉ cs
  := by
  rw [SingleLine, String.toList_ofList]

theorem singleLine_ite {p : Prop} [Decidable p] {s t : String} (hs : SingleLine s)
    (ht : SingleLine t) :
  SingleLine (if p then s else t)
  := by
  split
  · apply hs
  · apply ht

theorem singleLine_intercalate {separator : String} (hseparator : SingleLine separator)
    {texts : List String} (h : ∀ t ∈ texts, SingleLine t) :
  SingleLine (separator.intercalate texts)
  := by
  induction texts with
  | nil => nofun
  | cons t texts ih =>
    rw [List.forall_mem_cons] at h
    cases texts with
    | nil =>
      rw [String.intercalate_singleton]
      apply h.1
    | cons u texts =>
      rw [String.intercalate_cons_cons, singleLine_append, singleLine_append]
      exact ⟨⟨h.1, hseparator⟩, ih h.2⟩

theorem intercalate_ne_empty (separator : String) {s : String} (h : s ≠ "")
    (texts : List String) :
  separator.intercalate (s :: texts) ≠ ""
  := by
  cases texts with
  | nil =>
    rw [String.intercalate_singleton]
    apply h
  | cons next texts =>
    rw [String.intercalate_cons_cons]
    simp [h]

/-! ### Lines of a text -/

/-- A line feed parts lines. -/
theorem splitOn_append_lineFeed (cs cs' : List Char) :
  (cs ++ '\n' :: cs').splitOn '\n' = cs.splitOn '\n' ++ cs'.splitOn '\n'
  := List.splitOn_append_cons_self cs cs'

theorem splitOn_lineFeed_cons (cs : List Char) :
  ('\n' :: cs).splitOn '\n' = [] :: cs.splitOn '\n'
  := splitOn_append_lineFeed [] cs

theorem splitOn_cons_of_ne {α : Type} [BEq α] [LawfulBEq α] {x separator : α}
    (h : x ≠ separator) (xs : List α) :
  (x :: xs).splitOn separator = (xs.splitOn separator).modifyHead (x :: ·)
  := by
  rw [List.splitOn_cons_eq_if_modifyHead, if_neg (by simpa using h)]

/-! ### Names -/

theorem singleLine_of_isIdentifier {s : String} (h : isIdentifier s = true) :
  SingleLine s
  := notMem_of_isIdentifier (by decide) h

theorem singleLine_escaped {s : String} (h : SingleLine s) :
  SingleLine (escaped s)
  := by
  unfold escaped
  split
  · rw [singleLine_append]
    exact ⟨by decide, h⟩
  · apply h

/-! ### Literals -/

/-- A line feed is spelled with an escape, as a control character. -/
theorem lineFeed_notMem_quoted {quote : Char} (hquote : escape? quote = some quote)
    (cs : List Char) :
  '\n' ∉ quoted quote cs
  := by
  rw [mem_quoted_iff hquote rfl]
  rintro ⟨-, hcontrol⟩
  cases hcontrol

theorem singleLine_stringLiteral (s : String) :
  SingleLine (stringLiteral s)
  := by
  rw [stringLiteral, singleLine_ofList]
  apply lineFeed_notMem_quoted rfl

theorem singleLine_charLiteral (c : Char) :
  SingleLine (charLiteral c)
  := by
  rw [charLiteral, singleLine_ofList]
  apply lineFeed_notMem_quoted rfl

/-! ### Numbers -/

theorem singleLine_natRepr (n : Nat) :
  SingleLine n.repr
  := by
  rw [Nat.repr, singleLine_ofList]
  intro h
  cases Nat.isDigit_of_mem_toDigits (by decide) (by decide) h

theorem singleLine_intToString (n : Int) :
  SingleLine (toString n)
  := by
  cases n with
  | ofNat m => apply singleLine_natRepr m
  | negSucc m =>
    change SingleLine ("-" ++ m.succ.repr)
    rw [singleLine_append]
    exact ⟨by decide, singleLine_natRepr m.succ⟩

theorem singleLine_decimal (x : Float) :
  SingleLine (decimal x)
  := by
  rw [decimal, singleLine_ofList]
  intro h
  rcases mem_decimalOfBits h with h | h | h
  · cases h
  · cases h
  · cases h

end AliasBinding.Text
