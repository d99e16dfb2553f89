import AliasBinding.Proofs.Json.Writing
import Mathlib.Data.List.Chain
import Mathlib.Tactic.IntervalCases

/-!
# Scanning written JSON

The scanner takes laid-out lexemes back to their tokens (`tokens_layOut`).  A number ends only
at the character behind it, so between lexemes the scanner may still be in a number
(`Scan.Holds`); whatever comes next, be it a space or a lexeme other than a number, ends it.
-/

namespace AliasBinding.Json

/-! ### Numbers -/

theorem digit?_digitChar {d : Nat} (h : d < 10) :
  digit? d.digitChar = some d
  := by
  revert d
  decide

/-- The digits of a number are decimal, and the first one is zero only when it is alone. -/
theorem decimalDigits_eq_cons (n : Nat) :
  ∃ d ds, decimalDigits n = d :: ds ∧ d < 10 ∧ (∀ x ∈ ds, x < 10) ∧ (d = 0 → ds = [] ∧ n = 0)
  := by
  induction n using Nat.strongRecOn with
  | ind n ih =>
    rw [decimalDigits]
    split
    · rename_i hn
      use n, [], rfl, hn, nofun
    · rename_i hn
      obtain ⟨d, ds, hdigits, hd, hds, hzero⟩ := ih (n / 10) (by omega)
      use d, ds ++ [n % 10]
      rw [hdigits]
      use rfl, hd
      constructor
      · intro x hx
        rw [List.mem_append, List.mem_singleton] at hx
        rcases hx with hx | rfl
        · apply hds x hx
        · omega
      · intro h
        have := (hzero h).2
        omega

theorem Numeral.ofDigits_concat (ds : List Nat) (d : Nat) :
  ofDigits (ds ++ [d]) = 10 * ofDigits ds + d
  := by
  rw [ofDigits, List.foldl_append]
  rfl

theorem Numeral.ofDigits_decimalDigits (n : Nat) :
  ofDigits (decimalDigits n) = n
  := by
  induction n using Nat.strongRecOn with
  | ind n ih =>
    rw [decimalDigits]
    split
    · simp [ofDigits]
    · rw [ofDigits_concat, ih (n / 10) (by omega)]
      omega

/-- An integer that fits 64 bits is read back from its numeral. -/
theorem Numeral.toInteger?_ofInt {n : Int} (hmin : Int64.minValue.toInt ≤ n)
    (hmax : n < UInt64.size) :
  (ofInt n).toInteger? = some n
  := by
  rw [Int64.toInt_minValue] at hmin
  rw [UInt64.size] at hmax
  simp only [toInteger?, ofInt, ofDigits_decimalDigits]
  by_cases hn : n < 0
  · have hvalue : (decide (0 < n.natAbs) && decide (2 * n.natAbs ≤ UInt64.size)) = true := by
      rw [Bool.and_eq_true, decide_eq_true_eq, decide_eq_true_eq, UInt64.size]
      omega
    rw [decide_eq_true hn, if_pos rfl, if_pos hvalue]
    congr 1
    omega
  · have hvalue : n.natAbs < UInt64.size := by
      rw [UInt64.size]
      omega
    rw [decide_eq_false hn, if_neg Bool.false_ne_true, if_pos hvalue]
    congr 1
    omega

namespace Scan

variable {held : List Token}

/-- The digit at the beginning of a number, behind the sign if it has one. -/
theorem step_first_digit {d : Nat} (hd : d < 10) (negative : Bool) :
  step ⟨held, if negative then .number .sign (.blank true) else .none⟩ d.digitChar
    = ⟨held, .number (if d = 0 then .zero else .whole) ⟨negative, [d], none, none⟩⟩
  := by
  cases negative with
  | true => interval_cases d <;> rfl
  | false => interval_cases d <;> rfl

theorem foldl_digits {n : Numeral} {ds : List Nat} (hds : ∀ d ∈ ds, d < 10) :
  (ds.map Nat.digitChar).foldl step ⟨held, .number .whole n⟩
    = ⟨held, .number .whole { n with whole := n.whole ++ ds }⟩
  := by
  induction ds generalizing n with
  | nil => rw [List.append_nil]; rfl
  | cons d ds ih =>
    rw [List.forall_mem_cons] at hds
    have hd : step ⟨held, .number .whole n⟩ d.digitChar
        = ⟨held, .number .whole { n with whole := n.whole ++ [d] }⟩ := by
      simp only [step, inNumber, Numeral.push, digit?_digitChar hds.1, Numeral.pushDigit]
    rw [List.map_cons, List.foldl_cons, hd, ih hds.2, List.append_assoc]
    rfl

/-- The scanner is in the numeral of an integer at the end of its characters. -/
theorem foldl_spell_ofInt (held : List Token) (n : Int) :
  ∃ stage, stage.isComplete = true
    ∧ (Numeral.ofInt n).spell.foldl step ⟨held, .none⟩ = ⟨held, .number stage (.ofInt n)⟩
  := by
  obtain ⟨d, ds, hdigits, hd, hds, hzero⟩ := decimalDigits_eq_cons n.natAbs
  have hsign : (if decide (n < 0) = true then ['-'] else []).foldl step ⟨held, .none⟩
      = ⟨held, if decide (n < 0) = true then .number .sign (.blank true) else .none⟩ := by
    cases decide (n < 0) with
    | true => rfl
    | false => rfl
  simp only [Numeral.spell, Numeral.ofInt, hdigits, List.append_nil, List.foldl_append, hsign,
    List.map_cons, List.foldl_cons, step_first_digit hd]
  by_cases h : d = 0
  · rw [if_pos h, (hzero h).1]
    use .zero, rfl
    rfl
  · rw [if_neg h, foldl_digits hds]
    use .whole, rfl
    rfl

end Scan

/-! ### Strings -/

/-- A hexadecimal digit is read back, and takes a byte. -/
theorem hexDigit?_lowerHexDigit (n : Nat) :
  hexDigit? (lowerHexDigit n) = some (n % 16) ∧ (lowerHexDigit n).utf8Size = 1
  := by
  have hdigit : ∀ d < 16,
      hexDigit? (if d < 10 then Char.ofNat (d + 48) else Char.ofNat (d + 87)) = some d
        ∧ (if d < 10 then Char.ofNat (d + 48) else Char.ofNat (d + 87)).utf8Size = 1 := by
    decide
  apply hdigit (n % 16) (Nat.mod_lt n (by decide))

namespace Scan

variable {held : List Token} {units : List TextUnit}

/-- Hexadecimal digits up to the third add to the value. -/
theorem step_hexDigit {bytes : Nat} (hbytes : bytes < 3) (value n : Nat) :
  step ⟨held, .text (.hex bytes (some value)) units⟩ (lowerHexDigit n)
    = ⟨held, .text (.hex (bytes + 1) (some (16 * value + n % 16))) units⟩
  := by
  obtain ⟨hdigit, hsize⟩ := hexDigit?_lowerHexDigit n
  have hbytes' : bytes + 1 < 4 := by omega
  simp only [step, inText, hdigit, hsize, Option.bind_some, Option.map_some, if_pos hbytes']

/-- The fourth hexadecimal digit completes the value. -/
theorem step_last_hexDigit (value n : Nat) :
  step ⟨held, .text (.hex 3 (some value)) units⟩ (lowerHexDigit n)
    = ⟨held, .text .plain (unitOfCode (16 * value + n % 16) :: units)⟩
  := by
  obtain ⟨hdigit, hsize⟩ := hexDigit?_lowerHexDigit n
  simp only [step, inText, hdigit, hsize, Option.bind_some, Option.map_some]
  rfl

/-- Four hexadecimal digits are read as the character with their value. -/
theorem foldl_hexDigits {c : Char} (hc : c.toNat < 0x20) :
  ['\\', 'u', '0', '0', lowerHexDigit (c.toNat / 16), lowerHexDigit c.toNat].foldl step
      ⟨held, .text .plain units⟩
    = ⟨held, .text .plain (.char c :: units)⟩
  := by
  have hstart : ['\\', 'u', '0', '0'].foldl step ⟨held, .text .plain units⟩
      = ⟨held, .text (.hex 2 (some 0)) units⟩ := rfl
  have hvalue : 16 * (16 * 0 + c.toNat / 16 % 16) + c.toNat % 16 = c.toNat := by omega
  have hunit : unitOfCode c.toNat = .char c := by
    rw [unitOfCode, if_neg (by omega), Char.ofNat_toNat]
  change [lowerHexDigit (c.toNat / 16), lowerHexDigit c.toNat].foldl step
    (['\\', 'u', '0', '0'].foldl step ⟨held, .text .plain units⟩) = _
  rw [hstart, List.foldl_cons, step_hexDigit (by decide), List.foldl_cons, step_last_hexDigit,
    hvalue, hunit]
  rfl

/-- An escaped character is read as the character. -/
theorem foldl_escapeChar (c : Char) :
  (escapeChar c).foldl step ⟨held, .text .plain units⟩
    = ⟨held, .text .plain (.char c :: units)⟩
  := by
  by_cases hletter : c ∈ ['"', '\\', '\x08', '\x0c', '\n', '\r', '\t']
  · simp only [List.mem_cons, List.not_mem_nil, or_false] at hletter
    rcases hletter with rfl | rfl | rfl | rfl | rfl | rfl | rfl
    all_goals rfl
  · simp only [List.mem_cons, List.not_mem_nil, or_false, not_or] at hletter
    obtain ⟨h₁, h₂, h₃, h₄, h₅, h₆, h₇⟩ := hletter
    rw [escapeChar, if_neg h₁, if_neg h₂, if_neg h₃, if_neg h₄, if_neg h₅, if_neg h₆, if_neg h₇]
    split
    · rename_i hc
      apply foldl_hexDigits hc
    · rename_i hc
      simp only [List.foldl_cons, List.foldl_nil, step, inText, if_neg h₁, if_neg h₂, if_neg hc]

/-- A string is read as its characters. -/
theorem foldl_text (s : String) :
  (Lexeme.text s).chars.foldl step ⟨held, .none⟩ = ⟨.text (.ofString s) :: held, .none⟩
  := by
  have hchars : ∀ (cs : List Char) (units : List TextUnit),
      (cs.flatMap escapeChar).foldl step ⟨held, .text .plain units⟩
        = ⟨held, .text .plain ((cs.map .char).reverse ++ units)⟩ := by
    intro cs
    induction cs with
    | nil =>
      intro units
      rfl
    | cons c cs ih =>
      intro units
      rw [List.flatMap_cons, List.foldl_append, foldl_escapeChar, ih, List.map_cons,
        List.reverse_cons, List.append_assoc]
      rfl
  have hstart : step ⟨held, .none⟩ '"' = ⟨held, .text .plain []⟩ := rfl
  rw [Lexeme.chars, List.foldl_cons, hstart, List.foldl_append, hchars, List.append_nil]
  simp [step, inText, emit, Quoted.ofString]

end Scan

/-! ### Lexemes -/

namespace Lexeme

/-- Whether the lexeme is a number. -/
def isNumber : Lexeme → Bool
  | .number _ => true
  | .openBrace | .closeBrace | .openBracket | .closeBracket | .comma | .colon | .word _
  | .text _ => false

/-- The lexeme is no number, or the number is an integer. -/
def Readable : Lexeme → Prop
  | .number n => ∃ i, n = .ofInt i
  | .openBrace | .closeBrace | .openBracket | .closeBracket | .comma | .colon | .word _
  | .text _ => True

/-- The lexemes are not both numbers, and so need no space between them. -/
def Apart (l l' : Lexeme) : Prop := l.isNumber = false ∨ l'.isNumber = false

end Lexeme

namespace Scan

variable {held : List Token} {s : Scan}

/-- The tokens read are those of `held`, in reverse, where the first of them may be a number
that the scanner is still in. -/
inductive Holds : List Token → Scan → Prop where
  | between (held : List Token) : Holds held ⟨held, .none⟩
  | number {held : List Token} {stage : NumberStage} {n : Numeral}
      (hstage : stage.isComplete = true) :
      Holds (.number (.ok n) :: held) ⟨held, .number stage n⟩

/-- A character that does not belong to a number ends one. -/
theorem step_of_holds (hs : Holds held s) {c : Char} (hdigit : digit? c = none)
    (hmark : c ≠ '.' ∧ c ≠ 'e' ∧ c ≠ 'E') :
  s.step c = step ⟨held, .none⟩ c
  := by
  cases hs with
  | between => rfl
  | number hstage =>
    rename_i held stage n
    have hpush : n.push stage c = none := by
      obtain ⟨hpoint, hsmall, hlarge⟩ := hmark
      have hsign : stage ≠ .mark := by
        rintro rfl
        cases hstage
      simp [Numeral.push, hdigit, hpoint, hsmall, hlarge, hsign]
    simp only [step, inNumber, hpush, hstage, hdigit]
    simp [emit]

theorem step_space {c : Char} (hc : isSpace c = true) (hs : Holds held s) :
  s.step c = ⟨held, .none⟩
  := by
  have hspace : c = ' ' ∨ c = '\n' ∨ c = '\r' ∨ c = '\t' := by
    simpa [isSpace, or_assoc] using hc
  rcases hspace with rfl | rfl | rfl | rfl
  all_goals
    rw [step_of_holds hs (by decide) (by decide)]
    rfl

/-- Spaces between lexemes are passed over. -/
theorem holds_foldl_spaces {cs : List Char} (hcs : ∀ c ∈ cs, isSpace c = true)
    (hs : Holds held s) :
  Holds held (cs.foldl step s) ∧ (s = ⟨held, .none⟩ → cs.foldl step s = ⟨held, .none⟩)
  := by
  cases cs with
  | nil => exact ⟨hs, id⟩
  | cons c cs =>
    rw [List.forall_mem_cons] at hcs
    have hrest : cs.foldl step ⟨held, .none⟩ = ⟨held, .none⟩ := by
      obtain ⟨-, hcs⟩ := hcs
      induction cs with
      | nil => rfl
      | cons c cs ih =>
        rw [List.forall_mem_cons] at hcs
        rw [List.foldl_cons, step_space hcs.1 (.between held)]
        apply ih hcs.2
    rw [List.foldl_cons, step_space hcs.1 hs, hrest]
    exact ⟨.between held, fun _ => rfl⟩

theorem chars_eq_cons {l : Lexeme} (hl : l.isNumber = false) :
  ∃ c cs, l.chars = c :: cs ∧ digit? c = none ∧ c ≠ '.' ∧ c ≠ 'e' ∧ c ≠ 'E'
  := by
  cases l with
  | number n => cases hl
  | openBrace | closeBrace | openBracket | closeBracket | comma | colon | text =>
    exact ⟨_, _, rfl, by decide, by decide⟩
  | word w =>
    cases w with
    | null => exact ⟨_, _, rfl, by decide, by decide⟩
    | bool b =>
      cases b with
      | true => exact ⟨_, _, rfl, by decide, by decide⟩
      | false => exact ⟨_, _, rfl, by decide, by decide⟩

theorem foldl_chars_between {l : Lexeme} (hl : l.isNumber = false) :
  l.chars.foldl step ⟨held, .none⟩ = ⟨l.token :: held, .none⟩
  := by
  cases l with
  | number n => cases hl
  | text t => apply foldl_text
  | openBrace | closeBrace | openBracket | closeBracket | comma | colon => rfl
  | word w =>
    cases w with
    | null => rfl
    | bool b =>
      cases b with
      | true => rfl
      | false => rfl

/-- A lexeme other than a number ends a number before it, and is read as its token. -/
theorem foldl_chars {l : Lexeme} (hl : l.isNumber = false) (hs : Holds held s) :
  l.chars.foldl step s = ⟨l.token :: held, .none⟩
  := by
  obtain ⟨c, cs, hchars, hdigit, hmark⟩ := chars_eq_cons hl
  rw [← foldl_chars_between hl, hchars, List.foldl_cons, List.foldl_cons,
    step_of_holds hs hdigit hmark]

/-- Lexemes of which no two numbers stand side by side are read as their tokens. -/
theorem holds_foldl_layOut {ls : List Lexeme} (hreadable : ∀ l ∈ ls, l.Readable)
    (hapart : ls.IsChain Lexeme.Apart) (hs : Holds held s)
    (hfirst : s = ⟨held, .none⟩ ∨ ∀ l ∈ ls.head?, l.isNumber = false) (spacing : Spacing) :
  Holds ((ls.map Lexeme.token).reverse ++ held) ((layOut spacing ls).foldl step s)
  := by
  induction ls generalizing held s spacing with
  | nil => apply (holds_foldl_spaces (spacing.isSpace 0) hs).1
  | cons l ls ih =>
    rw [List.forall_mem_cons] at hreadable
    obtain ⟨hspaces, hnone⟩ := holds_foldl_spaces (spacing.isSpace 0) hs
    rw [layOut, List.foldl_append, List.foldl_append, List.map_cons, List.reverse_cons,
      List.append_assoc, List.singleton_append]
    cases hl : l.isNumber with
    | false =>
      rw [foldl_chars hl hspaces]
      apply ih hreadable.2 hapart.tail (.between _) (.inl rfl)
    | true =>
      cases l with
      | number n =>
        obtain ⟨i, rfl⟩ := hreadable.1
        have hs' : s = ⟨held, .none⟩ := by
          apply hfirst.resolve_right
          intro h
          cases h _ rfl
        obtain ⟨stage, hstage, hspell⟩ := foldl_spell_ofInt held i
        rw [hnone hs', Lexeme.chars, hspell]
        -- The number is still open, and what stands behind it is none.
        apply ih hreadable.2 hapart.tail (.number hstage) (.inr _)
        intro l' hl'
        apply (hapart.rel_head? hl').resolve_left
        nofun
      | openBrace | closeBrace | openBracket | closeBracket | comma | colon | word | text =>
        cases hl

/-- At the end of the text, the tokens read are all there are. -/
theorem finish_of_holds (hs : Holds held s) :
  s.finish = held.reverse
  := by
  cases hs with
  | between => rfl
  | number hstage => simp only [finish, hstage, if_true]

end Scan

/-- Laid-out lexemes are scanned to their tokens. -/
theorem tokens_layOut {ls : List Lexeme} (hreadable : ∀ l ∈ ls, l.Readable)
    (hapart : ls.IsChain Lexeme.Apart) (spacing : Spacing) :
  tokens (layOut spacing ls) = ls.map Lexeme.token
  := by
  have h := Scan.holds_foldl_layOut hreadable hapart (.between []) (.inl rfl) spacing
  rw [List.append_nil] at h
  rw [tokens, Scan.start, Scan.finish_of_holds h, List.reverse_reverse]

end AliasBinding.Json
