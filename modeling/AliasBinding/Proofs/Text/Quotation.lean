import AliasBinding.Json.Token
import AliasBinding.Text.Literal

/-!
# Literals are read back

A reader of literals takes the opening quote, decodes escapes, takes every other character as it
stands, and stops at the first quote that is not escaped.  Each character is read back from its
spelling, whatever follows it (`readQuoted?_spellChar`), so a literal is read back as what was
quoted, and nothing behind it is taken for a part of it (`readLiteral?_of_literal`).
-/

namespace AliasBinding.Text

/-! ### A reader of literals -/

/-- The character that a single character behind a backslash stands for. -/
def escape? : Char → Option Char
  | '"' => some '"'
  | '\'' => some '\''
  | '\\' => some '\\'
  | '0' => some '\x00'
  | 'n' => some '\n'
  | 'r' => some '\r'
  | 't' => some '\t'
  | _ => none

/-- The character of which the hexadecimal digits are the code. -/
def charOfHex? (digits : List Char) : Option Char := do
  let code ← digits.foldlM (fun code d => (16 * code + ·) <$> Json.hexDigit? d) 0
  if code.isValidChar then some (Char.ofNat code) else none

/-- What is quoted in front of the first closing quote, and the text behind it.  An escape is a
backslash with a single character, or with `u` and exactly four hexadecimal digits. -/
def readQuoted? (quote : Char) : List Char → Option (List Char × List Char)
  | [] => none
  | '\\' :: 'u' :: d₁ :: d₂ :: d₃ :: d₄ :: rest => do
    let c ← charOfHex? [d₁, d₂, d₃, d₄]
    let (cs, rest) ← readQuoted? quote rest
    return (c :: cs, rest)
  | '\\' :: e :: rest => do
    let c ← escape? e
    let (cs, rest) ← readQuoted? quote rest
    return (c :: cs, rest)
  | c :: rest =>
    if c = quote then some ([], rest)
    else if c = '\\' then none
    else do
      let (cs, rest) ← readQuoted? quote rest
      return (c :: cs, rest)

/-- The value of the literal in front of a text, and the text behind it. -/
def readLiteral? (quote : Char) (s : String) : Option (String × String) :=
  match s.toList with
  | [] => none
  | c :: rest =>
    if c = quote then
      (readQuoted? quote rest).map fun (cs, rest) => (String.ofList cs, String.ofList rest)
    else none

/-! ### Codes -/

theorem hexDigit?_hexDigit (n : Nat) :
  Json.hexDigit? (hexDigit n) = some (n % 16)
  := by
  have hdigit : ∀ d < 16,
      Json.hexDigit? (if d < 10 then Char.ofNat (d + 48) else Char.ofNat (d + 55)) = some d := by
    decide
  apply hdigit (n % 16) (Nat.mod_lt n (by decide))

theorem hexDigit_ne {c : Char} (h : Json.hexDigit? c = none) (n : Nat) :
  hexDigit n ≠ c
  := by
  rintro rfl
  rw [hexDigit?_hexDigit] at h
  cases h

/-- Four hexadecimal digits are enough for the code of a character below `0x10000`. -/
theorem charOfHex?_hexQuad {c : Char} (hc : c.toNat < 0x10000) :
  charOfHex? (hexQuad c.toNat) = some c
  := by
  have hcode : 16 * (16 * (16 * (16 * 0 + c.toNat / 4096 % 16) + c.toNat / 256 % 16)
      + c.toNat / 16 % 16) + c.toNat % 16 = c.toNat := by
    omega
  have hvalid : c.toNat.isValidChar := c.valid
  simp only [charOfHex?, hexQuad, List.foldlM_cons, List.foldlM_nil, hexDigit?_hexDigit,
    Option.map_eq_map, Option.map_some, Option.bind_eq_bind, Option.bind_some, pure, hcode,
    if_pos hvalid, Char.ofNat_toNat]

theorem toNat_lt_of_isControl {c : Char} (h : isControl c = true) :
  c.toNat < 0x10000
  := by
  simp only [isControl, Bool.or_eq_true, Bool.and_eq_true, decide_eq_true_eq] at h
  omega

/-- A character is spelled with an escape, with a code, or as it stands. -/
theorem spellChar_cases {quote : Char} (hquote : escape? quote = some quote) (c : Char) :
  (∃ e, spellChar quote c = ['\\', e] ∧ escape? e = some c)
    ∨ (spellChar quote c = '\\' :: 'u' :: hexQuad c.toNat ∧ isControl c = true)
    ∨ (spellChar quote c = [c] ∧ c ≠ quote ∧ c ≠ '\\' ∧ isControl c = false)
  := by
  unfold spellChar
  by_cases hescape : c = '\\'
  · exact .inl ⟨'\\', if_pos hescape, by rw [hescape]; rfl⟩
  rw [if_neg hescape]
  by_cases hne : c = quote
  · exact .inl ⟨quote, if_pos hne, by rw [hne, hquote]⟩
  rw [if_neg hne]
  split
  case isTrue h => exact .inl ⟨'0', rfl, by rw [h]; rfl⟩
  split
  case isTrue h => exact .inl ⟨'n', rfl, by rw [h]; rfl⟩
  split
  case isTrue h => exact .inl ⟨'r', rfl, by rw [h]; rfl⟩
  split
  case isTrue h => exact .inl ⟨'t', rfl, by rw [h]; rfl⟩
  split
  case isTrue h => exact .inr (.inl ⟨rfl, h⟩)
  case isFalse h => exact .inr (.inr ⟨rfl, hne, hescape, Bool.eq_false_iff.mpr h⟩)

/-! ### Characters of literals -/

/-- Whether `c` is a printable character of ASCII. -/
def isPrintable (c : Char) : Bool := 0x20 ≤ c.toNat && c.toNat < 0x7F

theorem isPrintable_hexDigit (n : Nat) :
  isPrintable (hexDigit n) = true
  := by
  have hdigit : ∀ d < 16,
      isPrintable (if d < 10 then Char.ofNat (d + 48) else Char.ofNat (d + 55)) = true := by
    decide
  apply hdigit (n % 16) (Nat.mod_lt n (by decide))

/-- An escape is written with a printable character, for another one or for a control character. -/
theorem isPrintable_of_escape? {e c : Char} (h : escape? e = some c) :
  isPrintable e = true ∧ (isPrintable c = true ∨ isControl c = true)
  := by
  unfold escape? at h
  split at h
  case h_8 => cases h
  all_goals
    cases h
    decide

section Characters

variable {quote e : Char} (hquote : escape? quote = some quote) (he : isPrintable e = false)

include hquote he

/-- A character that is neither printable nor a control character stands for itself. -/
theorem spellChar_eq_singleton (hcontrol : isControl e = false) :
  spellChar quote e = [e]
  := by
  obtain ⟨_, -, h⟩ | ⟨-, h⟩ | ⟨hspelled, -⟩ := spellChar_cases hquote e
  · have hprintable := (isPrintable_of_escape? h).2
    rw [he, hcontrol] at hprintable
    simp at hprintable
  · rw [hcontrol] at h
    cases h
  · exact hspelled

/-- A character that is not printable is only in its own spelling, and not there if it is a control
character. -/
theorem mem_spellChar_iff (c : Char) :
  e ∈ spellChar quote c ↔ e = c ∧ isControl e = false
  := by
  have hne {d : Char} (hd : isPrintable d = true) : e ≠ d := by
    rintro rfl
    rw [hd] at he
    cases he
  constructor
  · intro hmem
    obtain ⟨e', hspelled, he'⟩ | ⟨hspelled, -⟩ | ⟨hspelled, -, -, hcontrol⟩ :=
      spellChar_cases hquote c
    · simp [hspelled, hne (isPrintable_of_escape? he').1, hne (d := '\\') rfl] at hmem
    · simp [hspelled, hexQuad, hne (isPrintable_hexDigit _), hne (d := '\\') rfl,
        hne (d := 'u') rfl] at hmem
    · rw [hspelled, List.mem_singleton] at hmem
      subst hmem
      exact ⟨rfl, hcontrol⟩
  · rintro ⟨rfl, hcontrol⟩
    rw [spellChar_eq_singleton hquote he hcontrol]
    apply List.mem_singleton_self

/-- Of the characters that are not printable, a literal has those that are quoted, but for the
control characters. -/
theorem mem_quoted_iff (cs : List Char) :
  e ∈ quoted quote cs ↔ e ∈ cs ∧ isControl e = false
  := by
  have hne : e ≠ quote := by
    rintro rfl
    rw [(isPrintable_of_escape? hquote).1] at he
    cases he
  rw [quoted, List.mem_cons, or_iff_right hne, List.mem_append, List.mem_singleton,
    or_iff_left hne, List.mem_flatMap]
  constructor
  · rintro ⟨c, hc, hmem⟩
    obtain ⟨rfl, hcontrol⟩ := (mem_spellChar_iff hquote he c).mp hmem
    exact ⟨hc, hcontrol⟩
  · rintro ⟨hmem, hcontrol⟩
    exact ⟨e, hmem, (mem_spellChar_iff hquote he e).mpr ⟨rfl, hcontrol⟩⟩

end Characters

/-! ### Reading back -/

section Reading

variable {quote : Char}

theorem readQuoted?_cons_of_ne {c : Char} (h : c ≠ '\\') (rest : List Char) :
  readQuoted? quote (c :: rest)
    = if c = quote then some ([], rest)
      else (readQuoted? quote rest).map fun (cs, rest) => (c :: cs, rest)
  := by
  rw [readQuoted?, if_neg h, Option.map_eq_bind]
  · rfl
  · intro d₁ d₂ d₃ d₄ rest' hc
    exact absurd hc h
  · intro e rest' hc
    exact absurd hc h

theorem readQuoted?_escape {e c : Char} (h : escape? e = some c) (rest : List Char) :
  readQuoted? quote ('\\' :: e :: rest)
    = (readQuoted? quote rest).map fun (cs, rest) => (c :: cs, rest)
  := by
  rw [readQuoted?, h, Option.map_eq_bind]
  · rfl
  · rintro d₁ d₂ d₃ d₄ rest' rfl
    cases h

theorem readQuoted?_code {c : Char} (hc : c.toNat < 0x10000) (rest : List Char) :
  readQuoted? quote ('\\' :: 'u' :: (hexQuad c.toNat ++ rest))
    = (readQuoted? quote rest).map fun (cs, rest) => (c :: cs, rest)
  := by
  have hread := charOfHex?_hexQuad hc
  rw [hexQuad] at hread
  simp only [hexQuad, List.cons_append, List.nil_append]
  rw [readQuoted?, hread, Option.map_eq_bind]
  rfl

/-- A character is read back from its spelling. -/
theorem readQuoted?_spellChar (hquote : escape? quote = some quote) (c : Char)
    (rest : List Char) :
  readQuoted? quote (spellChar quote c ++ rest)
    = (readQuoted? quote rest).map fun (cs, rest) => (c :: cs, rest)
  := by
  obtain ⟨e, hspelled, he⟩ | ⟨hspelled, hc⟩ | ⟨hspelled, hne, hescape, -⟩ :=
    spellChar_cases hquote c
  · rw [hspelled]
    apply readQuoted?_escape he
  · rw [hspelled]
    apply readQuoted?_code (toNat_lt_of_isControl hc)
  · rw [hspelled, List.singleton_append, readQuoted?_cons_of_ne hescape, if_neg hne]

/-- What is quoted is read back up to the closing quote. -/
theorem readQuoted?_flatMap_spellChar (hquote : escape? quote = some quote)
    (hne : quote ≠ '\\') (cs rest : List Char) :
  readQuoted? quote (cs.flatMap (spellChar quote) ++ quote :: rest) = some (cs, rest)
  := by
  induction cs with
  | nil => rw [List.flatMap_nil, List.nil_append, readQuoted?_cons_of_ne hne, if_pos rfl]
  | cons c cs ih =>
    rw [List.flatMap_cons, List.append_assoc, readQuoted?_spellChar hquote, ih]
    rfl

end Reading

/-- A literal in front of any text is read back: as the text or the character that was quoted,
and with nothing of what stands behind it. -/
theorem readLiteral?_of_literal :
  (∀ s rest : String, readLiteral? '"' (stringLiteral s ++ rest) = some (s, rest))
    ∧ ∀ (c : Char) (rest : String),
      readLiteral? '\'' (charLiteral c ++ rest) = some (String.singleton c, rest)
  := by
  have hread {quote : Char} (hquote : escape? quote = some quote) (hne : quote ≠ '\\')
      (cs : List Char) (rest : String) :
      readLiteral? quote (String.ofList (quoted quote cs) ++ rest)
        = some (String.ofList cs, rest) := by
    rw [readLiteral?, String.toList_append, String.toList_ofList, quoted, List.cons_append,
      List.append_assoc, List.singleton_append]
    simp only [if_true, readQuoted?_flatMap_spellChar hquote hne, Option.map_some,
      String.ofList_toList]
  constructor
  · intro s rest
    rw [stringLiteral, hread rfl (by decide), String.ofList_toList]
  · intro c rest
    rw [charLiteral, hread rfl (by decide)]
    rfl

end AliasBinding.Text
