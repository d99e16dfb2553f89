import AliasBinding.Json.Token
import Mathlib.Data.List.Basic

/-!
# Tokens of a text that is cut

The tokens that were finished before the cut are those of the whole text.  If the cut falls
inside a token, the cut text ends in a token that begins the one of the whole text
(`Token.Begins`, `Scan.begins_rest`).  A number that goes on behind the cut is told apart
(`SplitsNumber`), for what was read of it may be a number, and another one.
-/

namespace AliasBinding.Json

/-! ### Tokens cut short -/

/-- The first string is the second one, or was cut short in it. -/
inductive Quoted.Begins : Quoted → Quoted → Prop where
  | same (t : Quoted) : Begins t t
  | cut (units more : List TextUnit) (ending : Except Fault Unit) :
      Begins ⟨units, .error .truncated⟩ ⟨units ++ more, ending⟩

/-- The first token is the second one, or was cut short in it. -/
inductive Token.Begins : Token → Token → Prop where
  | same (t : Token) : Begins t t
  | word (read : Except Fault Word) : Begins (.word (.error .truncated)) (.word read)
  /-- A number that does not go on behind the cut is broken. -/
  | number : Begins (.number (.error .truncated)) (.number (.error .malformed))
  | text {read read' : Quoted} (h : read.Begins read') : Begins (.text read) (.text read')

/-- Whether a token closes an array or an object. -/
def Token.closes : Token → Bool
  | .closeBrace | .closeBracket => true
  | .openBrace | .openBracket | .comma | .colon | .word _ | .number _ | .text _
  | .stray => false

namespace Scan

variable {held : List Token} {p : Pending} {c : Char} {cs : List Char}

/-! ### The tokens behind -/

/-- The scanner is in a token, and if that is a word, it lacks a character. -/
def IsOpen : Pending → Prop
  | .none | .halted => False
  | .word _ lacking => lacking ≠ []
  | .number _ _ | .text _ _ => True

/-- Between tokens, a character that is no space is a token, or begins one, or halts the
scanner. -/
theorem between_of_not_isSpace (hc : isSpace c = false) :
  (∃ t, ∀ s, between s c = s.emit t)
    ∨ (∃ p, (∀ s, between s c = { s with pending := p }) ∧ IsOpen p)
    ∨ ∀ s, between s c = s.halt .stray
  := by
  unfold between
  simp only [hc, Bool.false_eq_true, if_false]
  split
  case h_7 => exact .inr (.inl ⟨_, fun _ => rfl, trivial⟩)
  case h_8 => exact .inr (.inl ⟨_, fun _ => rfl, List.cons_ne_nil _ _⟩)
  case h_9 => exact .inr (.inl ⟨_, fun _ => rfl, List.cons_ne_nil _ _⟩)
  case h_10 => exact .inr (.inl ⟨_, fun _ => rfl, List.cons_ne_nil _ _⟩)
  case h_11 => exact .inr (.inl ⟨_, fun _ => rfl, trivial⟩)
  case h_12 =>
    split
    · split
      · exact .inr (.inl ⟨_, fun _ => rfl, trivial⟩)
      · exact .inr (.inr fun _ => rfl)
    · exact .inr (.inr fun _ => rfl)
  all_goals exact .inl ⟨_, fun _ => rfl⟩

theorem between_of_isSpace (hc : isSpace c = true) (s : Scan) :
  between s c = { s with pending := .none }
  := if_pos hc

/-- Between tokens, those in hand do not matter for what the scanner makes of a character. -/
theorem between_eq (held : List Token) (p : Pending) (c : Char) :
  between ⟨held, p⟩ c
    = ⟨(between ⟨[], .none⟩ c).tokens ++ held, (between ⟨[], .none⟩ c).pending⟩
  := by
  cases hc : isSpace c with
  | true =>
    simp only [between_of_isSpace hc]
    rfl
  | false =>
    obtain ⟨t, h⟩ | ⟨p, h, -⟩ | h := between_of_not_isSpace hc
    all_goals
      simp only [h]
      rfl

/-- The tokens in hand do not matter for what the scanner makes of a character. -/
theorem step_eq (held : List Token) (p : Pending) (c : Char) :
  step ⟨held, p⟩ c = ⟨(step ⟨[], p⟩ c).tokens ++ held, (step ⟨[], p⟩ c).pending⟩
  := by
  cases p with
  | none => apply between_eq
  | halted => rfl
  | word w lacking =>
    simp only [step, inWord]
    split
    · rw [between_eq held, between_eq [] (.word w [])]
      simp
    · split
      · rfl
      · rfl
    · split
      · rfl
      · rfl
  | number stage n =>
    simp only [step, inNumber]
    split
    · rfl
    · split
      · rw [emit, between_eq, emit, between_eq [_]]
        simp
      · rfl
  | text stage units =>
    cases stage with
    | plain =>
      simp only [step, inText]
      split
      · rfl
      · split
        · rfl
        · split
          · rfl
          · rfl
    | escape =>
      simp only [step, inText]
      split
      · rfl
      · split
        · rfl
        · rfl
    | hex bytes value? =>
      simp only [step, inText]
      split
      · rfl
      · split
        · rfl
        · rfl

/-- The tokens that come of the characters `cs` when the scanner is in the token `p`. -/
def rest (p : Pending) (cs : List Char) : List Token := (cs.foldl step ⟨[], p⟩).finish

theorem finish_eq (held : List Token) (p : Pending) :
  finish ⟨held, p⟩ = held.reverse ++ rest p []
  := by
  cases p with
  | none | halted | word | number | text => simp [finish, rest]

/-- The tokens in hand come before those that come of further characters. -/
theorem finish_foldl (held : List Token) (p : Pending) (cs : List Char) :
  (cs.foldl step ⟨held, p⟩).finish = held.reverse ++ rest p cs
  := by
  induction cs generalizing held p with
  | nil => apply finish_eq
  | cons c cs ih =>
    have hrest : rest p (c :: cs) = (step ⟨[], p⟩ c).tokens.reverse
        ++ rest (step ⟨[], p⟩ c).pending cs := ih _ _
    rw [List.foldl_cons, step_eq, ih, hrest, List.reverse_append, List.append_assoc]

/-- The tokens finished by a character come before those behind it. -/
theorem rest_cons (p : Pending) (c : Char) (cs : List Char) :
  rest p (c :: cs) = (step ⟨[], p⟩ c).tokens.reverse ++ rest (step ⟨[], p⟩ c).pending cs
  := finish_foldl (step ⟨[], p⟩ c).tokens (step ⟨[], p⟩ c).pending cs

theorem rest_halted (cs : List Char) :
  rest .halted cs = []
  := by
  induction cs with
  | nil => rfl
  | cons c cs ih =>
    rw [rest_cons]
    apply ih

/-! ### Strings and words -/

/-- In a string, a character ends it or is taken, with a further unit or without. -/
theorem step_text (stage : TextStage) (units : List TextUnit) (c : Char) :
  (∃ ending p, step ⟨[], .text stage units⟩ c = ⟨[.text ⟨units.reverse, ending⟩], p⟩)
    ∨ ∃ stage' more, step ⟨[], .text stage units⟩ c = ⟨[], .text stage' (more ++ units)⟩
  := by
  have hhalt : haltText ⟨[], .text stage units⟩ units
      = ⟨[.text ⟨units.reverse, .error .malformed⟩], .halted⟩ := rfl
  cases stage with
  | plain =>
    simp only [step, inText]
    split
    · exact .inl ⟨_, _, rfl⟩
    · split
      · exact .inr ⟨_, [], rfl⟩
      · split
        · exact .inl ⟨_, _, hhalt⟩
        · exact .inr ⟨_, [_], rfl⟩
  | escape =>
    simp only [step, inText]
    split
    · exact .inr ⟨_, [], rfl⟩
    · split
      · exact .inr ⟨_, [_], rfl⟩
      · exact .inl ⟨_, _, hhalt⟩
  | hex bytes value? =>
    simp only [step, inText]
    split
    · exact .inr ⟨_, [], rfl⟩
    · split
      · exact .inr ⟨_, [_], rfl⟩
      · exact .inl ⟨_, _, hhalt⟩

/-- What comes of a string begins with the units it has. -/
theorem exists_rest_text (stage : TextStage) (units : List TextUnit) (cs : List Char) :
  ∃ more ending ts, rest (.text stage units) cs = .text ⟨units.reverse ++ more, ending⟩ :: ts
  := by
  induction cs generalizing stage units with
  | nil =>
    use [], .error .truncated, []
    rw [List.append_nil]
    rfl
  | cons c cs ih =>
    rw [rest_cons]
    obtain ⟨ending, p, h⟩ | ⟨stage', more, h⟩ := step_text stage units c
    · rw [h]
      use [], ending, rest p cs
      rw [List.append_nil]
      rfl
    · rw [h]
      obtain ⟨further, ending, ts, hrest⟩ := ih stage' (more ++ units)
      use more.reverse ++ further, ending, ts
      rw [hrest, List.reverse_append, List.append_assoc]
      rfl

/-- What comes of a word that lacks a character is a word, whole or not. -/
theorem exists_rest_word (w : Word) {lacking : List Char} (hlacking : lacking ≠ [])
    (cs : List Char) :
  ∃ read ts, rest (.word w lacking) cs = .word read :: ts
  := by
  induction cs generalizing lacking with
  | nil => exact ⟨.error .truncated, [], rfl⟩
  | cons c cs ih =>
    rw [rest_cons, step]
    simp only [inWord]
    split
    · contradiction
    · split
      · exact ⟨_, _, rfl⟩
      · exact ⟨_, _, rfl⟩
    · rename_i hrest
      split
      · apply ih hrest
      · exact ⟨_, _, rfl⟩

/-! ### Numbers -/

/-- Whether a character can stand in a number. -/
def isNumberChar (c : Char) : Bool :=
  (digit? c).isSome || c == '.' || c == 'e' || c == 'E' || c == '+' || c == '-'

theorem push_eq_none (hc : isNumberChar c = false) (n : Numeral) (stage : NumberStage) :
  n.push stage c = none
  := by
  simp only [isNumberChar, Bool.or_eq_false_iff, beq_eq_false_iff_ne,
    Option.isSome_eq_false_iff, Option.isNone_iff_eq_none] at hc
  obtain ⟨⟨⟨⟨⟨hdigit, hpoint⟩, he⟩, hE⟩, hplus⟩, hminus⟩ := hc
  simp [Numeral.push, hdigit, hpoint, he, hE, hplus, hminus]

/-- A number is ended by a character that cannot stand in one. -/
theorem step_number (hc : isNumberChar c = false) (stage : NumberStage) (n : Numeral) :
  ∃ p ts, step ⟨[], .number stage n⟩ c
    = ⟨ts ++ [.number (if stage.isComplete then .ok n else .error .malformed)], p⟩
  := by
  have hdigit : (digit? c).isSome = false := by
    simp only [isNumberChar, Bool.or_eq_false_iff] at hc
    apply hc.1.1.1.1.1
  simp only [step, inNumber, push_eq_none hc, hdigit, Bool.and_false, Bool.not_false,
    Bool.and_true]
  cases stage.isComplete with
  | true =>
    rw [if_pos rfl, if_pos rfl, emit, between_eq]
    exact ⟨_, _, rfl⟩
  | false => exact ⟨_, [], rfl⟩

/-- What comes of a number is a number, whole or not. -/
theorem exists_rest_number (stage : NumberStage) (n : Numeral) (cs : List Char) :
  ∃ read ts, rest (.number stage n) cs = .number read :: ts
  := by
  induction cs generalizing stage n with
  | nil => exact ⟨_, _, rfl⟩
  | cons c cs ih =>
    rw [rest_cons, step]
    simp only [inNumber]
    split
    · apply ih
    · split
      · rw [emit, between_eq, List.reverse_append, List.append_assoc]
        exact ⟨_, _, rfl⟩
      · exact ⟨_, _, rfl⟩

/-! ### The token at the cut -/

/-- The scanner is in a number, and the first of the further characters can stand in one. -/
def GoesOn (p : Pending) (cs : List Char) : Prop :=
  (∃ stage n, p = .number stage n) ∧ ∃ c ∈ cs.head?, isNumberChar c = true

/-- The token that the scanner is in begins the one that comes of it, unless it is a number
that goes on. -/
theorem begins_rest (hp : IsOpen p) (cs : List Char) :
  ∃ t t' ts, rest p [] = [t] ∧ t.closes = false ∧ rest p cs = t' :: ts
    ∧ (¬GoesOn p cs → t.Begins t')
  := by
  cases p with
  | none => cases hp
  | halted => cases hp
  | word w lacking =>
    obtain ⟨read, ts, h⟩ := exists_rest_word w hp cs
    exact ⟨_, _, ts, rfl, rfl, h, fun _ => .word read⟩
  | text stage units =>
    obtain ⟨more, ending, ts, h⟩ := exists_rest_text stage units cs
    exact ⟨_, _, ts, rfl, rfl, h, fun _ => .text (.cut _ more ending)⟩
  | number stage n =>
    cases cs with
    | nil => exact ⟨_, _, [], rfl, rfl, rfl, fun _ => .same _⟩
    | cons c cs =>
      cases hc : isNumberChar c with
      | true =>
        -- What was read so far may be a number of its own, so nothing is said of the two.
        obtain ⟨read, ts, h⟩ := exists_rest_number stage n (c :: cs)
        have hgoesOn : GoesOn (.number stage n) (c :: cs) := ⟨⟨stage, n, rfl⟩, c, rfl, hc⟩
        exact ⟨_, _, ts, rfl, rfl, h, fun h => absurd hgoesOn h⟩
      | false =>
        obtain ⟨p, ts, hstep⟩ := step_number hc stage n
        have hrest := rest_cons (.number stage n) c cs
        rw [hstep, List.reverse_append, List.append_assoc] at hrest
        refine ⟨_, _, _, rfl, rfl, hrest, fun _ => ?_⟩
        cases stage.isComplete with
        | true => apply Token.Begins.same
        | false => apply Token.Begins.number

/-- The scanner is between tokens, or in one, or halts behind one that is broken and so closes
nothing. -/
def Stands (s : Scan) : Prop :=
  s.pending = .none ∨ IsOpen s.pending
    ∨ s.pending = .halted ∧ ∃ t ts, s.tokens = t :: ts ∧ t.closes = false

theorem stands_emit (s : Scan) (t : Token) :
  (s.emit t).Stands
  := .inl rfl

theorem stands_halt (s : Scan) {t : Token} (ht : t.closes = false) :
  (s.halt t).Stands
  := .inr (.inr ⟨rfl, t, s.tokens, rfl, ht⟩)

theorem stands_of_isOpen (held : List Token) (h : IsOpen p) :
  Stands ⟨held, p⟩
  := .inr (.inl h)

theorem stands_between (s : Scan) (c : Char) :
  (s.between c).Stands
  := by
  cases hc : isSpace c with
  | true =>
    rw [between_of_isSpace hc]
    exact .inl rfl
  | false =>
    obtain ⟨t, h⟩ | ⟨p, h, hp⟩ | h := between_of_not_isSpace hc
    · rw [h]
      apply stands_emit
    · rw [h]
      apply stands_of_isOpen s.tokens hp
    · rw [h]
      apply stands_halt s rfl

theorem stands_inText (s : Scan) (stage : TextStage) (units : List TextUnit) (c : Char) :
  (s.inText stage units c).Stands
  := by
  cases stage with
  | plain =>
    simp only [inText]
    split
    · apply stands_emit
    · split
      · exact stands_of_isOpen s.tokens trivial
      · split
        · apply stands_halt s rfl
        · exact stands_of_isOpen s.tokens trivial
  | escape =>
    simp only [inText]
    split
    · exact stands_of_isOpen s.tokens trivial
    · split
      · exact stands_of_isOpen s.tokens trivial
      · apply stands_halt s rfl
  | hex bytes value? =>
    simp only [inText]
    split
    · exact stands_of_isOpen s.tokens trivial
    · split
      · exact stands_of_isOpen s.tokens trivial
      · apply stands_halt s rfl

theorem stands_step {s : Scan} (hs : s.Stands) (c : Char) :
  (s.step c).Stands
  := by
  unfold step
  split
  · apply stands_between
  · rename_i w lacking _
    unfold inWord
    split
    · apply stands_between
    · split
      · apply stands_emit
      · apply stands_halt s rfl
    · rename_i hrest _
      split
      · exact stands_of_isOpen s.tokens hrest
      · apply stands_halt s rfl
  · rename_i stage n _
    unfold inNumber
    split
    · exact stands_of_isOpen s.tokens trivial
    · split
      · apply stands_between
      · apply stands_halt s rfl
  · apply stands_inText
  · apply hs

theorem stands_foldl (cs : List Char) {s : Scan} (hs : s.Stands) :
  (cs.foldl step s).Stands
  := by
  induction cs generalizing s with
  | nil => apply hs
  | cons c cs ih => apply ih (stands_step hs c)

/-- Only spaces make no token. -/
theorem isSpace_of_rest_eq_nil (h : rest .none cs = []) :
  ∀ c ∈ cs, isSpace c = true
  := by
  induction cs with
  | nil => nofun
  | cons c cs ih =>
    rw [rest_cons, List.append_eq_nil_iff, List.reverse_eq_nil_iff] at h
    rw [List.forall_mem_cons]
    cases hc : isSpace c with
    | true =>
      have hstep : step ⟨[], .none⟩ c = ⟨[], .none⟩ := between_of_isSpace hc _
      rw [hstep] at h
      exact ⟨rfl, ih h.2⟩
    | false =>
      exfalso
      have hstep : step ⟨[], .none⟩ c = between ⟨[], .none⟩ c := rfl
      rw [hstep] at h
      obtain ⟨t, hbetween⟩ | ⟨p, hbetween, hp⟩ | hbetween := between_of_not_isSpace hc
      · rw [hbetween] at h
        cases h.1
      · rw [hbetween] at h
        obtain ⟨_, t, ts, -, -, hrest, -⟩ := begins_rest hp cs
        rw [hrest] at h
        cases h.2
      · rw [hbetween] at h
        cases h.1

end Scan

/-- The cut between the two texts falls inside a number. -/
def SplitsNumber (p q : String) : Prop :=
  Scan.GoesOn (p.toList.foldl Scan.step Scan.start).pending q.toList

end AliasBinding.Json
