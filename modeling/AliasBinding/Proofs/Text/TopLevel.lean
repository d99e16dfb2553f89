import AliasBinding.Proofs.Text.Quotation
import Mathlib.Data.Bool.AllAny

/-!
# Outside of brackets and literals

A scan of a text keeps the brackets that are open, and knows whether it is in a literal.  A
character is on the top level when no bracket is open, and no literal.  A text is closed when a scan
leaves it as it came to it, with nothing of what the text avoids on the top level; closed texts are
put together from characters that are no delimiters, from closed texts in brackets, and from
literals, whatever is quoted in these (`Closed.quoted`).
-/

namespace AliasBinding.Text

/-! ### Scans -/

/-- The closing bracket for an opening one. -/
def closer? : Char → Option Char
  | '(' => some ')'
  | '<' => some '>'
  | '[' => some ']'
  | _ => none

/-- The characters that are not just passed outside of literals. -/
def delimiters : List Char := ['(', ')', '<', '>', '[', ']', '"', '\'']

theorem mem_delimiters_of_closer? {c d : Char} (h : closer? c = some d) :
  c ∈ delimiters ∧ d ∈ delimiters
  := by
  unfold closer? at h
  split at h
  case h_1 | h_2 | h_3 =>
    cases h
    decide
  case h_4 => cases h

/-- Where a scan is, with the brackets that are open, the innermost one first. -/
inductive Place where
  | outside (opened : List Char)
  /-- In a literal that the quote closes. -/
  | inside (quote : Char) (opened : List Char)
  /-- Behind a backslash in a literal. -/
  | escape (quote : Char) (opened : List Char)
  deriving DecidableEq

namespace Place

/-- Outside of brackets and literals. -/
def top : Place := .outside []

/-- Where a scan is behind a character. -/
def next : Place → Char → Place
  | .outside opened, c =>
    if c = '"' ∨ c = '\'' then .inside c opened
    else
      match closer? c with
      | some _ => .outside (c :: opened)
      | none =>
        if opened.head?.bind closer? = some c then .outside opened.tail else .outside opened
  | .inside quote opened, c =>
    if c = '\\' then .escape quote opened
    else if c = quote then .outside opened
    else .inside quote opened
  | .escape quote opened, _ => .inside quote opened

section Brackets

variable {b b' : Char} (hb : closer? b = some b') (opened : List Char)

include hb

theorem next_opening :
  next (.outside opened) b = .outside (b :: opened)
  := by
  unfold closer? at hb
  split at hb
  case h_1 | h_2 | h_3 => rfl
  case h_4 => cases hb

theorem next_closing :
  next (.outside (b :: opened)) b' = .outside opened
  := by
  unfold closer? at hb
  split at hb
  case h_1 | h_2 | h_3 =>
    cases hb
    rfl
  case h_4 => cases hb

end Brackets

/-- Where a scan is behind a text. -/
def run (p : Place) (cs : List Char) : Place := cs.foldl next p

/-- The characters of a text, each with the mark whether it is on the top level. -/
def marked : Place → List Char → List (Char × Bool)
  | _, [] => []
  | p, c :: cs => (c, decide (p = top)) :: (p.next c).marked cs

theorem marked_append (p : Place) (cs cs' : List Char) :
  p.marked (cs ++ cs') = p.marked cs ++ (p.run cs).marked cs'
  := by
  induction cs generalizing p with
  | nil => rfl
  | cons c cs ih =>
    rw [List.cons_append, marked, marked, ih, List.cons_append, run, run, List.foldl_cons]

theorem map_fst_marked (p : Place) (cs : List Char) :
  (p.marked cs).map Prod.fst = cs
  := by
  induction cs generalizing p with
  | nil => rfl
  | cons c cs ih => rw [marked, List.map_cons, ih]

/-! ### Passing a text -/

/-- A scan comes from one place to another over the text, and what it finds on the top level is
allowed there. -/
structure Passes (allowed : Char → Prop) (p : Place) (cs : List Char) (p' : Place) : Prop where
  run_eq : p.run cs = p'
  of_mem_marked : ∀ c, (c, true) ∈ p.marked cs → allowed c

namespace Passes

variable {allowed : Char → Prop} {p p' p'' : Place} {cs cs' : List Char}

theorem nil :
  Passes allowed p [] p
  := ⟨rfl, nofun⟩

theorem append (h : Passes allowed p cs p') (h' : Passes allowed p' cs' p'') :
  Passes allowed p (cs ++ cs') p''
  := by
  constructor
  case run_eq => rw [run, List.foldl_append, ← run, ← run, h.run_eq, h'.run_eq]
  case of_mem_marked =>
    intro c hc
    rw [marked_append, h.run_eq, List.mem_append] at hc
    exact hc.elim (h.of_mem_marked c) (h'.of_mem_marked c)

theorem cons {c : Char} (hc : p = top → allowed c) (h : Passes allowed (p.next c) cs p') :
  Passes allowed p (c :: cs) p'
  := by
  have hfirst : Passes allowed p [c] (p.next c) := by
    constructor
    case run_eq => rfl
    case of_mem_marked =>
      intro d hd
      rw [marked, marked, List.mem_singleton, Prod.mk.injEq] at hd
      rw [hd.1]
      apply hc (of_decide_eq_true hd.2.symm)
  exact hfirst.append h

end Passes

/-- In a literal nothing is on the top level. -/
theorem inside_ne_top {quote : Char} {opened : List Char} :
  inside quote opened ≠ top
  := nofun

theorem escape_ne_top {quote : Char} {opened : List Char} :
  escape quote opened ≠ top
  := nofun

section Literals

variable {allowed : Char → Prop} {quote : Char} (opened : List Char)

theorem passes_inside {cs : List Char} (h : ∀ c ∈ cs, c ≠ '\\' ∧ c ≠ quote) :
  Passes allowed (.inside quote opened) cs (.inside quote opened)
  := by
  induction cs with
  | nil => apply Passes.nil
  | cons c cs ih =>
    rw [List.forall_mem_cons] at h
    apply Passes.cons (absurd · inside_ne_top)
    rw [next, if_neg h.1.1, if_neg h.1.2]
    apply ih h.2

/-- A character behind a backslash stays in the literal, and so do those that follow it and are
neither a backslash nor the quote. -/
theorem passes_escape {c : Char} {cs : List Char} (h : ∀ c ∈ cs, c ≠ '\\' ∧ c ≠ quote) :
  Passes allowed (.inside quote opened) ('\\' :: c :: cs) (.inside quote opened)
  := by
  apply Passes.cons (absurd · inside_ne_top)
  rw [next, if_pos rfl]
  apply Passes.cons (absurd · escape_ne_top)
  rw [next]
  apply passes_inside opened h

variable (hquote : quote = '"' ∨ quote = '\'')

include hquote

/-- However a character is spelled, a scan stays in the literal. -/
theorem passes_spellChar (c : Char) :
  Passes allowed (.inside quote opened) (spellChar quote c) (.inside quote opened)
  := by
  have hescape : escape? quote = some quote := by
    obtain rfl | rfl := hquote
    · rfl
    · rfl
  have hhex : Json.hexDigit? quote = none := by
    obtain rfl | rfl := hquote
    · rfl
    · rfl
  obtain ⟨e, h, -⟩ | ⟨h, -⟩ | ⟨h, hne, hbackslash, -⟩ := spellChar_cases hescape c
  · rw [h]
    apply passes_escape opened (List.forall_mem_nil _)
  · -- the digits of a code are neither a backslash nor the quote
    rw [h]
    apply passes_escape
    simp [hexQuad, hexDigit_ne hhex, hexDigit_ne (c := '\\') rfl]
  · rw [h]
    apply passes_inside opened
    simp [hne, hbackslash]

theorem passes_quoted (hallowed : opened = [] → allowed quote) (cs : List Char) :
  Passes allowed (.outside opened) (quoted quote cs) (.outside opened)
  := by
  have hclosing : next (.inside quote opened) quote = .outside opened := by
    obtain rfl | rfl := hquote
    · rfl
    · rfl
  have hbody : Passes allowed (.inside quote opened) (cs.flatMap (spellChar quote) ++ [quote])
      (.outside opened) := by
    induction cs with
    | nil =>
      apply Passes.cons (absurd · inside_ne_top)
      rw [hclosing]
      apply Passes.nil
    | cons c cs ih =>
      rw [List.flatMap_cons, List.append_assoc]
      apply (passes_spellChar opened hquote c).append ih
  apply Passes.cons
  · intro htop
    apply hallowed (by simpa [top] using htop)
  · rw [next, if_pos hquote]
    apply hbody

end Literals

end Place

/-! ### Closed texts -/

open Place

/-- A scan leaves the text as it came to it, and no character that is avoided is on the top level
of the text. -/
def Closed (avoided cs : List Char) : Prop :=
  ∀ opened, Passes (fun c => opened = [] ∧ c ∉ avoided) (.outside opened) cs (.outside opened)

namespace Closed

variable {avoided avoided' cs cs' : List Char}

theorem nil :
  Closed avoided []
  := fun _ => Passes.nil

theorem append (h : Closed avoided cs) (h' : Closed avoided cs') :
  Closed avoided (cs ++ cs')
  := fun opened => (h opened).append (h' opened)

theorem intercalate {separator : List Char} {css : List (List Char)}
    (hseparator : Closed avoided separator) (h : ∀ cs ∈ css, Closed avoided cs) :
  Closed avoided (separator.intercalate css)
  := by
  induction css with
  | nil => apply Closed.nil
  | cons cs css ih =>
    rw [List.forall_mem_cons] at h
    obtain ⟨hcs, hcss⟩ := h
    cases css with
    | nil =>
      rw [List.intercalate_singleton]
      apply hcs
    | cons next css =>
      rw [List.intercalate_cons_cons]
      apply (hcs.append hseparator).append (ih hcss)

theorem mono (h : Closed avoided cs) (hsub : avoided' ⊆ avoided) :
  Closed avoided' cs
  := by
  intro opened
  obtain ⟨hrun, hallowed⟩ := h opened
  refine ⟨hrun, fun c hc => ?_⟩
  obtain ⟨hopened, hne⟩ := hallowed c hc
  exact ⟨hopened, fun hmem => hne (hsub hmem)⟩

/-- Characters that are no delimiters leave a scan where it is. -/
theorem of_notMem (h : ∀ c ∈ cs, c ∉ delimiters ∧ c ∉ avoided) :
  Closed avoided cs
  := by
  intro opened
  induction cs with
  | nil => apply Passes.nil
  | cons c cs ih =>
    rw [List.forall_mem_cons] at h
    obtain ⟨⟨hdelimiter, hc⟩, hcs⟩ := h
    have hquote : ¬(c = '"' ∨ c = '\'') := by
      rintro (rfl | rfl)
      · exact hdelimiter (by decide)
      · exact hdelimiter (by decide)
    have hopening : closer? c = none := by
      apply Option.eq_none_iff_forall_ne_some.mpr
      intro d hd
      exact hdelimiter (mem_delimiters_of_closer? hd).1
    have hclosing : ¬opened.head?.bind closer? = some c := by
      rw [Option.bind_eq_some_iff]
      rintro ⟨b, -, hb⟩
      exact hdelimiter (mem_delimiters_of_closer? hb).2
    apply Passes.cons
    · intro htop
      exact ⟨by simpa [top] using htop, hc⟩
    · rw [next, if_neg hquote, hopening]
      dsimp only
      rw [if_neg hclosing]
      apply ih hcs

theorem of_forall {P : Char → Prop} (hP : ∀ d ∈ delimiters ++ avoided, ¬P d)
    (h : ∀ c ∈ cs, P c) :
  Closed avoided cs
  := by
  apply of_notMem
  intro c hc
  rw [← not_or, ← List.mem_append]
  intro hmem
  exact hP c hmem (h c hc)

theorem of_all (h : (cs.all fun c => decide (c ∉ delimiters ∧ c ∉ avoided)) = true) :
  Closed avoided cs
  := of_notMem (List.all_iff_forall_prop.mp h)

/-- A closed text in brackets is closed, whatever is on its top level. -/
theorem bracketed {b b' : Char} {rest : List Char} (hb : closer? b = some b') (hne : b ∉ avoided)
    (h : Closed avoided' cs) (hrest : Closed avoided rest) :
  Closed avoided (b :: (cs ++ b' :: rest))
  := by
  intro opened
  have hinner : Passes (fun c => opened = [] ∧ c ∉ avoided) (.outside (b :: opened)) cs
      (.outside (b :: opened)) := by
    obtain ⟨hrun, hallowed⟩ := h (b :: opened)
    refine ⟨hrun, fun c hc => ?_⟩
    -- behind an opening bracket nothing is on the top level
    cases (hallowed c hc).1
  apply Passes.cons
  · intro htop
    exact ⟨by simpa [top] using htop, hne⟩
  · rw [next_opening hb]
    apply hinner.append
    apply Passes.cons nofun
    rw [next_closing hb]
    apply hrest

theorem quoted {quote : Char} (hquote : quote = '"' ∨ quote = '\'') (havoided : quote ∉ avoided)
    (cs : List Char) :
  Closed avoided (Text.quoted quote cs)
  := fun opened => passes_quoted opened hquote (⟨·, havoided⟩) cs

/-- On the top level behind a closed text a scan goes on as if the text were not there. -/
theorem marked_append (h : Closed avoided cs) (cs' : List Char) :
  top.marked (cs ++ cs') = top.marked cs ++ top.marked cs'
  := by
  rw [Place.marked_append, top, (h []).run_eq]

theorem notMem_marked (h : Closed avoided cs) {c : Char} (hc : c ∈ avoided) :
  (c, true) ∉ top.marked cs
  := fun hmem => ((h []).of_mem_marked c hmem).2 hc

end Closed

/-! ### Cutting on the top level -/

/-- A text behind the bracket that it begins with. -/
def behindBracket (cs : List Char) : List Char :=
  ((top.marked cs).tail.dropWhile fun m => !m.2).map Prod.fst

theorem behindBracket_bracketed {avoided cs : List Char} {b b' : Char} (hb : closer? b = some b')
    (h : Closed avoided cs) (rest : List Char) :
  behindBracket (b :: (cs ++ b' :: rest)) = rest
  := by
  have hmarked : (top.marked (b :: (cs ++ b' :: rest))).tail
      = (outside [b]).marked cs ++ (b', false) :: top.marked rest := by
    rw [marked, List.tail_cons, top, next_opening hb, marked_append, (h [b]).run_eq, marked,
      next_closing hb]
    rfl
  have hinner : ∀ m ∈ (outside [b]).marked cs, (!m.2) = true := by
    rintro ⟨c, isTop⟩ hm
    cases isTop with
    | false => rfl
    | true => cases ((h [b]).of_mem_marked c hm).1
  rw [behindBracket, hmarked, List.dropWhile_append_of_pos hinner, List.dropWhile_cons_of_pos rfl]
  cases rest with
  | nil => rfl
  | cons c rest =>
    rw [marked, List.dropWhile_cons_of_neg (by simp), ← marked, map_fst_marked]

/-- The items of a list: what stands between the commas on the top level, without the spaces in
front. -/
def topItems (list : String) : List String :=
  if list = "" then []
  else ((top.marked list.toList).splitOn (',', true)).map fun item =>
    String.ofList ((item.map Prod.fst).dropWhile (· = ' '))

/-- What stands in front of the first equals sign on the top level with a space on either side, and
what stands behind it, if there is one. -/
def cutMarked : List (Char × Bool) → List Char × Option (List Char)
  | [] => ([], none)
  | (' ', true) :: ('=', true) :: (' ', true) :: rest => ([], some (rest.map Prod.fst))
  | (c, _) :: rest => ((c :: (cutMarked rest).1), (cutMarked rest).2)

/-- A text in front of its first equals sign on the top level, and behind it. -/
def cutAtSign (s : String) : String × Option String :=
  (cutMarked (top.marked s.toList)).map String.ofList (Option.map String.ofList)

theorem cutMarked_cons {m : Char × Bool} {ms : List (Char × Bool)}
    (h : ms.head? ≠ some ('=', true)) :
  cutMarked (m :: ms) = (m.1 :: (cutMarked ms).1, (cutMarked ms).2)
  := by
  rw [cutMarked.eq_def]
  split
  case h_1 heq => cases heq
  case h_2 heq =>
    cases heq
    exact absurd rfl h
  case h_3 heq =>
    cases heq
    rfl

theorem cutMarked_of_notMem {ms : List (Char × Bool)} (h : ('=', true) ∉ ms) :
  cutMarked ms = (ms.map Prod.fst, none)
  := by
  induction ms with
  | nil => rfl
  | cons m ms ih =>
    rw [List.mem_cons, not_or] at h
    rw [cutMarked_cons, ih h.2, List.map_cons]
    intro hhead
    exact h.2 (List.mem_of_mem_head? hhead)

theorem cutMarked_append {ms : List (Char × Bool)} (h : ('=', true) ∉ ms)
    (rest : List (Char × Bool)) :
  cutMarked (ms ++ (' ', true) :: ('=', true) :: (' ', true) :: rest)
    = (ms.map Prod.fst, some (rest.map Prod.fst))
  := by
  induction ms with
  | nil => rfl
  | cons m ms ih =>
    rw [List.mem_cons, not_or] at h
    rw [List.cons_append, cutMarked_cons, ih h.2, List.map_cons]
    rw [List.head?_append, ne_eq, Option.or_eq_some_iff, not_or]
    constructor
    · intro hhead
      exact h.2 (List.mem_of_mem_head? hhead)
    · simp

section Cutting

variable {avoided : List Char} {before : String} (h : Closed avoided before.toList)
  (hsign : '=' ∈ avoided)

include h hsign

theorem cutAtSign_of_closed :
  cutAtSign before = (before, none)
  := by
  rw [cutAtSign, cutMarked_of_notMem (h.notMem_marked hsign), map_fst_marked, Prod.map_apply,
    String.ofList_toList, Option.map_none]

theorem cutAtSign_append (after : String) :
  cutAtSign (before ++ " = " ++ after) = (before, some after)
  := by
  have hmarked : top.marked (before ++ " = " ++ after).toList
      = top.marked before.toList ++ (' ', true) :: ('=', true) :: (' ', true)
        :: top.marked after.toList := by
    rw [String.toList_append, String.toList_append, List.append_assoc, h.marked_append]
    rfl
  rw [cutAtSign, hmarked, cutMarked_append (h.notMem_marked hsign), map_fst_marked,
    map_fst_marked, Prod.map_apply, Option.map_some, String.ofList_toList, String.ofList_toList]

end Cutting

end AliasBinding.Text
