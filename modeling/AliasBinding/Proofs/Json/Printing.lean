import AliasBinding.Proofs.Json.Building
import AliasBinding.Proofs.Outcome

/-!
# Printed values

What is printed for lists of strings and for objects of printed values is the lexemes of a
value, laid out with spaces and line ends (`Lays`).  So it is read back like any text that
writes the value (`Lays.ofText_eq`).
-/

namespace AliasBinding.Json

/-! ### Laid-out lexemes -/

/-- The characters are those of the lexemes, with spaces around them. -/
inductive Lays : List Lexeme → List Char → Prop where
  | nil : Lays [] []
  | space {c : Char} {ls : List Lexeme} {cs : List Char} (hc : Scan.isSpace c = true)
      (h : Lays ls cs) : Lays ls (c :: cs)
  | lexeme (l : Lexeme) {ls : List Lexeme} {cs : List Char} (h : Lays ls cs) :
      Lays (l :: ls) (l.chars ++ cs)

/-- The spacing with the given spaces in front of a further first lexeme. -/
def Spacing.behind (spacing : Spacing) (first : List Char)
    (hfirst : ∀ c ∈ first, Scan.isSpace c = true) : Spacing where
  gap i := i.casesOn first spacing.gap
  isSpace i := by
    cases i with
    | zero => apply hfirst
    | succ i => apply spacing.isSpace i

namespace Lays

variable {ls ls' : List Lexeme} {cs cs' : List Char}

theorem exists_layOut_eq (h : Lays ls cs) :
  ∃ spacing, layOut spacing ls = cs
  := by
  induction h with
  | nil => exact ⟨⟨fun _ => [], fun _ _ h => absurd h List.not_mem_nil⟩, rfl⟩
  | @space c ls _ hc _ ih =>
    obtain ⟨spacing, rfl⟩ := ih
    use spacing.rest.behind (c :: spacing.gap 0) (List.forall_mem_cons.mpr ⟨hc, spacing.isSpace 0⟩)
    cases ls with
    | nil => rfl
    | cons l ls => rfl
  | lexeme l _ ih =>
    obtain ⟨spacing, rfl⟩ := ih
    use spacing.behind [] fun _ h => absurd h List.not_mem_nil
    rfl

theorem append (h : Lays ls cs) (h' : Lays ls' cs') :
  Lays (ls ++ ls') (cs ++ cs')
  := by
  induction h with
  | nil => apply h'
  | space hc _ ih => apply ih.space hc
  | lexeme l _ ih =>
    rw [List.append_assoc]
    apply ih.lexeme l

theorem one (l : Lexeme) :
  Lays [l] l.chars
  := by
  rw [← List.append_nil l.chars]
  apply Lays.nil.lexeme l

theorem spaces (h : ∀ c ∈ cs, Scan.isSpace c = true) :
  Lays [] cs
  := by
  induction cs with
  | nil => apply Lays.nil
  | cons c cs ih =>
    rw [List.forall_mem_cons] at h
    apply (ih h.2).space h.1

/-- A text that lays out the lexemes of an exact value is read back to the value. -/
theorem ofText_eq {real : Float → Numeral} {v : Json} {text : String} {room : Nat}
    (h : Lays (v.lexemes real) text.toList) (hv : v.Exact) (hdepth : v.depth ≤ room) :
  ofText text room = .ok v
  := by
  obtain ⟨spacing, hspacing⟩ := h.exists_layOut_eq
  have hwrite : text = v.write real spacing := by
    rw [write, hspacing, String.ofList_toList]
  rw [ofText, hwrite, ofText_write hv]
  apply bind_eq_ok (toJson_node v room hv hdepth)
  rfl

end Lays

/-! ### Lists of lexemes -/

/-- The lexemes of items between brackets. -/
def Lexeme.block (left right : Lexeme) : List (List Lexeme) → List Lexeme
  | [] => [left, right]
  | item :: items => left :: (item ++ items.flatMap (.comma :: ·) ++ [right])

section Lexemes

variable (real : Float → Numeral)

theorem furtherItems_eq (items : List Json) :
  furtherItems real items = (items.map (lexemes real)).flatMap (.comma :: ·)
  := by
  induction items with
  | nil => rw [furtherItems]; rfl
  | cons item items ih => rw [furtherItems, ih]; rfl

theorem lexemes_array (items : List Json) :
  (array items).lexemes real
    = Lexeme.block .openBracket .closeBracket (items.map (lexemes real))
  := by
  cases items with
  | nil => rw [lexemes]; rfl
  | cons item items => rw [lexemes, furtherItems_eq]; rfl

/-- The lexemes of a member of an object. -/
def memberLexemes (member : String × Json) : List Lexeme :=
  .text member.1 :: .colon :: member.2.lexemes real

theorem furtherMembers_eq (members : List (String × Json)) :
  furtherMembers real members = (members.map (memberLexemes real)).flatMap (.comma :: ·)
  := by
  induction members with
  | nil => rw [furtherMembers]; rfl
  | cons member members ih => rw [furtherMembers, ih]; rfl

theorem lexemes_object (members : List (String × Json)) :
  (object members).lexemes real
    = Lexeme.block .openBrace .closeBrace (members.map (memberLexemes real))
  := by
  cases members with
  | nil => rw [lexemes]; rfl
  | cons member members => rw [lexemes, furtherMembers_eq]; rfl

end Lexemes

/-! ### Printed texts -/

/-- The text lays out the lexemes. -/
def Prints (ls : List Lexeme) (text : String) : Prop := Lays ls text.toList

theorem prints_append {ls ls' : List Lexeme} {s t : String} (h : Prints ls s)
    (h' : Prints ls' t) :
  Prints (ls ++ ls') (s ++ t)
  := by
  rw [Prints, String.toList_append]
  apply h.append h'

theorem prints_printString (s : String) :
  Prints [.text s] (printString s)
  := by
  rw [Prints, printString, String.toList_ofList]
  apply Lays.one (.text s)

theorem prints_margin (level : Nat) :
  Prints [] (margin level)
  := by
  rw [Prints, margin, String.toList_ofList]
  apply Lays.spaces
  intro c hc
  rw [List.eq_of_mem_replicate hc]
  rfl

theorem prints_lineEnd :
  Prints [] "\n"
  := Lays.nil.space rfl

/-- Printed items with commas between them. -/
theorem prints_intercalate {item : List Lexeme} {items : List (List Lexeme)} {text : String}
    {texts : List String} (h : Prints item text) (hs : List.Forall₂ Prints items texts) :
  Prints (item ++ items.flatMap (.comma :: ·)) (",\n".intercalate (text :: texts))
  := by
  have hcomma : Prints [.comma] ",\n" := prints_append (s := ",") (Lays.one .comma) prints_lineEnd
  induction hs generalizing item text with
  | nil =>
    rw [String.intercalate_singleton, List.flatMap_nil, List.append_nil]
    apply h
  | cons h' _ ih =>
    rw [String.intercalate_cons_cons, List.flatMap_cons]
    have htail := prints_append hcomma (ih h')
    rw [String.append_assoc]
    apply prints_append h htail

theorem printBlock_cons (left right : String) (level : Nat) (item : String)
    (items : List String) :
  printBlock left right level (item :: items)
    = left ++ "\n" ++ ",\n".intercalate ((item :: items).map fun item => margin (level + 1) ++ item)
      ++ "\n" ++ margin level ++ right
  := if_neg Bool.false_ne_true

theorem prints_printBlock {left right : Lexeme} {l r : String} (hleft : Prints [left] l)
    (hright : Prints [right] r) (level : Nat) {items : List (List Lexeme)}
    {texts : List String} (h : List.Forall₂ Prints items texts) :
  Prints (Lexeme.block left right items) (printBlock l r level texts)
  := by
  have hitem : ∀ {item text}, Prints item text → Prints item (margin (level + 1) ++ text) :=
    fun htext => prints_append (prints_margin (level + 1)) htext
  cases h with
  | nil => apply prints_append hleft hright
  | @cons item text items texts h hs =>
    have hitems : List.Forall₂ Prints items (texts.map (margin (level + 1) ++ ·)) := by
      rw [List.forall₂_map_right_iff]
      apply hs.imp
      intro item text htext
      apply hitem htext
    have hopening := prints_append hleft prints_lineEnd
    have hclosing := prints_append (prints_append prints_lineEnd (prints_margin level)) hright
    have hall := prints_append (prints_append hopening (prints_intercalate (hitem h) hitems))
      hclosing
    rw [printBlock_cons, List.map_cons]
    simp only [String.append_assoc] at hall ⊢
    apply hall

/-- A printed list of strings is an array. -/
theorem prints_printStrings (real : Float → Numeral) (level : Nat) (ss : List String) :
  Prints ((array (ss.map string)).lexemes real) (printStrings level ss)
  := by
  rw [lexemes_array, List.map_map]
  apply prints_printBlock
  · apply Lays.one .openBracket
  · apply Lays.one .closeBracket
  · rw [List.forall₂_map_left_iff, List.forall₂_map_right_iff, List.forall₂_same]
    intro s _
    rw [Function.comp, lexemes]
    apply prints_printString

theorem prints_printMember {real : Float → Numeral} {name text : String} {v : Json}
    (h : Prints (v.lexemes real) text) :
  Prints (memberLexemes real (name, v)) (printMember name text)
  := by
  have hcolon : Prints [.colon] ": " := .lexeme .colon (Lays.nil.space rfl)
  apply prints_append (prints_append (prints_printString name) hcolon) h

end AliasBinding.Json
