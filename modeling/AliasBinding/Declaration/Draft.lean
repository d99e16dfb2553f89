import AliasBinding.Declaration.Error
import AliasBinding.Declaration.Style

/-!
# Drafts

A declaration is drafted as a list of pieces, which stays what has been written when drafting
fails.  The pieces are texts, line ends and margins; only margins depend on the width of the
indentation.  A draft is delivered to a sink piece by piece, and ends early with
`DeclarationError.refused` at the first piece that the sink does not take.
-/

namespace AliasBinding

/-- A piece of a declaration. -/
inductive Piece where
  | text (s : String)
  | lineEnd
  /-- The spaces in front of a line at the given level. -/
  | margin (level : Nat)
  deriving DecidableEq, Repr

namespace Piece

/-- The characters of a piece. -/
def render (style : Style) : Piece → String
  | .text s => s
  | .lineEnd => "\n"
  | .margin level => style.margin level

end Piece

/-- What has been written so far, and how drafting went on. -/
structure Draft (α : Type) where
  written : List Piece
  outcome : Except DeclarationError α

namespace Draft

instance : Monad Draft where
  pure a := ⟨[], .ok a⟩
  bind d f :=
    match d.outcome with
    | .ok a => ⟨d.written ++ (f a).written, (f a).outcome⟩
    | .error e => ⟨d.written, .error e⟩

/-- A draft that only fails or goes on. -/
def ofExcept {α : Type} (x : Except DeclarationError α) : Draft α := ⟨[], x⟩

instance : MonadLift (Except DeclarationError) Draft := ⟨ofExcept⟩

/-- Writes pieces. -/
def write (pieces : List Piece) : Draft Unit := ⟨pieces, .ok ()⟩

/-- Writes a text. -/
def text (s : String) : Draft Unit := write [.text s]

/-- Writes a line at the given level, and ends it. -/
def line (level : Nat) (s : String) : Draft Unit :=
  write [.margin level, .text s, .lineEnd]

/-- The brace that ends a block. -/
def closingBrace : String := "\x7d"

/-- Writes the line that begins a block at the given level. -/
def openBlock (level : Nat) : Draft Unit := line level "\x7b"

/-- Writes the line that ends a block at the given level. -/
def closeBlock (level : Nat) : Draft Unit := line level closingBrace

/-- The characters written. -/
def rendered {α : Type} (d : Draft α) (style : Style) : String :=
  String.join (d.written.map (Piece.render style))

end Draft

/-- A sink for text, which takes a piece or refuses it. -/
structure Sink (σ : Type) where
  /-- The sink after a further piece, if it takes the piece. -/
  take? : σ → String → Option σ

namespace Sink

/-- A text that takes every piece at its end. -/
def unbounded : Sink String := ⟨fun held s => some (held ++ s)⟩

/-- A text that takes a piece at its end unless it would come to hold more than `capacity`
bytes. -/
def bounded (capacity : Nat) : Sink String where
  take? held s :=
    if held.utf8ByteSize + s.utf8ByteSize ≤ capacity then some (held ++ s) else none

variable {σ : Type}

/-- Hands over pieces until one is refused; the flag says whether all were taken. -/
def takeAll (sink : Sink σ) : σ → List String → σ × Bool
  | state, [] => (state, true)
  | state, s :: rest =>
    match sink.take? state s with
    | some state' => sink.takeAll state' rest
    | none => (state, false)

/-- Delivers a draft: what was written goes to the sink, and a refusal wins over whatever
would have come of the draft later. -/
def deliver {α : Type} (sink : Sink σ) (state : σ) (style : Style) (d : Draft α) :
    σ × Except DeclarationError α :=
  match sink.takeAll state (d.written.map (Piece.render style)) with
  | (state', true) => (state', d.outcome)
  | (state', false) => (state', .error .refused)

end Sink

end AliasBinding
