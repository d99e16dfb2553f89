import AliasBinding.Proofs.Generation.Source

/-!
# Delivery to sinks

To deliver a draft is to hand over its pieces as drafting goes on: what follows a step is delivered
to the sink that the step leaves, and nothing follows a refusal (`Sink.deliver_bind`).  A sink with
a capacity takes the declaration of an alias whole when it has room for all of it, and otherwise
holds the pieces in front of the first one that it has no room for, however the text is cut into
pieces (`Alias.delivers_within_capacity`).
-/

namespace AliasBinding

namespace Sink

variable {σ α β : Type}

/-! ### Step by step -/

theorem takeAll_append (sink : Sink σ) (state : σ) (first second : List String) :
  sink.takeAll state (first ++ second)
    = match sink.takeAll state first with
      | (state', true) => sink.takeAll state' second
      | (state', false) => (state', false)
  := by
  induction first generalizing state with
  | nil => rfl
  | cons s first ih =>
    rw [List.cons_append, takeAll, takeAll]
    cases sink.take? state s with
    | none => rfl
    | some state' => apply ih

/-- What follows a draft is delivered to the sink that the draft leaves.  Nothing of it is handed
over when the draft fails or is refused. -/
theorem deliver_bind (sink : Sink σ) (state : σ) (style : Style) (d : Draft α)
    (f : α → Draft β) :
  sink.deliver state style (d >>= f)
    = match sink.deliver state style d with
      | (state', .ok a) => sink.deliver state' style (f a)
      | (state', .error e) => (state', .error e)
  := by
  obtain ⟨written, outcome⟩ := d
  cases outcome with
  | error e =>
    have hbind : (⟨written, .error e⟩ : Draft α) >>= f = ⟨written, .error e⟩ := rfl
    rw [hbind, deliver, deliver]
    obtain ⟨state', taken⟩ := sink.takeAll state (written.map (Piece.render style))
    cases taken with
    | true => rfl
    | false => rfl
  | ok a =>
    have hbind : (⟨written, .ok a⟩ : Draft α) >>= f
        = ⟨written ++ (f a).written, (f a).outcome⟩ := rfl
    rw [hbind, deliver, List.map_append, takeAll_append, deliver]
    obtain ⟨state', taken⟩ := sink.takeAll state (written.map (Piece.render style))
    cases taken with
    | true => rfl
    | false => rfl

/-- A computation that writes nothing leaves the sink as it is. -/
theorem deliver_lift (sink : Sink σ) (state : σ) (style : Style)
    (x : Except DeclarationError α) :
  sink.deliver state style (liftM x : Draft α) = (state, x)
  := rfl

section Steps

variable {sink : Sink σ} {state state' : σ} {style : Style} {d : Draft α} {f : α → Draft β}

theorem deliver_bind_of_ok {a : α} (h : sink.deliver state style d = (state', .ok a)) :
  sink.deliver state style (d >>= f) = sink.deliver state' style (f a)
  := by
  rw [deliver_bind, h]

theorem deliver_bind_of_error {e : DeclarationError}
    (h : sink.deliver state style d = (state', .error e)) :
  sink.deliver state style (d >>= f) = (state', .error e)
  := by
  rw [deliver_bind, h]

end Steps

/-! ### Capacity -/

/-- The sink holds a text, and takes a piece at its end unless there would come to be more bytes
than the capacity. -/
structure HasCapacity (sink : Sink σ) (held : σ → String) (capacity : Nat) : Prop where
  takes : ∀ state s, (held state).utf8ByteSize + s.utf8ByteSize ≤ capacity →
    ∃ state', sink.take? state s = some state' ∧ held state' = held state ++ s
  refuses : ∀ state s, capacity < (held state).utf8ByteSize + s.utf8ByteSize →
    sink.take? state s = none

theorem hasCapacity_bounded (capacity : Nat) :
  (bounded capacity).HasCapacity id capacity
  where
    takes held s h := ⟨held ++ s, if_pos h, rfl⟩
    refuses _ _ h := if_neg (Nat.not_le.mpr h)

section Capacity

variable {sink : Sink σ} {held : σ → String} {capacity : Nat}

theorem HasCapacity.takeAll_of_le (h : sink.HasCapacity held capacity) {state : σ}
    {pieces : List String}
    (hroom : (held state).utf8ByteSize + (String.join pieces).utf8ByteSize ≤ capacity) :
  ∃ state', sink.takeAll state pieces = (state', true)
    ∧ held state' = held state ++ String.join pieces
  := by
  induction pieces generalizing state with
  | nil => exact ⟨state, rfl, by simp⟩
  | cons s pieces ih =>
    rw [String.join_cons, String.utf8ByteSize_append] at hroom
    obtain ⟨between, htake, hbetween⟩ := h.takes state s (by omega)
    have hsize := congrArg String.utf8ByteSize hbetween
    rw [String.utf8ByteSize_append] at hsize
    have hrest : (held between).utf8ByteSize + (String.join pieces).utf8ByteSize ≤ capacity := by
      omega
    obtain ⟨state', htaken, hheld⟩ := ih hrest
    use state'
    rw [takeAll, htake, String.join_cons, ← String.append_assoc, ← hbetween]
    exact ⟨htaken, hheld⟩

/-- Too many pieces are taken up to the first one that there is no room for. -/
theorem HasCapacity.takeAll_of_lt (h : sink.HasCapacity held capacity) {state : σ}
    {pieces : List String} (hstate : (held state).utf8ByteSize ≤ capacity)
    (hroom : capacity < (held state).utf8ByteSize + (String.join pieces).utf8ByteSize) :
  ∃ state' taken refused rest, sink.takeAll state pieces = (state', false)
    ∧ pieces = taken ++ refused :: rest
    ∧ held state' = held state ++ String.join taken
    ∧ (held state').utf8ByteSize ≤ capacity
    ∧ capacity < (held state').utf8ByteSize + refused.utf8ByteSize
  := by
  induction pieces generalizing state with
  | nil =>
    rw [String.join_nil, String.utf8ByteSize_empty] at hroom
    omega
  | cons s pieces ih =>
    rw [String.join_cons, String.utf8ByteSize_append] at hroom
    by_cases hs : (held state).utf8ByteSize + s.utf8ByteSize ≤ capacity
    · obtain ⟨between, htake, hbetween⟩ := h.takes state s hs
      have hsize := congrArg String.utf8ByteSize hbetween
      rw [String.utf8ByteSize_append] at hsize
      have hrest : capacity < (held between).utf8ByteSize + (String.join pieces).utf8ByteSize := by
        omega
      obtain ⟨state', taken, refused, rest, htaken, rfl, hheld, hle, hlt⟩ := ih (by omega) hrest
      use state', s :: taken, refused, rest
      rw [takeAll, htake, String.join_cons, ← String.append_assoc, ← hbetween]
      exact ⟨htaken, rfl, hheld, hle, hlt⟩
    · use state, [], s, pieces
      rw [takeAll, h.refuses state s (by omega)]
      refine ⟨rfl, rfl, by simp, hstate, by omega⟩

end Capacity

end Sink

/-! ### Failures -/

namespace Draft

/-- Whatever sink the draft is delivered to, a failure leaves it as it was, unless it is the sink
that refuses. -/
def LeavesUntouched (style : Style) (d : Draft Unit) : Prop :=
  ∀ {σ : Type} (sink : Sink σ) (before after : σ) (e : DeclarationError),
    sink.deliver before style d = (after, .error e) → e ≠ .refused → after = before

section Untouched

variable {style : Style} {d : Draft Unit}

theorem leavesUntouched_of_ok (h : d.outcome = .ok ()) :
  d.LeavesUntouched style
  := by
  intro σ sink before after e hdeliver hrefused
  rw [Sink.deliver, h] at hdeliver
  split at hdeliver
  case h_1 => cases hdeliver
  case h_2 =>
    cases hdeliver
    exact absurd rfl hrefused

/-- A draft that fails before it writes leaves every sink as it was. -/
theorem leavesUntouched_of_written_eq_nil (h : d.written = []) :
  d.LeavesUntouched style
  := by
  intro σ sink before after e hdeliver _
  have hnothing : sink.deliver before style d = (before, d.outcome) := by
    rw [Sink.deliver, h]
    rfl
  rw [hnothing] at hdeliver
  apply (congrArg Prod.fst hdeliver).symm

end Untouched

end Draft

/-! ### Declarations -/

/-- The draft goes on as the other one does, and writes the same text in pieces of its own. -/
structure Draft.Recuts {α : Type} (style : Style) (d' d : Draft α) : Prop where
  rendered_eq : d'.rendered style = d.rendered style
  outcome_eq : d'.outcome = d.outcome

/-- The declaration of an alias, cut into pieces in any way, is delivered whole to a sink that has
room for it and holds nothing yet.  A sink with less room refuses: it then holds the pieces in
front of the first one that it has no room for, which are the beginning of the declaration and not
all of it. -/
theorem Alias.delivers_within_capacity {style : Style} {a : Alias} {text : String}
    (hdeclares : a.Declares style text) {σ : Type} {sink : Sink σ} {held : σ → String}
    {capacity : Nat} (hsink : sink.HasCapacity held capacity) {state : σ}
    (hempty : held state = "") {d : Draft Unit} (hcut : d.Recuts style (a.member.draft style)) :
  (text.utf8ByteSize ≤ capacity →
      ∃ state', sink.deliver state style d = (state', .ok ()) ∧ held state' = text)
    ∧ (capacity < text.utf8ByteSize →
      ∃ state' taken refused rest, sink.deliver state style d = (state', .error .refused)
        ∧ d.written.map (Piece.render style) = taken ++ refused :: rest
        ∧ held state' = String.join taken
        ∧ (held state').utf8ByteSize ≤ capacity
        ∧ capacity < (held state').utf8ByteSize + refused.utf8ByteSize
        ∧ ∃ missing, missing ≠ "" ∧ held state' ++ missing = text)
  := by
  rw [Declares, declareInto, Sink.deliver_unbounded, Prod.mk.injEq, String.empty_append,
    ← hcut.rendered_eq, ← hcut.outcome_eq] at hdeclares
  obtain ⟨rfl, houtcome⟩ := hdeclares
  have hsize : (held state).utf8ByteSize
      + (String.join (d.written.map (Piece.render style))).utf8ByteSize
      = (d.rendered style).utf8ByteSize := by
    rw [hempty, String.utf8ByteSize_empty, Nat.zero_add, Draft.rendered]
  constructor
  · intro hroom
    rw [← hsize] at hroom
    obtain ⟨state', htaken, hheld⟩ := hsink.takeAll_of_le hroom
    use state'
    rw [Sink.deliver, htaken, houtcome, hheld, hempty, String.empty_append]
    exact ⟨rfl, rfl⟩
  · intro hroom
    have hstate : (held state).utf8ByteSize ≤ capacity := by
      rw [hempty, String.utf8ByteSize_empty]
      apply Nat.zero_le
    rw [← hsize] at hroom
    obtain ⟨state', taken, refused, rest, htaken, hpieces, hheld, hle, hlt⟩ :=
      hsink.takeAll_of_lt hstate hroom
    rw [hempty, String.empty_append] at hheld
    use state', taken, refused, rest
    rw [Sink.deliver, htaken]
    refine ⟨rfl, hpieces, hheld, hle, hlt, String.join (refused :: rest), ?_, ?_⟩
    · intro hmissing
      have hmissing := congrArg String.utf8ByteSize hmissing
      rw [String.join_cons, String.utf8ByteSize_append, String.utf8ByteSize_empty] at hmissing
      omega
    · rw [hheld, ← String.join_append, ← hpieces, Draft.rendered]

/-- A method without parameters. -/
def runTool : Alias := .ofMethod "Run" (.plain "Tools" "Api") .void

/-- The declaration of the method. -/
def runToolText : String := "public void Run()\n\x7b\n    Tools.Api.Run();\n\x7d"

/-- The declaration of the method in three pieces. -/
def runToolPieces : Draft Unit :=
  ⟨[.text "public void ", .text "Run()\n\x7b\n    Tools.Api.Run();", .text "\n\x7d"], .ok ()⟩

theorem Alias.delivers_within_capacity_runTool :
  runTool.Declares {} runToolText
    ∧ (Sink.bounded 20).HasCapacity id 20
    ∧ runToolPieces.Recuts {} (runTool.member.draft {})
    ∧ 20 < runToolText.utf8ByteSize
    ∧ ∃ state' taken refused rest,
      (Sink.bounded 20).deliver "" {} runToolPieces = (state', .error .refused)
        ∧ runToolPieces.written.map (Piece.render {}) = taken ++ refused :: rest
        ∧ state' = String.join taken
        ∧ state'.utf8ByteSize ≤ 20
        ∧ 20 < state'.utf8ByteSize + refused.utf8ByteSize
        ∧ ∃ missing, missing ≠ "" ∧ state' ++ missing = runToolText
  := by
  have hdeclares : runTool.Declares {} runToolText := by
    apply Alias.declaration_eq_ok_iff.mp
    decide +kernel
  have hcut : runToolPieces.Recuts {} (runTool.member.draft {}) := by
    constructor
    case rendered_eq => decide +kernel
    case outcome_eq => rfl
  have hroom : 20 < runToolText.utf8ByteSize := by decide
  refine ⟨hdeclares, Sink.hasCapacity_bounded 20, hcut, hroom, ?_⟩
  apply (Alias.delivers_within_capacity hdeclares (Sink.hasCapacity_bounded 20) rfl hcut).2 hroom

end AliasBinding
