import AliasBinding.CommandLine.Arguments
import AliasBinding.Proofs.Outcome

/-!
# The range of what is accepted

Whatever the arguments, none of them brings an indentation or a context out of range into the
settings (`Progress.InRange.step`), so no request that is accepted has one (`inRange_parse`).
-/

namespace AliasBinding.CommandLine

/-! ### Settings -/

/-- The indentation and the context that are settled are in range. -/
structure Settings.InRange (s : Settings) : Prop where
  indent : ∀ n ∈ s.indent?, n ≤ Style.maxIndent
  context : ∀ name ∈ s.context?, isContextName name = true

namespace Settings

variable {s : Settings}

theorem givesWithin_fill {α : Type} {P : α → Prop} (slot : Slot) (present : Option α)
    {value : Except UsageError α} (h : GivesWithin P value) :
  GivesWithin (fun filled => ∀ a ∈ filled, P a) (fill slot present value)
  := by
  cases present with
  | some => apply givesWithin_error
  | none =>
    apply givesWithin_map h
    intro a ha _ hmem
    cases hmem
    apply ha

theorem le_of_indentWidth? {text : String} {n : Nat} (h : indentWidth? text = some n) :
  n ≤ Style.maxIndent
  := by
  rw [indentWidth?] at h
  cases hz : integer? text with
  | none =>
    rw [hz] at h
    cases h
  | some z =>
    simp only [hz] at h
    split at h
    · cases h
      omega
    · cases h

theorem InRange.assign (hs : s.InRange) (slot : Slot) (value : String) :
  GivesWithin InRange (s.assign slot value)
  := by
  cases slot with
  | module | format | output =>
    apply givesWithin_map (P := fun _ => True) ⟨fun _ _ => trivial⟩
    intro _ _
    exact ⟨hs.indent, hs.context⟩
  | indent =>
    have hvalue : GivesWithin (· ≤ Style.maxIndent)
        (checked (.badValue Slot.indent.name) (indentWidth? value)) := by
      cases hn : indentWidth? value with
      | none => apply givesWithin_error
      | some n => exact givesWithin_ok (le_of_indentWidth? hn)
    apply givesWithin_map (givesWithin_fill .indent s.indent? hvalue)
    intro _ h
    exact ⟨h, hs.context⟩
  | context =>
    have hvalue : GivesWithin (fun name => isContextName name = true)
        (if isContextName value then .ok value
          else .error (UsageError.badValue Slot.context.name)) := by
      split
      case isTrue h => exact givesWithin_ok h
      case isFalse => apply givesWithin_error
    apply givesWithin_map (givesWithin_fill .context s.context? hvalue)
    intro _ h
    exact ⟨hs.indent, h⟩

theorem InRange.turnOn (hs : s.InRange) (switch : Switch) :
  GivesWithin InRange (s.turnOn switch)
  := by
  cases switch with
  | verify | noQualify =>
    rw [Settings.turnOn]
    split
    · apply givesWithin_error
    · exact givesWithin_ok ⟨hs.indent, hs.context⟩

end Settings

/-! ### Progress -/

namespace Progress

variable {p : Progress}

/-- What is settled so far is in range. -/
def InRange (p : Progress) : Prop := p.settings.InRange

theorem InRange.settle (hp : p.InRange) :
  GivesWithin InRange p.settle
  := by
  rw [Progress.settle]
  split
  · exact givesWithin_ok hp
  · apply givesWithin_error
  · apply givesWithin_bind (hp.assign _ _)
    intro s hs
    exact givesWithin_ok hs

theorem InRange.attached (hp : p.InRange) (slot : Slot) (value : String) :
  GivesWithin InRange (p.attached slot value)
  := by
  apply givesWithin_bind hp.settle
  intro p hp
  apply givesWithin_bind (hp.assign slot value)
  intro s hs
  exact givesWithin_ok hs

theorem InRange.awaiting (hp : p.InRange) (slot : Slot) :
  GivesWithin InRange (p.awaiting slot)
  := by
  apply givesWithin_bind hp.settle
  intro p hp
  exact givesWithin_ok hp

theorem InRange.help (p : Progress) :
  GivesWithin InRange p.help
  := givesWithin_bind_last fun _ => givesWithin_error _

theorem InRange.long (hp : p.InRange) (argument : String) :
  GivesWithin InRange (p.long argument)
  := by
  rw [Progress.long]
  split
  split
  · apply hp.attached
  · apply hp.awaiting
  · apply givesWithin_bind hp.settle
    intro p hp
    apply givesWithin_bind (hp.turnOn _)
    intro s hs
    exact givesWithin_ok hs
  · apply InRange.help
  · apply givesWithin_error
  · apply givesWithin_error
  · apply givesWithin_error

theorem InRange.short (hp : p.InRange) (argument : String) (characters : List Char) :
  GivesWithin InRange (p.short argument characters)
  := by
  rw [Progress.short.eq_def]
  split
  · apply InRange.help
  · apply hp.awaiting
  · apply hp.attached
  · apply hp.attached
  · apply givesWithin_error

theorem InRange.positional (hp : p.InRange) (argument : String) :
  GivesWithin InRange (p.positional argument)
  := by
  simp only [Progress.positional]
  split
  all_goals
    split
    · apply givesWithin_error
    · apply givesWithin_bind hp.settle
      intro p hp
      exact givesWithin_ok hp

/-- An argument keeps what is settled in range. -/
theorem InRange.step (hp : p.InRange) (argument : String) :
  GivesWithin InRange (p.step argument)
  := by
  rw [Progress.step]
  split
  case isTrue => apply hp.positional
  case isFalse =>
    split
    · exact givesWithin_ok hp
    · apply hp.long
    · apply hp.short
    · split
      · exact givesWithin_ok hp
      · apply hp.positional

end Progress

/-! ### Requests -/

/-- The indentation and the context are those that the options admit. -/
structure Request.InRange (r : Request) : Prop where
  indent_le : r.indent ≤ Style.maxIndent
  isContextName : isContextName r.context = true

theorem Settings.InRange.toRequest {s : Settings} (hs : s.InRange) :
  GivesWithin Request.InRange s.toRequest
  := by
  have hdefault : isContextName (default : Style).context = true := by decide
  rw [Settings.toRequest]
  split
  · apply givesWithin_error
  · apply givesWithin_ok
    constructor
    · cases hindent : s.indent? with
      | none => apply (default : Style).indent_le
      | some n => simpa [hindent] using hs.indent n hindent
    · cases hcontext : s.context? with
      | none => apply hdefault
      | some name => simpa [hcontext] using hs.context name hcontext

/-- The request of any arguments is in range. -/
theorem inRange_requestOf (arguments : List String) :
  GivesWithin Request.InRange (requestOf arguments)
  := by
  have hinit : ({} : Progress).InRange := ⟨nofun, nofun⟩
  apply givesWithin_bind (givesWithin_foldlM hinit fun p hp argument _ => hp.step argument)
  intro p hp
  apply givesWithin_bind hp.settle
  intro p hp
  apply Settings.InRange.toRequest hp

theorem inRange_parse (arguments : List String) :
  GivesWithin Request.InRange (parse arguments)
  := by
  cases arguments with
  | nil => apply givesWithin_error
  | cons argument rest =>
    rw [parse.eq_def]
    dsimp only
    split
    · split
      all_goals apply givesWithin_error
    · split
      split
      all_goals apply givesWithin_error
    · apply givesWithin_error
    · split
      · apply inRange_requestOf
      · split
        all_goals apply givesWithin_error

end AliasBinding.CommandLine
