import AliasBinding.Generation
import AliasBinding.Proofs.Declaration.Outcome

/-!
# The source of a generated script

Declaring an alias at the end of a text appends what the declaration is on its own, whatever
the text holds (`declareInto_eq`).  So the source of a script joins the declarations of its
aliases, each followed by the separator, and there is none when a declaration fails: the error
is then that of the first alias which has no declaration (`generate_joins_declarations`).
-/

namespace AliasBinding

/-! ### One declaration -/

theorem Sink.takeAll_unbounded (held : String) (pieces : List String) :
  unbounded.takeAll held pieces = (held ++ String.join pieces, true)
  := by
  induction pieces generalizing held with
  | nil => simp [takeAll]
  | cons s pieces ih =>
    rw [takeAll, String.join_cons, ← String.append_assoc]
    apply ih

/-- A text takes a draft whole, at its end. -/
theorem Sink.deliver_unbounded {α : Type} (held : String) (style : Style) (d : Draft α) :
  unbounded.deliver held style d = (held ++ d.rendered style, d.outcome)
  := by
  rw [deliver, takeAll_unbounded]
  rfl

namespace Alias

/-- The text after an alias was declared at its end, and how declaring it went. -/
def declareInto (style : Style) (a : Alias) (held : String) :
    String × Except DeclarationError Unit :=
  Sink.unbounded.deliver held style (a.member.draft style)

/-- On its own, in an empty text, the alias has the declaration `text`. -/
def Declares (style : Style) (a : Alias) (text : String) : Prop :=
  a.declareInto style "" = (text, .ok ())

/-- On its own, in an empty text, declaring the alias fails with `e`. -/
def FailsToDeclare (style : Style) (a : Alias) (e : DeclarationError) : Prop :=
  (a.declareInto style "").2 = .error e

theorem declareInto_eq (style : Style) (a : Alias) (held : String) :
  a.declareInto style held
    = (held ++ (a.declareInto style "").1, (a.declareInto style "").2)
  := by
  simp only [declareInto, Sink.deliver_unbounded, String.empty_append]

theorem declaration_eq_ok_iff {style : Style} {a : Alias} {text : String} :
  a.declaration style = .ok text ↔ a.Declares style text
  := by
  rw [Declares, declareInto, Sink.deliver_unbounded, String.empty_append, declaration]
  cases (a.member.draft style).outcome with
  | ok _ => simp [Except.map]
  | error e => simp [Except.map]

theorem declaration_eq_error_iff {style : Style} {a : Alias} {e : DeclarationError} :
  a.declaration style = .error e ↔ a.FailsToDeclare style e
  := by
  rw [FailsToDeclare, declareInto, Sink.deliver_unbounded, declaration]
  cases (a.member.draft style).outcome with
  | ok _ => simp [Except.map]
  | error e => simp [Except.map]

/-- An alias has a declaration exactly when its draft does not fail. -/
theorem exists_declares_iff {style : Style} {a : Alias} :
  (∃ text, a.Declares style text) ↔ (a.member.draft style).outcome = .ok ()
  := by
  simp [Declares, declareInto, Sink.deliver_unbounded]

theorem ne_refused_of_failsToDeclare {style : Style} {a : Alias} {e : DeclarationError}
    (h : a.FailsToDeclare style e) :
  e ≠ .refused
  := by
  rw [FailsToDeclare, declareInto, Sink.deliver_unbounded] at h
  apply a.member.neverRefused_draft style e h

end Alias

/-! ### All declarations -/

/-- Appending declarations one by one joins those that the aliases have on their own. -/
theorem appendDeclarations_eq (style : Style) (held : String) (aliases : List Alias) :
  appendDeclarations style held aliases = do
    let texts ← aliases.mapM (Alias.declaration style)
    return held ++ String.join (texts.map (· ++ declarationSeparator))
  := by
  induction aliases generalizing held with
  | nil =>
    change .ok held = Except.ok (held ++ String.join [])
    rw [String.join_nil, String.append_empty]
  | cons a aliases ih =>
    rw [appendDeclarations, Sink.deliver_unbounded, List.mapM_cons, Alias.declaration]
    cases (a.member.draft style).outcome with
    | error e => rfl
    | ok _ =>
      simp only [ih, Except.map, String.append_assoc, bind_assoc, pure_bind, List.map_cons,
        String.join_cons]
      rfl

theorem scriptOf_eq (style : Style) (path : String) (aliases : List Alias) :
  scriptOf style path aliases = do
    let texts ← aliases.mapM (Alias.declaration style)
    return ⟨String.join (texts.map (· ++ declarationSeparator)), namespacesOf aliases, [path]⟩
  := by
  simp only [scriptOf, appendDeclarations_eq, String.empty_append, bind_assoc, pure_bind]

/-- There is a script exactly when every alias has a declaration. -/
theorem exists_scriptOf_eq_ok_iff (style : Style) (path : String) (aliases : List Alias) :
  (∃ script, scriptOf style path aliases = .ok script)
    ↔ ∀ a ∈ aliases, ∃ text, a.Declares style text
  := by
  simp only [scriptOf_eq, bind_pure_comp, ← Alias.declaration_eq_ok_iff]
  rw [← exists_mapM_eq_ok_iff]
  cases aliases.mapM (Alias.declaration style) with
  | ok texts => simp [Functor.map, Except.map]
  | error e => simp [Functor.map, Except.map]

/-- The source of a script joins the declarations. -/
theorem source_of_scriptOf_eq_ok {style : Style} {path : String} {aliases : List Alias}
    {script : Script} (h : scriptOf style path aliases = .ok script) :
  ∃ texts, List.Forall₂ (Alias.Declares style) aliases texts
    ∧ script.source = String.join (texts.map (· ++ declarationSeparator))
  := by
  rw [scriptOf_eq] at h
  obtain ⟨texts, htexts, h⟩ := bind_eq_ok_iff.mp h
  cases h
  use texts
  constructor
  · apply (mapM_eq_ok_iff.mp htexts).imp
    intro a text
    apply Alias.declaration_eq_ok_iff.mp
  · rfl

/-- There is no script for aliases of which one has no declaration. -/
theorem first_failure_of_scriptOf_eq_error {style : Style} {path : String}
    {aliases : List Alias} {e : DeclarationError}
    (h : scriptOf style path aliases = .error e) :
  ∃ before a after, aliases = before ++ a :: after
    ∧ (∀ b ∈ before, ∃ text, b.Declares style text) ∧ a.FailsToDeclare style e
  := by
  rw [scriptOf_eq] at h
  obtain h | ⟨_, -, h⟩ := bind_eq_error_iff.mp h
  · obtain ⟨before, a, after, rfl, hbefore, ha⟩ := mapM_eq_error_iff.mp h
    use before, a, after, rfl
    constructor
    · intro b hb
      obtain ⟨text, htext⟩ := hbefore b hb
      use text
      apply Alias.declaration_eq_ok_iff.mp htext
    · apply Alias.declaration_eq_error_iff.mp ha
  · cases h

/-! ### Generation -/

/-- What follows a step goes on from the state that the step leads to. -/
theorem run_bind_of_run_eq {σ α β : Type} {x : StateM σ α} {f : α → StateM σ β}
    {before after : σ} {a : α} (h : x.run before = (a, after)) :
  (x >>= f).run before = (f a).run after
  := by
  rw [StateT.run_bind, h]
  rfl

section Generation

variable {σ : Type} {asks : Collaborators (StateM σ)} {style : Style} {path : String}
  {verify : Bool} {aliases : List Alias} {before between after : σ}

/-- For a module that is there, generation gives the script of its aliases. -/
theorem generate_of_answers (hpath : path ≠ "")
    (hexists : (asks.moduleExists path).run before = (true, between))
    (hfind : (asks.findAliases path verify).run between = (.ok aliases, after)) :
  (generate asks style path verify).run before
    = ((scriptOf style path aliases).mapError .declaration, after)
  := by
  rw [generate, if_neg hpath]
  apply Eq.trans (run_bind_of_run_eq hexists)
  apply Eq.trans (run_bind_of_run_eq hfind)
  rfl

/-- A result that joins the declarations which the aliases have on their own, or is the error
of the first alias that has none. -/
structure JoinsDeclarations (style : Style) (aliases : List Alias)
    (result : Except GenerationError Script) : Prop where
  succeeds_iff : (∃ script, result = .ok script)
    ↔ ∀ a ∈ aliases, ∃ text, a.Declares style text
  source_eq : ∀ script, result = .ok script →
    ∃ texts, List.Forall₂ (Alias.Declares style) aliases texts
      ∧ script.source = String.join (texts.map (· ++ declarationSeparator))
  error_eq : ∀ e, result = .error e →
    ∃ first a rest cause, aliases = first ++ a :: rest
      ∧ (∀ b ∈ first, ∃ text, b.Declares style text)
      ∧ a.FailsToDeclare style cause ∧ e = .declaration cause ∧ cause ≠ .refused

theorem joinsDeclarations_scriptOf (style : Style) (path : String) (aliases : List Alias) :
  JoinsDeclarations style aliases ((scriptOf style path aliases).mapError .declaration)
  := by
  have hiff := exists_scriptOf_eq_ok_iff style path aliases
  cases h : scriptOf style path aliases with
  | ok script =>
    rw [h] at hiff
    constructor
    · simpa [Except.mapError] using hiff
    · intro script' h'
      cases h'
      apply source_of_scriptOf_eq_ok h
    · intro e h'
      cases h'
  | error cause =>
    rw [h] at hiff
    constructor
    · simpa [Except.mapError] using hiff
    · intro script' h'
      cases h'
    · intro e h'
      cases h'
      obtain ⟨first, a, rest, haliases, hfirst, ha⟩ := first_failure_of_scriptOf_eq_error h
      use first, a, rest, cause, haliases, hfirst, ha, rfl
      apply Alias.ne_refused_of_failsToDeclare ha

/-- For a module that is there, the source joins the declarations that its aliases have on
their own, in order, each followed by the separator; it fails exactly when one of them has
none, with the error of the first such alias.  Declared at the end of any text, an alias adds
what it is on its own. -/
theorem generate_joins_declarations (hpath : path ≠ "")
    (hexists : (asks.moduleExists path).run before = (true, between))
    (hfind : (asks.findAliases path verify).run between = (.ok aliases, after)) :
  (∃ result, (generate asks style path verify).run before = (result, after)
      ∧ JoinsDeclarations style aliases result)
    ∧ ∀ (a : Alias) (held : String), a.declareInto style held
        = (held ++ (a.declareInto style "").1, (a.declareInto style "").2)
  := by
  constructor
  · use (scriptOf style path aliases).mapError .declaration
    constructor
    · apply generate_of_answers hpath hexists hfind
    · apply joinsDeclarations_scriptOf
  · intro a held
    apply a.declareInto_eq

end Generation

/-- Collaborators that find the given aliases for every path, and keep a log of the paths. -/
def logging (aliases : List Alias) : Collaborators (StateM (List String)) where
  moduleExists path log := (true, log ++ [path])
  findAliases path _ log := (.ok aliases, log ++ [path])

/-- Aliases of which the second one has no declaration, for its name has a space in it. -/
def verboseAndBuildIt : List Alias :=
  let owner := TypeExpr.plain "Tools" "ToolAliases"
  [.ofProperty "Verbose" owner (.plain "System" "Boolean"), .ofMethod "Build It" owner .void,
    .ofMethod "Clean" owner .void]

theorem generate_joins_declarations_logging :
  "Tools.dll" ≠ ""
    ∧ ((logging verboseAndBuildIt).moduleExists "Tools.dll").run [] = (true, ["Tools.dll"])
    ∧ ((logging verboseAndBuildIt).findAliases "Tools.dll" true).run ["Tools.dll"]
      = (.ok verboseAndBuildIt, ["Tools.dll", "Tools.dll"])
    ∧ (∃ result, (generate (logging verboseAndBuildIt) {} "Tools.dll" true).run []
        = (result, ["Tools.dll", "Tools.dll"])
      ∧ JoinsDeclarations {} verboseAndBuildIt result)
    ∧ ∀ (a : Alias) (held : String), a.declareInto {} held
        = (held ++ (a.declareInto {} "").1, (a.declareInto {} "").2)
  := by
  use by decide, rfl, rfl
  apply generate_joins_declarations (by decide) rfl rfl

end AliasBinding
