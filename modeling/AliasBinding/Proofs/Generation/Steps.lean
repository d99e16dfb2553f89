import AliasBinding.Proofs.Generation.Source

/-!
# The steps of a generation

A generation ends in one of four ways (`Generates`): the path is empty; there is no module; its
aliases cannot be had; or there is a script, or a declaration that fails.  Each says what was
asked of the collaborators on the way, and there is no fifth (`run_generate_eq_iff`).  So what
comes of the aliases that are found does not depend on who finds them (`generatesFrom_iff`).
-/

namespace AliasBinding

/-! ### Scripts -/

theorem mem_namespacesOf {aliases : List Alias} {ns : String} :
  ns ∈ namespacesOf aliases ↔ ∃ a ∈ aliases, ns ∈ a.namespaces
  := by
  have hfold : ∀ s : NameSet, ns ∈ aliases.foldl (fun set a => set.union a.namespaces) s
      ↔ ns ∈ s ∨ ∃ a ∈ aliases, ns ∈ a.namespaces := by
    induction aliases with
    | nil => simp
    | cons a aliases ih =>
      intro s
      rw [List.foldl_cons, ih, NameSet.mem_union, List.exists_mem_cons_iff, or_assoc]
  rw [namespacesOf, hfold]
  exact ⟨fun h => h.resolve_left List.not_mem_nil, .inr⟩

/-- A script needs the namespaces of its aliases, and refers to their module. -/
theorem namespaces_references_of_scriptOf_eq_ok {style : Style} {path : String}
    {aliases : List Alias} {script : Script} (h : scriptOf style path aliases = .ok script) :
  script.namespaces = namespacesOf aliases ∧ script.references = [path]
  := by
  obtain ⟨source, -, h⟩ := bind_eq_ok_iff.mp h
  cases h
  exact ⟨rfl, rfl⟩

/-! ### Generations -/

variable {σ : Type} {asks : Collaborators (StateM σ)} {style : Style} {path : String}
  {verify : Bool} {before : σ}

/-- How a generation that begins in the state `before` ends, and the state then. -/
inductive Generates (asks : Collaborators (StateM σ)) (style : Style) (path : String)
    (verify : Bool) (before : σ) : Except GenerationError Script → σ → Prop where
  /-- Nothing is asked for an empty path. -/
  | rejected (hpath : path = "") :
      Generates asks style path verify before (.error .noModule) before
  /-- There is no module. -/
  | absent {after : σ} (hpath : path ≠ "")
      (hexists : (asks.moduleExists path).run before = (false, after)) :
      Generates asks style path verify before (.ok .empty) after
  /-- The aliases of the module cannot be had. -/
  | undiscovered {between after : σ} {e : DiscoveryError} (hpath : path ≠ "")
      (hexists : (asks.moduleExists path).run before = (true, between))
      (hfind : (asks.findAliases path verify).run between = (.error e, after)) :
      Generates asks style path verify before (.error (.discovery e)) after
  /-- The aliases of the module are declared, or one of them cannot be. -/
  | declared {between after : σ} {aliases : List Alias} (hpath : path ≠ "")
      (hexists : (asks.moduleExists path).run before = (true, between))
      (hfind : (asks.findAliases path verify).run between = (.ok aliases, after)) :
      Generates asks style path verify before
        ((scriptOf style path aliases).mapError .declaration) after

/-- A generation that can end in one of these ways does. -/
theorem Generates.run_eq {result : Except GenerationError Script} {after : σ}
    (h : Generates asks style path verify before result after) :
  (generate asks style path verify).run before = (result, after)
  := by
  cases h with
  | rejected hpath =>
    rw [generate, if_pos hpath]
    rfl
  | absent hpath hexists =>
    rw [generate, if_neg hpath]
    apply Eq.trans (run_bind_of_run_eq hexists)
    rfl
  | undiscovered hpath hexists hfind =>
    rw [generate, if_neg hpath]
    apply Eq.trans (run_bind_of_run_eq hexists)
    apply Eq.trans (run_bind_of_run_eq hfind)
    rfl
  | declared hpath hexists hfind => apply generate_of_answers hpath hexists hfind

/-- Every generation ends in one of these ways. -/
theorem exists_generates (asks : Collaborators (StateM σ)) (style : Style) (path : String)
    (verify : Bool) (before : σ) :
  ∃ result after, Generates asks style path verify before result after
  := by
  by_cases hpath : path = ""
  · exact ⟨_, _, .rejected hpath⟩
  · rcases hexists : (asks.moduleExists path).run before with ⟨there, between⟩
    cases there with
    | false => exact ⟨_, _, .absent hpath hexists⟩
    | true =>
      rcases hfind : (asks.findAliases path verify).run between with ⟨found, after⟩
      cases found with
      | error e => exact ⟨_, _, .undiscovered hpath hexists hfind⟩
      | ok aliases => exact ⟨_, _, .declared hpath hexists hfind⟩

/-- A generation ends with a result exactly when that is one of these ways to end. -/
theorem run_generate_eq_iff {result : Except GenerationError Script} {after : σ} :
  (generate asks style path verify).run before = (result, after)
    ↔ Generates asks style path verify before result after
  := by
  constructor
  · intro h
    obtain ⟨result', after', h'⟩ := exists_generates asks style path verify before
    rw [h'.run_eq] at h
    cases h
    apply h'
  · apply Generates.run_eq

/-! ### Generated scripts -/

/-- A script comes of a generation when there is no module, or when it is the script of the
aliases that are found. -/
theorem empty_or_scriptOf_of_run_generate {script : Script} {after : σ}
    (h : (generate asks style path verify).run before = (.ok script, after)) :
  script = .empty ∨ ∃ between aliases, path ≠ ""
    ∧ (asks.moduleExists path).run before = (true, between)
    ∧ (asks.findAliases path verify).run between = (.ok aliases, after)
    ∧ scriptOf style path aliases = .ok script
  := by
  have hgenerates := run_generate_eq_iff.mp h
  generalize hresult : Except.ok script = result at hgenerates
  cases hgenerates with
  | rejected | undiscovered => cases hresult
  | absent =>
    cases hresult
    left
    rfl
  | @declared between _ aliases hpath hexists hfind =>
    right
    use between, aliases, hpath, hexists, hfind
    cases hscript : scriptOf style path aliases with
    | error e =>
      rw [hscript] at hresult
      cases hresult
    | ok script' =>
      rw [hscript] at hresult
      cases hresult
      rfl

/-- The result of a generation in which these aliases are found for the module at `path`,
whoever was asked. -/
def GeneratesFrom (style : Style) (path : String) (aliases : List Alias)
    (result : Except GenerationError Script) : Prop :=
  ∃ (σ : Type) (asks : Collaborators (StateM σ)) (verify : Bool) (before between after : σ),
    path ≠ "" ∧ (asks.moduleExists path).run before = (true, between)
      ∧ (asks.findAliases path verify).run between = (.ok aliases, after)
      ∧ (generate asks style path verify).run before = (result, after)

theorem generatesFrom_iff {aliases : List Alias} {result : Except GenerationError Script} :
  GeneratesFrom style path aliases result
    ↔ path ≠ "" ∧ (scriptOf style path aliases).mapError .declaration = result
  := by
  constructor
  · rintro ⟨σ, asks, verify, before, between, after, hpath, hexists, hfind, hgenerate⟩
    use hpath
    rw [generate_of_answers hpath hexists hfind] at hgenerate
    cases hgenerate
    rfl
  · rintro ⟨hpath, rfl⟩
    let asks : Collaborators (StateM Unit) :=
      ⟨fun _ state => (true, state), fun _ _ state => (.ok aliases, state)⟩
    exact ⟨Unit, asks, true, (), (), (), hpath, rfl, rfl, generate_of_answers hpath rfl rfl⟩

theorem generatesFrom_ok_iff {aliases : List Alias} {script : Script} :
  GeneratesFrom style path aliases (.ok script)
    ↔ path ≠ "" ∧ scriptOf style path aliases = .ok script
  := by
  rw [generatesFrom_iff]
  cases scriptOf style path aliases with
  | ok script' => simp [Except.mapError]
  | error e => simp [Except.mapError]

/-- The script comes of some generation. -/
def Script.IsGenerated (script : Script) : Prop :=
  ∃ (σ : Type) (asks : Collaborators (StateM σ)) (style : Style) (path : String) (verify : Bool)
    (before after : σ), (generate asks style path verify).run before = (.ok script, after)

/-- A script is generated when it is empty, or when it is the script of some aliases. -/
theorem Script.isGenerated_iff {script : Script} :
  script.IsGenerated
    ↔ script = .empty ∨ ∃ style path aliases, GeneratesFrom style path aliases (.ok script)
  := by
  constructor
  · rintro ⟨σ, asks, style, path, verify, before, after, hgenerate⟩
    obtain hempty | ⟨between, aliases, hpath, -, -, hscript⟩ :=
      empty_or_scriptOf_of_run_generate hgenerate
    · left
      apply hempty
    · right
      use style, path, aliases
      apply generatesFrom_ok_iff.mpr ⟨hpath, hscript⟩
  · rintro (rfl | ⟨style, path, aliases, σ, asks, verify, before, _, after, -, -, -, h⟩)
    · let asks : Collaborators (StateM Unit) :=
        ⟨fun _ state => (false, state), fun _ _ state => (.ok [], state)⟩
      exact ⟨Unit, asks, {}, "Tools.dll", true, (), (),
        (Generates.absent (by decide) rfl).run_eq⟩
    · use σ, asks, style, path, verify, before, after

end AliasBinding
