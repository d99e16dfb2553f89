import AliasBinding.Proofs.Generation.Steps

/-!
# The protocol with the collaborators

What is asked of the collaborators over a whole run, that is, over calls made one after the
other.  A log keeps every question with its answer.  Each call adds its own questions to the log
and depends on nothing but their answers (`Turn.KeepsProtocol`), so a run asks once for each
path that is not empty whether there is a module, and once for the aliases of each module that
there is (`generateAll_keeps_protocol`).
-/

namespace AliasBinding

/-- A call: the path of a module, and whether its aliases are to be verified. -/
structure Call where
  path : String
  verify : Bool

/-- A question to a collaborator, with its answer. -/
inductive Exchange where
  | existence (path : String) (answer : Bool)
  | discovery (path : String) (verify : Bool) (answer : Except DiscoveryError (List Alias))

namespace Exchange

/-- The path of a question about existence. -/
def queried? : Exchange → Option String
  | .existence path _ => some path
  | .discovery _ _ _ => none

/-- The path and the flag of a question about aliases. -/
def found? : Exchange → Option (String × Bool)
  | .existence _ _ => none
  | .discovery path verify _ => some (path, verify)

end Exchange

variable {σ : Type}

/-- Collaborators that write every question and its answer to a log. -/
def Collaborators.logged (asks : Collaborators (StateM σ)) :
    Collaborators (StateM (σ × List Exchange)) where
  moduleExists path := fun (state, log) =>
    let (answer, state) := (asks.moduleExists path).run state
    (answer, state, log ++ [.existence path answer])
  findAliases path verify := fun (state, log) =>
    let (answer, state) := (asks.findAliases path verify).run state
    (answer, state, log ++ [.discovery path verify answer])

/-- Makes calls one after the other. -/
def generateAll {m : Type → Type} [Monad m] (asks : Collaborators m) (style : Style)
    (calls : List Call) : m (List (Except GenerationError Script)) :=
  calls.mapM fun c => generate asks style c.path c.verify

/-! ### Turns -/

/-- A call of a run, with what was asked in it and what came of it. -/
structure Turn where
  call : Call
  exchanges : List Exchange
  result : Except GenerationError Script

/-- Collaborators that repeat the answers of a log, and know nothing else. -/
def Collaborators.replaying (log : List Exchange) : Collaborators Id where
  moduleExists path :=
    (log.findSome? fun
      | .existence path' answer => if path' = path then some answer else none
      | .discovery _ _ _ => none).getD false
  findAliases path verify :=
    (log.findSome? fun
      | .existence _ _ => none
      | .discovery path' verify' answer =>
        if path' = path ∧ verify' = verify then some answer else none).getD (.ok [])

namespace Turn

/-- The file system answered that the module is there. -/
def moduleExists (t : Turn) : Bool :=
  t.exchanges.any fun
    | .existence _ answer => answer
    | .discovery _ _ _ => false

/-- What is asked in a call, and what comes of it. -/
structure KeepsProtocol (style : Style) (t : Turn) : Prop where
  /-- Whether there is a module is asked once, unless the path is empty. -/
  queries : t.exchanges.filterMap Exchange.queried?
    = if t.call.path = "" then [] else [t.call.path]
  /-- The aliases are asked for once, with the flag of the call, if there is a module. -/
  findings : t.exchanges.filterMap Exchange.found?
    = if t.moduleExists then [(t.call.path, t.call.verify)] else []
  /-- The call comes to the same on its own, with collaborators that give the same answers. -/
  result_eq : t.result = generate (.replaying t.exchanges) style t.call.path t.call.verify
  rejected : t.call.path = "" → t.exchanges = [] ∧ t.result = .error .noModule
  isEmpty_iff : ∀ script, t.result = .ok script →
    (script.isEmpty = true ↔ t.moduleExists = false)
  eq_empty_iff : ∀ script, t.result = .ok script → (script = .empty ↔ t.moduleExists = false)
  references_eq : ∀ script, t.result = .ok script → t.moduleExists = true →
    script.references = [t.call.path]
  source_ne_empty : ∀ script, t.result = .ok script → script.namespaces.isEmpty = false →
    script.source ≠ ""

end Turn

/-! ### Scripts -/

theorem NameSet.isEmpty_iff {s : NameSet} :
  s.isEmpty = true ↔ s = .empty
  := by
  obtain ⟨names, hnames⟩ := s
  simp [isEmpty, empty]

theorem Script.isEmpty_iff {script : Script} :
  script.isEmpty = true ↔ script = .empty
  := by
  obtain ⟨source, namespaces, references⟩ := script
  simp [isEmpty, empty, NameSet.isEmpty_iff, and_assoc]

/-- A script has a source if it needs namespaces, for it declares the aliases that do. -/
theorem source_ne_empty_of_scriptOf_eq_ok {style : Style} {path : String}
    {aliases : List Alias} {script : Script} (h : scriptOf style path aliases = .ok script)
    (hnamespaces : script.namespaces.isEmpty = false) :
  script.source ≠ ""
  := by
  obtain ⟨texts, htexts, hsource⟩ := source_of_scriptOf_eq_ok h
  rw [(namespaces_references_of_scriptOf_eq_ok h).1] at hnamespaces
  cases htexts with
  | nil => cases hnamespaces
  | @cons _ text _ texts =>
    rw [hsource, List.map_cons, String.join_cons]
    intro hempty
    have hlength := congrArg String.length hempty
    simp [declarationSeparator] at hlength

/-! ### Calls -/

section Calls

variable {style : Style} {c : Call}

theorem keepsProtocol_rejected (hpath : c.path = "") :
  Turn.KeepsProtocol style ⟨c, [], .error .noModule⟩
  where
    queries := by rw [if_pos hpath]; rfl
    findings := rfl
    result_eq := by rw [generate, if_pos hpath]; rfl
    rejected _ := ⟨rfl, rfl⟩
    isEmpty_iff := nofun
    eq_empty_iff := nofun
    references_eq := nofun
    source_ne_empty := nofun

theorem keepsProtocol_absent (hpath : c.path ≠ "") :
  Turn.KeepsProtocol style ⟨c, [.existence c.path false], .ok .empty⟩
  where
    queries := by rw [if_neg hpath]; rfl
    findings := rfl
    result_eq := by
      rw [generate, if_neg hpath]
      simp [Collaborators.replaying]
      rfl
    rejected h := absurd h hpath
    isEmpty_iff := by
      rintro _ ⟨⟩
      exact ⟨fun _ => rfl, fun _ => rfl⟩
    eq_empty_iff := by
      rintro _ ⟨⟩
      exact ⟨fun _ => rfl, fun _ => rfl⟩
    references_eq := nofun
    source_ne_empty := by
      rintro _ ⟨⟩ h
      cases h

theorem keepsProtocol_undiscovered (hpath : c.path ≠ "") (e : DiscoveryError) :
  Turn.KeepsProtocol style ⟨c, [.existence c.path true, .discovery c.path c.verify (.error e)],
    .error (.discovery e)⟩
  where
    queries := by rw [if_neg hpath]; rfl
    findings := rfl
    result_eq := by
      rw [generate, if_neg hpath]
      simp [Collaborators.replaying]
      rfl
    rejected h := absurd h hpath
    isEmpty_iff := nofun
    eq_empty_iff := nofun
    references_eq := nofun
    source_ne_empty := nofun

theorem keepsProtocol_declared (hpath : c.path ≠ "") (aliases : List Alias) :
  Turn.KeepsProtocol style
    ⟨c, [.existence c.path true, .discovery c.path c.verify (.ok aliases)],
      (scriptOf style c.path aliases).mapError .declaration⟩
  := by
  have hscript : ∀ script : Script,
      (scriptOf style c.path aliases).mapError GenerationError.declaration = .ok script →
      scriptOf style c.path aliases = .ok script := by
    cases scriptOf style c.path aliases with
    | ok script => simp [Except.mapError]
    | error e => simp [Except.mapError]
  -- The script refers to the module, even if there is no alias to declare.
  have hne : ∀ script, scriptOf style c.path aliases = .ok script → script ≠ .empty := by
    rintro _ h rfl
    cases (namespaces_references_of_scriptOf_eq_ok h).2
  constructor
  case queries => rw [if_neg hpath]; rfl
  case findings => rfl
  case result_eq =>
    rw [generate, if_neg hpath]
    simp [Collaborators.replaying]
    rfl
  case rejected => exact fun h => absurd h hpath
  case isEmpty_iff =>
    intro script h
    rw [Script.isEmpty_iff]
    constructor
    · intro h'
      exact absurd h' (hne script (hscript script h))
    · intro h'
      cases h'
  case eq_empty_iff =>
    intro script h
    constructor
    · intro h'
      exact absurd h' (hne script (hscript script h))
    · intro h'
      cases h'
  case references_eq =>
    intro script h _
    apply (namespaces_references_of_scriptOf_eq_ok (hscript script h)).2
  case source_ne_empty =>
    intro script h
    apply source_ne_empty_of_scriptOf_eq_ok (hscript script h)

end Calls

/-! ### Runs -/

section Runs

variable {asks : Collaborators (StateM σ)} {style : Style} {before after : σ}
  {log : List Exchange}

theorem run_moduleExists_logged {path : String} {answer : Bool}
    (h : (asks.moduleExists path).run before = (answer, after)) :
  (asks.logged.moduleExists path).run (before, log)
    = (answer, after, log ++ [Exchange.existence path answer])
  := by
  change (let (answer, state) := (asks.moduleExists path).run before
    (answer, state, log ++ [Exchange.existence path answer])) = _
  rw [h]

theorem run_findAliases_logged {path : String} {verify : Bool}
    {answer : Except DiscoveryError (List Alias)}
    (h : (asks.findAliases path verify).run before = (answer, after)) :
  (asks.logged.findAliases path verify).run (before, log)
    = (answer, after, log ++ [Exchange.discovery path verify answer])
  := by
  change (let (answer, state) := (asks.findAliases path verify).run before
    (answer, state, log ++ [Exchange.discovery path verify answer])) = _
  rw [h]

/-- A call adds what is asked in it to the log, whatever was asked before. -/
theorem exists_turn (asks : Collaborators (StateM σ)) (style : Style) (c : Call) (before : σ) :
  ∃ (t : Turn) (after : σ), t.call = c ∧ t.KeepsProtocol style
    ∧ t.moduleExists = (decide (c.path ≠ "") && ((asks.moduleExists c.path).run before).1)
    ∧ (generate asks style c.path c.verify).run before = (t.result, after)
    ∧ ∀ log, (generate asks.logged style c.path c.verify).run (before, log)
      = (t.result, after, log ++ t.exchanges)
  := by
  obtain ⟨result, after, h⟩ := exists_generates asks style c.path c.verify before
  have hrun := h.run_eq
  cases h with
  | rejected hpath =>
    refine ⟨⟨c, [], .error .noModule⟩, before, rfl, ?_, ?_, hrun, ?_⟩
    · apply keepsProtocol_rejected hpath
    · simp [Turn.moduleExists, hpath]
    · intro log
      rw [List.append_nil]
      apply (Generates.rejected hpath).run_eq
  | absent hpath hexists =>
    refine ⟨⟨c, [.existence c.path false], .ok .empty⟩, after, rfl, ?_, ?_, hrun, ?_⟩
    · apply keepsProtocol_absent hpath
    · simp [Turn.moduleExists, hpath, hexists]
    · intro log
      apply (Generates.absent hpath (run_moduleExists_logged hexists)).run_eq
  | @undiscovered between _ e hpath hexists hfind =>
    refine ⟨⟨c, [.existence c.path true, .discovery c.path c.verify (.error e)],
      .error (.discovery e)⟩, after, rfl, ?_, ?_, hrun, ?_⟩
    · apply keepsProtocol_undiscovered hpath e
    · simp [Turn.moduleExists, hpath, hexists]
    · intro log
      rw [← List.singleton_append, ← List.append_assoc]
      apply (Generates.undiscovered hpath (run_moduleExists_logged hexists)
        (run_findAliases_logged hfind)).run_eq
  | @declared between _ aliases hpath hexists hfind =>
    refine ⟨⟨c, [.existence c.path true, .discovery c.path c.verify (.ok aliases)],
      (scriptOf style c.path aliases).mapError .declaration⟩, after, rfl, ?_, ?_, hrun, ?_⟩
    · apply keepsProtocol_declared hpath aliases
    · simp [Turn.moduleExists, hpath, hexists]
    · intro log
      rw [← List.singleton_append, ← List.append_assoc]
      apply (Generates.declared hpath (run_moduleExists_logged hexists)
        (run_findAliases_logged hfind)).run_eq

/-- A run makes its calls one after the other. -/
theorem run_generateAll_cons {τ : Type} {asks : Collaborators (StateM τ)} {c : Call}
    {calls : List Call} {before between after : τ} {result : Except GenerationError Script}
    {results : List (Except GenerationError Script)}
    (h : (generate asks style c.path c.verify).run before = (result, between))
    (hrest : (generateAll asks style calls).run between = (results, after)) :
  (generateAll asks style (c :: calls)).run before = (result :: results, after)
  := by
  rw [generateAll, List.mapM_cons]
  apply Eq.trans (run_bind_of_run_eq h)
  apply Eq.trans (run_bind_of_run_eq hrest)
  rfl

/-- A run adds what is asked in its calls to the log, whatever was asked before. -/
theorem exists_turns (asks : Collaborators (StateM σ)) (style : Style) (calls : List Call)
    (before : σ) :
  ∃ (turns : List Turn) (after : σ), turns.map (·.call) = calls
    ∧ (∀ t ∈ turns, t.KeepsProtocol style)
    ∧ (∀ t ∈ turns, ∃ state, t.moduleExists
      = (decide (t.call.path ≠ "") && ((asks.moduleExists t.call.path).run state).1))
    ∧ (generateAll asks style calls).run before = (turns.map (·.result), after)
    ∧ ∀ log, (generateAll asks.logged style calls).run (before, log)
      = (turns.map (·.result), after, log ++ turns.flatMap (·.exchanges))
  := by
  induction calls generalizing before with
  | nil =>
    refine ⟨[], before, rfl, nofun, nofun, rfl, ?_⟩
    intro log
    rw [List.flatMap_nil, List.append_nil]
    rfl
  | cons c calls ih =>
    obtain ⟨t, between, hcall, hkeeps, hexists, hrun, hlogged⟩ :=
      exists_turn asks style c before
    obtain ⟨turns, after, hcalls, hkeepsAll, hexistsAll, hrunAll, hloggedAll⟩ := ih between
    refine ⟨t :: turns, after, ?_, ?_, ?_, ?_, ?_⟩
    · rw [List.map_cons, hcall, hcalls]
    · rw [List.forall_mem_cons]
      exact ⟨hkeeps, hkeepsAll⟩
    · rw [List.forall_mem_cons]
      rw [← hcall] at hexists
      exact ⟨⟨before, hexists⟩, hexistsAll⟩
    · apply run_generateAll_cons hrun hrunAll
    · intro log
      rw [List.flatMap_cons, ← List.append_assoc]
      apply run_generateAll_cons (hlogged log) (hloggedAll _)

/-- The questions about existence are those of the calls, one for each path. -/
theorem filterMap_queried? {turns : List Turn} (h : ∀ t ∈ turns, t.KeepsProtocol style) :
  (turns.flatMap (·.exchanges)).filterMap Exchange.queried?
    = ((turns.map (·.call)).map (·.path)).filter (· ≠ "")
  := by
  induction turns with
  | nil => rfl
  | cons t turns ih =>
    rw [List.forall_mem_cons] at h
    rw [List.flatMap_cons, List.filterMap_append, h.1.queries, ih h.2, List.map_cons,
      List.map_cons, List.filter_cons]
    by_cases hpath : t.call.path = ""
    · simp [hpath]
    · simp [hpath]

/-- The questions about aliases are those of the calls that find a module. -/
theorem filterMap_found? {turns : List Turn} (h : ∀ t ∈ turns, t.KeepsProtocol style) :
  (turns.flatMap (·.exchanges)).filterMap Exchange.found?
    = (turns.filter (·.moduleExists)).map fun t => (t.call.path, t.call.verify)
  := by
  induction turns with
  | nil => rfl
  | cons t turns ih =>
    rw [List.forall_mem_cons] at h
    rw [List.flatMap_cons, List.filterMap_append, h.1.findings, ih h.2, List.filter_cons]
    cases t.moduleExists with
    | false => rfl
    | true => rfl

/-- With a file system that goes by a predicate, the calls that find a module are known
beforehand. -/
theorem filter_moduleExists {asks : Collaborators (StateM σ)} {there : String → Bool}
    (hthere : ∀ path state, ((asks.moduleExists path).run state).1 = there path)
    {turns : List Turn}
    (h : ∀ t ∈ turns, ∃ state, t.moduleExists
      = (decide (t.call.path ≠ "") && ((asks.moduleExists t.call.path).run state).1)) :
  (turns.filter (·.moduleExists)).map (·.call)
    = (turns.map (·.call)).filter fun c => decide (c.path ≠ "") && there c.path
  := by
  rw [List.filter_map]
  congr 1
  apply List.filter_congr
  intro t ht
  obtain ⟨state, hexists⟩ := h t ht
  rw [hexists, hthere]
  rfl

/-- Over a run, whatever the collaborators answer and whenever, each call keeps the protocol.  So
it is asked once for each path that is not empty, in order, whether there is a module, and once
for the aliases of each module that there is, with the flag of the call; and the log does not
change what comes of the calls. -/
theorem generateAll_keeps_protocol (asks : Collaborators (StateM σ)) (style : Style)
    (calls : List Call) (before : σ) :
  ∃ (turns : List Turn) (after : σ), turns.map (·.call) = calls
    ∧ (∀ t ∈ turns, t.KeepsProtocol style)
    ∧ (generateAll asks style calls).run before = (turns.map (·.result), after)
    ∧ (generateAll asks.logged style calls).run (before, [])
      = (turns.map (·.result), after, turns.flatMap (·.exchanges))
    ∧ (turns.flatMap (·.exchanges)).filterMap Exchange.queried?
      = (calls.map (·.path)).filter (· ≠ "")
    ∧ (turns.flatMap (·.exchanges)).filterMap Exchange.found?
      = (turns.filter (·.moduleExists)).map (fun t => (t.call.path, t.call.verify))
    ∧ ∀ there : String → Bool,
      (∀ path state, ((asks.moduleExists path).run state).1 = there path) →
      (turns.flatMap (·.exchanges)).filterMap Exchange.found?
        = (calls.filter fun c => decide (c.path ≠ "") && there c.path).map
          fun c => (c.path, c.verify)
  := by
  obtain ⟨turns, after, hcalls, hkeeps, hexists, hrun, hlogged⟩ :=
    exists_turns asks style calls before
  use turns, after, hcalls, hkeeps, hrun, hlogged []
  refine ⟨?_, ?_, ?_⟩
  · rw [filterMap_queried? hkeeps, hcalls]
  · apply filterMap_found? hkeeps
  · intro there hthere
    rw [filterMap_found? hkeeps, ← hcalls, ← filter_moduleExists hthere hexists, List.map_map]
    rfl

end Runs

end AliasBinding
