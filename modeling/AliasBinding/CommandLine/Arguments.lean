import AliasBinding.CommandLine.Request

/-!
# Arguments

The arguments are taken from left to right, and the first error ends the reading.  A value
that is an argument of its own is put aside, and goes to its slot only when the next argument
has been recognised or when there is none; an argument that is not recognised is an error at
once.  After `--` every argument is a value.
-/

namespace AliasBinding.CommandLine

/-- What the arguments so far have settled. -/
structure Settings where
  module? : Option String := none
  format? : Option Format := none
  indent? : Option Nat := none
  context? : Option String := none
  output? : Option String := none
  verify : Bool := false
  noQualify : Bool := false
  deriving DecidableEq, Repr

/-- The state between two arguments. -/
structure Progress where
  settings : Settings := {}
  /-- A slot to be filled, and the value for it, when there is one. -/
  pending? : Option (Slot × Option String) := none
  /-- Whether every further argument is a value. -/
  valuesOnly : Bool := false
  deriving DecidableEq, Repr

namespace Settings

/-- Fills a slot that must not be filled yet. -/
def fill {α : Type} (slot : Slot) (present : Option α) (value : Except UsageError α) :
    Except UsageError (Option α) :=
  match present with
  | some _ => .error (.repeated slot.name)
  | none => some <$> value

/-- A value that is not empty. -/
def nonempty (slot : Slot) (value : String) : Except UsageError String :=
  if value = "" then .error (.badChoice slot.name) else .ok value

/-- A value that has been checked, or an error. -/
def checked {α : Type} (error : UsageError) : Option α → Except UsageError α
  | some a => .ok a
  | none => .error error

/-- The settings with a value in a slot. -/
def assign (s : Settings) (slot : Slot) (value : String) : Except UsageError Settings :=
  match slot with
  | .module =>
    (fun x => { s with module? := x }) <$> fill slot s.module? (nonempty slot value)
  | .format =>
    (fun x => { s with format? := x }) <$>
      fill slot s.format? (checked (.badChoice slot.name) (Format.ofName? value))
  | .indent =>
    (fun x => { s with indent? := x }) <$>
      fill slot s.indent? (checked (.badValue slot.name) (indentWidth? value))
  | .context =>
    (fun x => { s with context? := x }) <$>
      fill slot s.context?
        (if isContextName value then .ok value else .error (.badValue slot.name))
  | .output =>
    (fun x => { s with output? := x }) <$> fill slot s.output? (nonempty slot value)

/-- The settings with a switch on, which must be off. -/
def turnOn (s : Settings) (switch : Switch) : Except UsageError Settings :=
  match switch with
  | .verify =>
    if s.verify then .error (.repeated switch.name) else .ok { s with verify := true }
  | .noQualify =>
    if s.noQualify then .error (.repeated switch.name) else .ok { s with noQualify := true }

/-- The request of the settings, if a module is given. -/
def toRequest (s : Settings) : Except UsageError Request :=
  match s.module? with
  | none => .error .noModule
  | some module => .ok {
      module := module
      verify := s.verify
      format := s.format?.getD .script
      qualify := !s.noQualify
      indent := s.indent?.getD (default : Style).indent
      context := s.context?.getD (default : Style).context
      output? := s.output? }

end Settings

/-- What the name of a long option stands for. -/
inductive Flag where
  | help
  | switch (switch : Switch)
  | option (slot : Slot)
  deriving DecidableEq, Repr

/-- The long options. -/
def longOptions : List (String × Flag) := [
  ("--help", .help), ("--verify", .switch .verify), ("--no-qualify", .switch .noQualify),
  ("--format", .option .format), ("--indent", .option .indent),
  ("--context", .option .context), ("--output", .option .output)]

/-- A long option with the value attached to it, if there is one. -/
def splitLong (argument : String) : String × Option String :=
  let name := argument.toList.takeWhile (· != '=')
  match argument.toList.drop name.length with
  | _ :: value => (String.ofList name, some (String.ofList value))
  | [] => (argument, none)

namespace Progress

/-- Puts the value that was put aside into its slot. -/
def settle (p : Progress) : Except UsageError Progress :=
  match p.pending? with
  | none => .ok p
  | some (slot, none) => .error (.badChoice slot.name)
  | some (slot, some value) =>
    return { p with settings := ← p.settings.assign slot value, pending? := none }

/-- Takes an option whose value is attached to it. -/
def attached (p : Progress) (slot : Slot) (value : String) : Except UsageError Progress := do
  let p ← p.settle
  return { p with settings := ← p.settings.assign slot value }

/-- Takes an option whose value is the next argument. -/
def awaiting (p : Progress) (slot : Slot) : Except UsageError Progress := do
  let p ← p.settle
  return { p with pending? := some (slot, none) }

/-- Takes a request for help. -/
def help (p : Progress) : Except UsageError Progress := do
  let _ ← p.settle
  .error .help

/-- Takes a long option. -/
def long (p : Progress) (argument : String) : Except UsageError Progress :=
  let (name, value?) := splitLong argument
  match longOptions.lookup name, value? with
  | some (.option slot), some value => p.attached slot value
  | some (.option slot), none => p.awaiting slot
  | some (.switch switch), none => do
    let p ← p.settle
    return { p with settings := ← p.settings.turnOn switch }
  | some .help, none => p.help
  | some (.switch _), some _ | some .help, some _ => .error (.needlessValue name)
  | none, _ => .error (.unknownArgument argument)

/-- Takes a short option, given by the characters behind the dash. -/
def short (p : Progress) (argument : String) : List Char → Except UsageError Progress
  | 'h' :: _ => p.help
  | ['o'] => p.awaiting .output
  | 'o' :: '=' :: value => p.attached .output (String.ofList value)
  | 'o' :: value => p.attached .output (String.ofList value)
  | _ => .error (.unknownArgument argument)

/-- Takes a value that belongs to no option. -/
def positional (p : Progress) (argument : String) : Except UsageError Progress :=
  let isTaken :=
    match p.pending? with
    | some (.module, _) => true
    | _ => p.settings.module?.isSome
  if isTaken then .error (.unknownArgument argument)
  else do
    let p ← p.settle
    return { p with pending? := some (.module, some argument) }

/-- Takes an argument. -/
def step (p : Progress) (argument : String) : Except UsageError Progress :=
  if p.valuesOnly then p.positional argument
  else
    match argument.toList with
    | ['-', '-'] => .ok { p with valuesOnly := true }
    | '-' :: '-' :: _ => p.long argument
    | '-' :: c :: rest => p.short argument (c :: rest)
    | _ =>
      match p.pending? with
      | some (slot, none) => .ok { p with pending? := some (slot, some argument) }
      | _ => p.positional argument

end Progress

/-- The request of the arguments behind the command. -/
def requestOf (arguments : List String) : Except UsageError Request := do
  let p ← arguments.foldlM Progress.step {}
  (← p.settle).settings.toRequest

/-- The commands. -/
def commands : List String := ["generate", "help"]

/-- The error of asking for help on some words: there is help on one command at a time. -/
def helpOn : List String → UsageError
  | [] => .help
  | [word] => if commands.contains word then .help else .unknownCommand word
  | word :: other :: _ => .unknownCommand (if commands.contains word then other else word)

/-- The request of a command line without the name of the program. -/
def parse : List String → Except UsageError Request
  | [] => .error .noCommand
  | argument :: rest =>
    match argument.toList with
    | ['-', '-'] =>
      match rest with
      | [] => .error .noCommand
      | word :: _ =>
        .error (if commands.contains word then .unknownArgument word else .unknownCommand word)
    | '-' :: '-' :: _ =>
      let (name, value?) := splitLong argument
      if name = "--help" then
        .error (if value?.isSome then .needlessValue name else .help)
      else .error (.unknownArgument argument)
    | '-' :: c :: _ => .error (if c = 'h' then .help else .unknownArgument argument)
    | _ =>
      if argument = "generate" then requestOf rest
      else if argument = "help" then .error (helpOn rest)
      else .error (.unknownCommand argument)

end AliasBinding.CommandLine
