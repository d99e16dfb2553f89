import AliasBinding.Declaration
import AliasBinding.Discovery
import AliasBinding.Script

/-!
# Generation

The script for a module holds the declarations of its aliases in order, each followed by an
empty line.  Whether the module exists, and what its aliases are, is asked of collaborators:
first the one, then, for a module that exists, the other.
-/

namespace AliasBinding

/-- Why no script can be generated. -/
inductive GenerationError where
  /-- The path of the module is empty. -/
  | noModule
  | declaration (error : DeclarationError)
  | discovery (error : DiscoveryError)
  deriving DecidableEq, Repr

namespace GenerationError

/-- What went wrong, without the detail that follows after a colon. -/
def summary : GenerationError → String
  | .noModule => "invalid argument: module path is required"
  | .declaration error => error.message
  | .discovery error => error.summary

/-- The detail, if there is one. -/
def detail? : GenerationError → Option String
  | .discovery error => error.detail?
  | .noModule | .declaration _ => none

end GenerationError

/-- What a generation asks of its surroundings. -/
structure Collaborators (m : Type → Type) where
  /-- Whether there is a module at a path. -/
  moduleExists : String → m Bool
  /-- The aliases of the module at a path, verified if the flag is set. -/
  findAliases : String → Bool → m (Except DiscoveryError (List Alias))

/-- What follows each declaration. -/
def declarationSeparator : String := "\n\n"

/-- Appends the declarations of aliases to a text. -/
def appendDeclarations (style : Style) (held : String) :
    List Alias → Except DeclarationError String
  | [] => .ok held
  | a :: rest =>
    match Sink.unbounded.deliver held style (a.member.draft style) with
    | (held, .ok ()) => appendDeclarations style (held ++ declarationSeparator) rest
    | (_, .error e) => .error e

/-- The namespaces that any of the aliases needs. -/
def namespacesOf (aliases : List Alias) : NameSet :=
  aliases.foldl (fun set a => set.union a.namespaces) .empty

/-- The script for the module at `path` with the given aliases. -/
def scriptOf (style : Style) (path : String) (aliases : List Alias) :
    Except DeclarationError Script := do
  let source ← appendDeclarations style "" aliases
  return ⟨source, namespacesOf aliases, [path]⟩

/-- Generates the script for the module at `path`. -/
def generate {m : Type → Type} [Monad m] (asks : Collaborators m) (style : Style)
    (path : String) (verify : Bool) : m (Except GenerationError Script) := do
  if path = "" then return .error .noModule
  if !(← asks.moduleExists path) then return .ok .empty
  match ← asks.findAliases path verify with
  | .error e => return .error (.discovery e)
  | .ok aliases => return (scriptOf style path aliases).mapError .declaration

end AliasBinding
