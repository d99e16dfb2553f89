import AliasBinding.Verification
import AliasBinding.Manifest.Location
import AliasBinding.Manifest.Reader

/-!
# Discovery

The aliases of a module are those of its manifest.  With verification, the manifest is refused
if any of its aliases has a problem.
-/

namespace AliasBinding

/-- Why a file cannot be read as text. -/
inductive ReadError where
  /-- There is no such file. -/
  | missing
  | failed (detail : String)
  deriving DecidableEq, Repr

/-- Why the aliases of a module cannot be had. -/
inductive DiscoveryError where
  | noManifest (module manifest : String)
  | unreadable (manifest detail : String)
  | malformed (manifest : String) (fault : Json.Fault)
  | unverified (module : String) (problems : List String)
  deriving DecidableEq, Repr

namespace DiscoveryError

/-- What went wrong, without the detail that follows after a colon. -/
def summary : DiscoveryError → String
  | .noManifest module manifest =>
    "no alias manifest for `" ++ module ++ "` (expected `" ++ manifest ++ "`)"
  | .unreadable manifest _ => "failed to read `" ++ manifest ++ "`"
  | .malformed manifest _ => "malformed alias manifest `" ++ manifest ++ "`"
  | .unverified module problems =>
    "`" ++ module ++ "` failed verification with " ++ toString problems.length ++
    " problem(s):\n" ++ "\n".intercalate (problems.map fun problem => "  - " ++ problem)

/-- The detail, if there is one. -/
def detail? : DiscoveryError → Option String
  | .unreadable _ detail => some detail
  | .malformed _ fault => some fault.message
  | .noManifest _ _ | .unverified _ _ => none

end DiscoveryError

/-- The aliases that the text of a manifest lists. -/
def aliasesOfText (module : String) (verify : Bool) (text : String) :
    Except DiscoveryError (List Alias) :=
  match Manifest.ofText text with
  | .error fault => .error (.malformed (Manifest.location module) fault)
  | .ok manifest =>
    let problems := if verify then Alias.verify manifest.aliases else []
    if problems.isEmpty then .ok manifest.aliases else .error (.unverified module problems)

/-- The aliases of a module, whose manifest is read with `readText`. -/
def findAliases {m : Type → Type} [Monad m] (readText : String → m (Except ReadError String))
    (module : String) (verify : Bool) : m (Except DiscoveryError (List Alias)) := do
  let manifest := Manifest.location module
  match ← readText manifest with
  | .error .missing => return .error (.noManifest module manifest)
  | .error (.failed detail) => return .error (.unreadable manifest detail)
  | .ok text => return aliasesOfText module verify text

end AliasBinding
