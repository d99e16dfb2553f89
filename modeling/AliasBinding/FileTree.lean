import AliasBinding.FileAccess

/-!
# File trees

A file system without links.  Every file and directory but the root has an entry under its
location, the list of names that leads to it from the root.  A path is followed name by name
from the root or from the working directory; every name but the last has to lead to a
directory, and a slash at the end asks for a directory too.
-/

namespace AliasBinding

/-- What stands at a location. -/
inductive Entry where
  | file (bytes : ByteArray)
  | directory

/-- A location: the names that lead to it from the root. -/
abbrev Location := List String

/-- A file system. -/
structure FileTree where
  /-- The entries below the root. -/
  entries : List (Location × Entry)
  workingDirectory : Location

/-- Why a path cannot be followed, or does not lead to what is wanted. -/
inductive PathError where
  | missing
  | notDirectory
  | isDirectory
  | alreadyThere
  | nameTooLong
  /-- A directory that cannot be removed by the name it is given. -/
  | notRemovable
  /-- A path with a NUL character. -/
  | notPath
  deriving DecidableEq, Repr

namespace PathError

/-- The wording of the error. -/
def message : PathError → String
  | .missing => "No such file or directory (os error 2)"
  | .notDirectory => "Not a directory (os error 20)"
  | .isDirectory => "Is a directory (os error 21)"
  | .alreadyThere => "File exists (os error 17)"
  | .notRemovable => "Invalid argument (os error 22)"
  | .nameTooLong => "File name too long (os error 36)"
  | .notPath => "file name contained an unexpected NUL byte"

/-- The error as one of reading a file. -/
def toReadError : PathError → ReadError
  | .missing => .missing
  | e => .failed e.message

end PathError

namespace FileTree

/-- A tree with one directory, which is empty and the working directory. -/
def fresh : FileTree := ⟨[(["work"], .directory)], ["work"]⟩

/-- The entry at a location. -/
def entry? (t : FileTree) (loc : Location) : Option Entry :=
  if loc = [] then some .directory else t.entries.lookup loc

/-- The tree with another entry at a location. -/
def put (t : FileTree) (loc : Location) (e : Entry) : FileTree :=
  { t with entries := (loc, e) :: t.entries.filter (·.1 != loc) }

/-- The tree without the entries below a location. -/
def clear (t : FileTree) (loc : Location) : FileTree :=
  { t with entries := t.entries.filter fun e => e.1 = loc || !loc.isPrefixOf e.1 }

/-- The tree without the entries at and below a location. -/
def cut (t : FileTree) (loc : Location) : FileTree :=
  { t with entries := t.entries.filter fun e => !loc.isPrefixOf e.1 }

/-! ### Following paths -/

/-- The longest name of an entry, in bytes. -/
def maxName : Nat := 255

/-- The longest path, in bytes. -/
def maxPath : Nat := 4095

/-- The names of a path. -/
def names (path : String) : List String :=
  ((FilePath.parts path.toList).filter (· != [])).map String.ofList

/-- Whether a path ends in a slash. -/
def endsInSlash (path : String) : Bool := path.toList.getLast? == some '/'

/-- The names of a path that are followed one by one; a slash at the end counts as a name that
stays in the directory. -/
def steps (path : String) : List String :=
  if endsInSlash path then names path ++ ["."] else names path

/-- Where the first step of a path starts. -/
def origin (t : FileTree) (path : String) : Location :=
  if FilePath.isAbsolute path then [] else t.workingDirectory

/-- Fails for a text that is not a path. -/
def requirePath (path : String) : Except PathError Unit :=
  if path.toList.contains '\x00' then .error .notPath
  else if path = "" then .error .missing
  else if maxPath < path.utf8ByteSize then .error .nameTooLong
  else .ok ()

/-- Fails unless a directory stands at a location. -/
def requireDirectory (t : FileTree) (loc : Location) : Except PathError Unit :=
  match t.entry? loc with
  | some .directory => .ok ()
  | some (.file _) => .error .notDirectory
  | none => .error .missing

/-- Follows one name from a directory. -/
def enter (t : FileTree) (loc : Location) (name : String) : Except PathError Location := do
  t.requireDirectory loc
  if name = "." then return loc
  if name = ".." then return loc.dropLast
  if maxName < name.utf8ByteSize then .error .nameTooLong
  match t.entry? (loc ++ [name]) with
  | some _ => return loc ++ [name]
  | none => .error .missing

/-- The location that a path leads to. -/
def resolve (t : FileTree) (path : String) : Except PathError Location := do
  requirePath path
  (steps path).foldlM t.enter (t.origin path)

/-! ### Reading -/

/-- Whether a path leads to a directory. -/
def isDirectory (t : FileTree) (path : String) : Bool :=
  match t.resolve path with
  | .ok loc => (t.requireDirectory loc).isOk
  | .error _ => false

/-- Whether a path leads to a regular file. -/
def isFile (t : FileTree) (path : String) : Bool :=
  match t.resolve path with
  | .ok loc =>
    match t.entry? loc with
    | some (.file _) => true
    | some .directory | none => false
  | .error _ => false

/-- The bytes of the file at a path. -/
def readBytes (t : FileTree) (path : String) : Except PathError ByteArray := do
  match t.entry? (← t.resolve path) with
  | some (.file bytes) => return bytes
  | some .directory => .error .isDirectory
  | none => .error .missing

/-- The text of the file at a path. -/
def readText (t : FileTree) (path : String) : Except ReadError String :=
  match t.readBytes path with
  | .error e => .error e.toReadError
  | .ok bytes =>
    match String.fromUTF8? bytes with
    | some s => .ok s
    | none => .error (.failed "stream did not contain valid UTF-8")

end FileTree

end AliasBinding
