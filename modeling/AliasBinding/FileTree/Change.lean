import AliasBinding.FileTree

/-!
# Changes of a file tree

Writing a file, making directories and removing what is there.  A change that fails may have
done a part of its work: the directories above one that cannot be made stay, and a directory
that cannot be removed itself is left empty.
-/

namespace AliasBinding.FileTree

/-- The directory that the last name of a path is looked up in, and that name; the root stays
in itself. -/
def place (t : FileTree) (path : String) : Except PathError (Location × String) := do
  requirePath path
  match (names path).getLast? with
  | none => return (t.origin path, ".")
  | some name =>
    let loc ← (names path).dropLast.foldlM t.enter (t.origin path)
    t.requireDirectory loc
    return (loc, name)

/-- Whether a name stays in the directory or leads to the one above. -/
def isDots (name : String) : Bool := name == "." || name == ".."

/-- The tree after writing a file. -/
def writeBytes (t : FileTree) (path : String) (bytes : ByteArray) :
    Except PathError FileTree := do
  let (loc, name) ← t.place path
  if isDots name || endsInSlash path then .error .isDirectory
  if maxName < name.utf8ByteSize then .error .nameTooLong
  match t.entry? (loc ++ [name]) with
  | some .directory => .error .isDirectory
  | some (.file _) | none => return t.put (loc ++ [name]) (.file bytes)

/-- The tree after making one directory, in a directory that is there. -/
def withDirectory (t : FileTree) (path : String) : Except PathError FileTree := do
  let (loc, name) ← t.place path
  if isDots name then .error .alreadyThere
  if maxName < name.utf8ByteSize then .error .nameTooLong
  match t.entry? (loc ++ [name]) with
  | some _ => .error .alreadyThere
  | none => return t.put (loc ++ [name]) .directory

/-- Makes one directory, unless it is there. -/
def ensureDirectory (t : FileTree) (path : String) : FileTree × Except PathError Unit :=
  match t.withDirectory path with
  | .ok t => (t, .ok ())
  | .error e => (t, if t.isDirectory path then .ok () else .error e)

/-- Makes the first of some paths a directory; what is missing above it is made before, by
way of the other paths. -/
def makeAlong (t : FileTree) : List String → FileTree × Except PathError Unit
  | [] => (t, .ok ())
  | path :: above =>
    match t.withDirectory path with
    | .error .missing =>
      match t.makeAlong above with
      | (t, .ok ()) => t.ensureDirectory path
      | (t, .error e) => (t, .error e)
    | _ => t.ensureDirectory path

/-- Makes a directory and those that lead to it. -/
def makeDirectory (t : FileTree) (path : String) : FileTree × Except PathError Unit :=
  t.makeAlong ((FilePath.ancestors path.toList.reverse).map fun p => String.ofList p.reverse)

/-- The tree after removing an empty directory.  Nothing is to be done for a path that leads
nowhere, which a path through a directory below does once that directory is emptied. -/
def withoutDirectory (t : FileTree) (path : String) : Except PathError FileTree :=
  match t.place path with
  | .error .missing => .ok t
  | .error e => .error e
  | .ok (loc, name) => if isDots name then .error .notRemovable else .ok (t.cut (loc ++ [name]))

/-- Removes the file or directory at a path, with all below it.  A directory is emptied first,
under any name, and then removed itself, under its own. -/
def remove (t : FileTree) (path : String) : FileTree × Except PathError Unit :=
  match t.resolve path with
  | .error e => (t, .error e)
  | .ok loc =>
    match t.entry? loc with
    | some .directory =>
      match (t.clear loc).withoutDirectory path with
      | .ok t => (t, .ok ())
      | .error e => (t.clear loc, .error e)
    | some (.file _) | none => (t.cut loc, .ok ())

/-- Access to the files of a tree, which writing changes. -/
def access : FileAccess (StateM FileTree) where
  isFile path := return (← get).isFile path
  readText path := return (← get).readText path
  writeText path s := do
    match (← get).writeBytes path s.toUTF8 with
    | .ok t => set t; return .ok ()
    | .error e => return .error e.message

end AliasBinding.FileTree
