import AliasBinding.Generation

/-!
# Access to files

What the program needs of a file system.  A module is there if its path names a regular file,
and its aliases are read from the manifest beside it.
-/

namespace AliasBinding

/-- Operations on the files of a file system. -/
structure FileAccess (m : Type → Type) where
  /-- Whether a path names a regular file. -/
  isFile : String → m Bool
  /-- The text of the file at a path. -/
  readText : String → m (Except ReadError String)
  /-- Makes a text the contents of the file at a path; an error is told by its detail. -/
  writeText : String → String → m (Except String Unit)

/-- Modules and manifests are files. -/
def FileAccess.collaborators {m : Type → Type} [Monad m] (files : FileAccess m) :
    Collaborators m where
  moduleExists := files.isFile
  findAliases := findAliases files.readText

end AliasBinding
