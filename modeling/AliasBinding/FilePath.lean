/-!
# File paths

The text of a path is cut at slashes.  Empty parts count for nothing, and neither does a part
that is a single dot, unless the path begins with it.  Two paths with the same components name
the same file.
-/

namespace AliasBinding.FilePath

/-- The parts between slashes. -/
def parts : List Char → List (List Char)
  | [] => [[]]
  | c :: rest =>
    if c = '/' then [] :: parts rest
    else
      match parts rest with
      | first :: others => (c :: first) :: others
      | [] => [[c]]

/-- Whether the path starts at the root. -/
def isAbsolute (path : String) : Bool := path.toList.head? == some '/'

/-- The components of a path.  The root is a component `/`. -/
def components (path : String) : List String :=
  let isName (part : List Char) : Bool := part != [] && part != ['.']
  let names (ps : List (List Char)) : List String := (ps.filter isName).map String.ofList
  match parts path.toList with
  | [] => []
  | first :: others =>
    if isAbsolute path then "/" :: names others
    else if first = ['.'] then "." :: names others
    else names (first :: others)

/-- Whether two paths have the same components. -/
def same (p q : String) : Bool := components p == components q

/-! ### File names

The functions below take the characters of a path in reverse. -/

/-- Drops what comes after the last component: slashes, and dots that are parts of their
own. -/
def dropTrailing : List Char → List Char
  | '/' :: rest => dropTrailing rest
  | '.' :: '/' :: rest => dropTrailing rest
  | path => path

theorem length_dropTrailing_le (path : List Char) :
  (dropTrailing path).length ≤ path.length
  := by
  fun_induction dropTrailing path with
  | case1 rest ih => simp only [List.length_cons]; omega
  | case2 rest ih => simp only [List.length_cons]; omega
  | case3 => exact Nat.le_refl _

/-- What is left does not end in a slash. -/
theorem dropTrailing_ne_slash (path rest : List Char) :
  dropTrailing path ≠ '/' :: rest
  := by
  fun_induction dropTrailing path with
  | case1 _ ih => exact ih
  | case2 _ ih => exact ih
  | case3 path h _ => exact h rest

/-- The last component of a path without anything after it. -/
def lastName (path : List Char) : List Char := path.takeWhile (· != '/')

/-- Whether the last component is the name of a file. -/
def isFileName (name : List Char) : Bool := name != [] && name != ['.'] && name != ['.', '.']

/-- The number of characters behind the last dot of a name, if it has one that does not stand
at its beginning. -/
def extensionLength? (name : List Char) : Option Nat :=
  let tail := name.takeWhile (· != '.')
  if tail.length + 1 < name.length then some tail.length else none

/-- The file name of a path without anything after it, if it has a file name. -/
def fileName? (path : List Char) : Option (List Char) :=
  let name := lastName (dropTrailing path)
  if isFileName name then some name else none

/-- The path up to the end of the stem of its file name, if it has a file name: the stem ends
before the dot of the extension. -/
def stem? (path : List Char) : Option (List Char) :=
  (fileName? path).map fun name =>
    match extensionLength? name with
    | some n => (dropTrailing path).drop (n + 1)
    | none => dropTrailing path

/-- The path without as many characters at its end as its extension has. -/
def shorten (path : List Char) : List Char :=
  path.drop (((fileName? path).bind extensionLength?).getD 0)

/-- The path with another extension: it is shortened by the present one, and the stem of what
is left gets the other one.  A path without a file name stays as it is; so does a path that is
left without one, when only two dots remain of its name. -/
def withExtension (path extension : String) : String :=
  let kept := shorten path.toList.reverse
  match stem? kept with
  | some stem => String.ofList stem.reverse ++ "." ++ extension
  | none => String.ofList kept.reverse

/-! ### Parents -/

/-- The path up to its last component, if it has one. -/
def parent? (path : List Char) : Option (List Char) :=
  match dropTrailing path with
  | [] => none
  | c :: kept =>
    match (c :: kept).dropWhile (· != '/') with
    | [] => some []
    | slash :: rest =>
      match dropTrailing (slash :: rest) with
      | [] => some ['/']
      | up => some up

theorem length_parent_lt {path up : List Char} (h : parent? path = some up) :
  up.length < path.length
  := by
  unfold parent? at h
  split at h
  · simp at h
  · rename_i c kept hkept
    have hle := length_dropTrailing_le path
    rw [hkept, List.length_cons] at hle
    have hc : c ≠ '/' := fun hc => dropTrailing_ne_slash path kept (hc ▸ hkept)
    have hdrop : (c :: kept).dropWhile (· != '/') = kept.dropWhile (· != '/') := by
      simp [hc]
    have hrest := (List.dropWhile_sublist (l := kept) (· != '/')).length_le
    rw [hdrop] at h
    split at h
    · cases h
      simp only [List.length_nil]
      omega
    · rename_i slash rest hslash
      rw [hslash] at hrest
      split at h
      · cases h
        simp only [List.length_cons, List.length_nil] at hrest ⊢
        omega
      · cases h
        have := length_dropTrailing_le (slash :: rest)
        omega

/-- A path and the paths above it, up to the root or to the working directory, which is left
out. -/
def ancestors (path : List Char) : List (List Char) :=
  if path = [] then []
  else
    match _h : parent? path with
    | some up => path :: ancestors up
    | none => [path]
termination_by path.length
decreasing_by exact length_parent_lt _h

end AliasBinding.FilePath
