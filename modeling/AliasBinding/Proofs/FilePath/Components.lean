import AliasBinding.FilePath
import Mathlib.Data.List.Basic

/-!
# Components of file paths

The components of a path are its parts between slashes, except that empty parts and dots count only
where the path begins (`components_eq`).  What stands behind the last component counts for nothing
(`componentsOf_dropTrailing`).  So the components of a name in a directory are those of the
directory, and the name (`IsName.componentsOf_path`), and the parent has the components of the
directory (`IsName.parentComponents?_path`).
-/

namespace AliasBinding.FilePath

/-! ### Components -/

theorem parts_eq_splitOn (cs : List Char) :
  parts cs = cs.splitOn '/'
  := by
  induction cs with
  | nil => rfl
  | cons c cs ih =>
    rw [parts, List.splitOn_cons_eq_if_modifyHead, ih]
    by_cases hc : c = '/'
    · rw [if_pos hc, if_pos (beq_iff_eq.mpr hc)]
    · rw [if_neg hc, if_neg (by simpa using hc)]
      cases hrest : cs.splitOn '/' with
      | nil => exact absurd hrest (List.splitOn_ne_nil _ _)
      | cons first others => rfl

/-- Whether a part between slashes is a component wherever it stands. -/
def isComponent (part : List Char) : Bool := part != [] && part != ['.']

/-- The components that are so wherever they stand. -/
def names (cs : List Char) : List String :=
  ((cs.splitOn '/').filter isComponent).map String.ofList

/-- The component that is one because the path begins with it: the root, or a dot. -/
def leading (cs : List Char) : List String :=
  if cs.head? = some '/' then ["/"]
  else if (cs.splitOn '/').head? = some ['.'] then ["."]
  else []

/-- The components of the path with these characters. -/
def componentsOf (cs : List Char) : List String := leading cs ++ names cs

theorem components_eq (path : String) :
  components path = componentsOf path.toList
  := by
  rw [components, componentsOf, leading, names, parts_eq_splitOn]
  cases hparts : path.toList.splitOn '/' with
  | nil => exact absurd hparts (List.splitOn_ne_nil _ _)
  | cons first others =>
    change (if path.toList.head? == some '/'
        then "/" :: (others.filter isComponent).map String.ofList
      else if first = ['.'] then "." :: (others.filter isComponent).map String.ofList
      else ((first :: others).filter isComponent).map String.ofList) = _
    by_cases habsolute : path.toList.head? = some '/'
    · have hfirst : first = [] := by
        obtain ⟨rest, hrest⟩ := List.head?_eq_some_iff.mp habsolute
        have hsplit : ('/' :: rest).splitOn '/' = [] :: rest.splitOn '/' :=
          List.splitOn_append_cons_self [] rest
        rw [hrest, hsplit] at hparts
        exact (List.cons.inj hparts).1.symm
      subst hfirst
      simp [habsolute, isComponent]
    · by_cases hdot : first = ['.']
      · subst hdot
        simp [habsolute, isComponent]
      · simp [habsolute, hdot]

theorem names_append_slash (cs cs' : List Char) :
  names (cs ++ '/' :: cs') = names cs ++ names cs'
  := by
  rw [names, List.splitOn_append_cons_self, List.filter_append, List.map_append]
  rfl

theorem names_of_notMem {cs : List Char} (h : '/' ∉ cs) :
  names cs = if isComponent cs then [String.ofList cs] else []
  := by
  rw [names, List.splitOn_eq_singleton h, List.filter_singleton]
  cases isComponent cs with
  | true => rfl
  | false => rfl

theorem leading_append_slash {cs : List Char} (h : cs ≠ []) (cs' : List Char) :
  leading (cs ++ '/' :: cs') = leading cs
  := by
  rw [leading, leading, List.head?_append_of_ne_nil _ h, List.splitOn_append_cons_self,
    List.head?_append_of_ne_nil _ (List.splitOn_ne_nil _ _)]

/-- What follows a slash has no say in how the path begins. -/
theorem leading_append_slash_eq (cs cs' : List Char) :
  leading (cs ++ '/' :: cs') = leading (cs ++ ['/'])
  := by
  by_cases hempty : cs = []
  · rw [hempty]
    rfl
  · rw [leading_append_slash hempty, leading_append_slash hempty]

/-! ### What comes after a name -/

/-- A dot that is dropped follows a slash. -/
theorem reverse_dot (path : List Char) :
  ('.' :: '/' :: path).reverse = path.reverse ++ '/' :: ['.']
  := by
  rw [List.reverse_cons, List.reverse_cons, List.append_assoc]
  rfl

/-- What is dropped behind a path has no components. -/
theorem names_dropTrailing (path : List Char) :
  names (dropTrailing path).reverse = names path.reverse
  := by
  have hslash : ∀ rest : List Char, names ('/' :: rest).reverse = names rest.reverse := by
    intro rest
    rw [List.reverse_cons, names_append_slash]
    exact List.append_nil _
  have hname : names ['.'] = [] := names_of_notMem (by decide)
  have hdot : ∀ rest : List Char, names ('.' :: '/' :: rest).reverse = names rest.reverse := by
    intro rest
    rw [reverse_dot, names_append_slash, hname]
    exact List.append_nil _
  fun_induction dropTrailing path with
  | case1 rest ih => rw [ih, hslash]
  | case2 rest ih => rw [ih, hdot]
  | case3 path => rfl

/-- What is dropped behind a path has no say in how the path begins, unless it is everything. -/
theorem leading_dropTrailing {path : List Char} (h : dropTrailing path ≠ []) :
  leading (dropTrailing path).reverse = leading path.reverse
  := by
  have hne : ∀ {rest : List Char}, dropTrailing rest ≠ [] → rest.reverse ≠ [] := by
    intro rest h hnil
    rw [List.reverse_eq_nil_iff.mp hnil] at h
    exact h rfl
  fun_induction dropTrailing path with
  | case1 rest ih =>
    rw [ih h, List.reverse_cons, leading_append_slash (hne h)]
  | case2 rest ih =>
    rw [ih h, reverse_dot, leading_append_slash (hne h)]
  | case3 path => rfl

/-- A path of which nothing is left names the root. -/
theorem componentsOf_of_dropTrailing_eq_nil {path : List Char} (hne : path ≠ [])
    (h : dropTrailing path = []) :
  componentsOf path.reverse = ["/"]
  := by
  have hnames : names path.reverse = [] := by
    rw [← names_dropTrailing, h]
    rfl
  have hhead : path.reverse.head? = some '/' := by
    clear hnames
    rw [List.head?_reverse]
    fun_induction dropTrailing path with
    | case1 rest ih =>
      cases rest with
      | nil => rfl
      | cons c rest => exact ih (List.cons_ne_nil _ _) h
    | case2 rest ih =>
      cases rest with
      | nil => rfl
      | cons c rest => exact ih (List.cons_ne_nil _ _) h
    | case3 path => exact absurd h hne
  rw [componentsOf, hnames, leading, if_pos hhead, List.append_nil]

theorem componentsOf_dropTrailing {path : List Char} (h : dropTrailing path ≠ []) :
  componentsOf (dropTrailing path).reverse = componentsOf path.reverse
  := by
  rw [componentsOf, componentsOf, leading_dropTrailing h, names_dropTrailing]

theorem dropTrailing_eq_self {path : List Char} (hslash : path.head? ≠ some '/')
    (hdot : ¬ ['.', '/'] <+: path) :
  dropTrailing path = path
  := by
  fun_cases dropTrailing path with
  | case1 rest => exact absurd rfl hslash
  | case2 rest => exact absurd (List.prefix_append ['.', '/'] rest) hdot
  | case3 => rfl

/-- A path all of which is dropped is dropped behind another one, too. -/
theorem dropTrailing_append {trailing : List Char} (h : dropTrailing trailing = [])
    (path : List Char) :
  dropTrailing (trailing ++ path) = dropTrailing path
  := by
  fun_induction dropTrailing trailing with
  | case1 rest ih => exact ih h
  | case2 rest ih => exact ih h
  | case3 trailing =>
    subst h
    rfl

/-- What is dropped is so however much of it there is. -/
theorem dropTrailing_drop {trailing : List Char} (h : dropTrailing trailing = []) (n : Nat) :
  dropTrailing (trailing.drop n) = []
  := by
  have htail : ∀ {trailing}, dropTrailing trailing = [] → dropTrailing trailing.tail = [] := by
    intro trailing
    fun_cases dropTrailing trailing with
    | case1 rest => exact id
    | case2 rest => exact id
    | case3 =>
      rintro rfl
      rfl
  induction n generalizing trailing with
  | zero => exact h
  | succ n ih =>
    rw [← List.drop_tail]
    exact ih (htail h)

theorem exists_append_dropTrailing (path : List Char) :
  ∃ trailing, dropTrailing trailing = [] ∧ path = trailing ++ dropTrailing path
  := by
  fun_induction dropTrailing path with
  | case1 rest ih =>
    obtain ⟨trailing, htrailing, hrest⟩ := ih
    refine ⟨'/' :: trailing, htrailing, ?_⟩
    rw [List.cons_append, ← hrest]
  | case2 rest ih =>
    obtain ⟨trailing, htrailing, hrest⟩ := ih
    refine ⟨'.' :: '/' :: trailing, htrailing, ?_⟩
    rw [List.cons_append, List.cons_append, ← hrest]
  | case3 path => exact ⟨[], rfl, rfl⟩

/-! ### Directories and names -/

/-- The path is empty or ends in a slash. -/
def IsDirectory (dir : List Char) : Prop := ∀ c ∈ dir.getLast?, c = '/'

theorem IsDirectory.reverse_eq {dir : List Char} (h : IsDirectory dir) :
  dir.reverse = [] ∨ ∃ rest, dir.reverse = '/' :: rest
  := by
  cases hdir : dir.reverse with
  | nil =>
    left
    rfl
  | cons c rest =>
    right
    use rest
    rw [h c (by rw [List.getLast?_eq_head?_reverse, hdir]; rfl)]

/-- The path, whose characters stand in reverse, without what counts for nothing at the end of it.
A path of which nothing would be left names the root. -/
def withoutTrailing (path : List Char) : List Char :=
  if path = [] then []
  else if dropTrailing path = [] then ['/']
  else dropTrailing path

theorem componentsOf_withoutTrailing (path : List Char) :
  componentsOf (withoutTrailing path).reverse = componentsOf path.reverse
  := by
  rw [withoutTrailing]
  by_cases hempty : path = []
  · rw [if_pos hempty, hempty]
  · rw [if_neg hempty]
    by_cases hdropped : dropTrailing path = []
    · rw [if_pos hdropped, componentsOf_of_dropTrailing_eq_nil hempty hdropped]
      rfl
    · rw [if_neg hdropped, componentsOf_dropTrailing hdropped]

/-- The components of the parent of a path, if it has one. -/
def parentComponents? (path : String) : Option (List String) :=
  (parent? path.toList.reverse).map fun up => components (String.ofList up.reverse)

/-- A part that is a component wherever it stands, which can be joined to a directory. -/
structure IsName (name : List Char) : Prop where
  slash_notMem : '/' ∉ name
  isComponent : isComponent name = true

namespace IsName

variable {name : List Char} (h : IsName name)

include h

theorem ne_nil :
  name ≠ []
  := by
  rintro rfl
  cases h.isComponent

theorem ne_slash_of_mem_reverse {c : Char} (hc : c ∈ name.reverse) :
  c ≠ '/'
  := by
  rw [List.mem_reverse] at hc
  exact ne_of_mem_of_not_mem hc h.slash_notMem

/-- Nothing is dropped of a name. -/
theorem dropTrailing_append (dir : List Char) :
  dropTrailing (name.reverse ++ dir) = name.reverse ++ dir
  := by
  have hslash := fun c => h.ne_slash_of_mem_reverse (c := c)
  cases hname : name.reverse with
  | nil => exact absurd (List.reverse_eq_nil_iff.mp hname) h.ne_nil
  | cons c rest =>
    rw [hname] at hslash
    apply dropTrailing_eq_self
    case hslash =>
      intro hc
      exact hslash c List.mem_cons_self (Option.some.inj hc)
    case hdot =>
      intro hdot
      cases rest with
      | nil =>
        have hc : c = '.' := (List.cons_prefix_cons.mp hdot).1.symm
        have hname : name = ['.'] := by
          rw [← List.reverse_reverse name, hname, hc]
          rfl
        rw [hname] at h
        cases h.isComponent
      | cons d rest =>
        have hd : '/' = d := (List.cons_prefix_cons.mp (List.cons_prefix_cons.mp hdot).2).1
        exact hslash d (by simp) hd.symm

/-- A name is none of the components that a path can only begin with. -/
theorem leading_eq_nil :
  leading name = []
  := by
  rw [leading, if_neg, if_neg]
  · rw [List.splitOn_eq_singleton h.slash_notMem]
    intro hdot
    have hname : name = ['.'] := Option.some.inj hdot
    rw [hname] at h
    cases h.isComponent
  · intro hhead
    exact h.slash_notMem (List.mem_of_mem_head? hhead)

/-- The components of a name in a directory. -/
theorem componentsOf_append {dir : List Char} (hdir : IsDirectory dir) :
  componentsOf (dir ++ name) = componentsOf dir ++ [String.ofList name]
  := by
  have hnames : names name = [String.ofList name] := by
    rw [names_of_notMem h.slash_notMem, if_pos h.isComponent]
  obtain hempty | ⟨rest, hrest⟩ := hdir.reverse_eq
  · rw [List.reverse_eq_nil_iff.mp hempty, List.nil_append, componentsOf, h.leading_eq_nil, hnames]
    rfl
  · have hdir : dir = rest.reverse ++ '/' :: [] := by
      rw [← List.reverse_reverse dir, hrest, List.reverse_cons]
    rw [hdir, List.append_assoc, List.singleton_append, componentsOf, componentsOf,
      leading_append_slash_eq _ name, names_append_slash, names_append_slash, hnames,
      List.append_assoc, List.append_assoc]
    rfl

section Path

variable {dir trailing : List Char} (hdir : IsDirectory dir)
  (htrailing : dropTrailing trailing.reverse = [])

include htrailing

theorem dropTrailing_path :
  dropTrailing (dir ++ name ++ trailing).reverse = name.reverse ++ dir.reverse
  := by
  rw [List.reverse_append, FilePath.dropTrailing_append htrailing, List.reverse_append,
    h.dropTrailing_append]

include hdir

/-- The components of a name in a directory, with something behind it that counts for nothing. -/
theorem componentsOf_path :
  componentsOf (dir ++ name ++ trailing) = componentsOf dir ++ [String.ofList name]
  := by
  have hdrop : dropTrailing (dir ++ name ++ trailing).reverse = name.reverse ++ dir.reverse :=
    h.dropTrailing_path htrailing
  have hne : dropTrailing (dir ++ name ++ trailing).reverse ≠ [] := by
    rw [hdrop]
    simp [h.ne_nil]
  rw [← h.componentsOf_append hdir]
  have hcomponents := componentsOf_dropTrailing hne
  rw [hdrop, List.reverse_reverse, List.reverse_append, List.reverse_reverse,
    List.reverse_reverse] at hcomponents
  exact hcomponents.symm

theorem lastName_path :
  lastName (dropTrailing (dir ++ name ++ trailing).reverse) = name.reverse
  := by
  rw [h.dropTrailing_path htrailing, lastName, List.takeWhile_append_of_pos]
  · obtain hempty | ⟨rest, hrest⟩ := hdir.reverse_eq
    · rw [hempty]
      exact List.append_nil _
    · rw [hrest]
      exact List.append_nil _
  · intro c hc
    simpa using h.ne_slash_of_mem_reverse hc

theorem dropWhile_path :
  (dropTrailing (dir ++ name ++ trailing).reverse).dropWhile (· != '/') = dir.reverse
  := by
  rw [h.dropTrailing_path htrailing, List.dropWhile_append_of_pos]
  · obtain hempty | ⟨rest, hrest⟩ := hdir.reverse_eq
    · rw [hempty]
      rfl
    · rw [hrest]
      rfl
  · intro c hc
    simpa using h.ne_slash_of_mem_reverse hc

/-- The parent of a path is its directory, without what counts for nothing at the end of it. -/
theorem parent?_path :
  parent? (dir ++ name ++ trailing).reverse = some (withoutTrailing dir.reverse)
  := by
  have hrest := h.dropWhile_path hdir htrailing
  rw [parent?]
  cases hpath : dropTrailing (dir ++ name ++ trailing).reverse with
  | nil =>
    rw [h.dropTrailing_path htrailing] at hpath
    simp [h.ne_nil] at hpath
  | cons c kept =>
    rw [hpath] at hrest
    simp only [hrest]
    cases dir.reverse with
    | nil => rfl
    | cons slash rest =>
      rw [withoutTrailing, if_neg (List.cons_ne_nil _ _)]
      dsimp only
      cases dropTrailing (slash :: rest) with
      | nil => rfl
      | cons d up => rfl

/-- The parent of a path has the components of its directory. -/
theorem parentComponents?_path :
  parentComponents? (String.ofList (dir ++ name ++ trailing)) = some (componentsOf dir)
  := by
  rw [parentComponents?, String.toList_ofList, h.parent?_path hdir htrailing, Option.map_some,
    components_eq, String.toList_ofList, componentsOf_withoutTrailing, List.reverse_reverse]

end Path

end IsName

end AliasBinding.FilePath
