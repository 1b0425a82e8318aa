import Mathlib.Data.List.AList

/-!
# File trees

A file tree assigns files and directories to absolute paths.  A program names a
file by the moves that lead to it from a directory: a step into an entry, a step
up, or a dot or an empty component, which stay where they are.  Each component
but the last has to lead to a directory, so that opening a file also depends on
the directories that are passed on the way to it.

An area of the tree is everything below one directory.  Operations whose moves
neither pass nor reach the area leave it as it is, and have the same outcome
whatever it contains.  Links are left out.
-/

namespace FileTree

universe u v

inductive Node (Content : Type v)
  | file (content : Content)
  | directory
  deriving DecidableEq

/-- The names on the way from the root. -/
abbrev Path (Name : Type u) := List Name

inductive Move (Name : Type u)
  | empty
  | dot
  | dotdot
  | name (name : Name)
  deriving DecidableEq

variable {Name : Type u} {Content : Type v}

def Move.apply : Move Name → Path Name → Path Name
  | empty, directory | dot, directory => directory
  | dotdot, directory => directory.dropLast
  | name entry, directory => directory ++ [entry]

def resolve (start : Path Name) (moves : List (Move Name)) : Path Name :=
  moves.foldl (fun directory move => move.apply directory) start

/-- The directories that are looked up on the way. -/
def passed (start : Path Name) : List (Move Name) → List (Path Name)
  | [] => []
  | move :: moves => start :: passed (move.apply start) moves

/-- The last component that is not empty is a name. -/
def endsInName (moves : List (Move Name)) : Bool :=
  match (moves.filter fun move => move matches .dot | .dotdot | .name _).getLast? with
  | some (.name _) => true
  | _ => false

abbrev Tree (Name : Type u) (Content : Type v) := AList fun _ : Path Name => Node Content

section Operations

variable [DecidableEq Name] [DecidableEq Content] (tree : Tree Name Content) (start : Path Name)

/-- Where moves lead to, if every directory on the way is one. -/
def follow (moves : List (Move Name)) : Option (Path Name) :=
  if ∀ directory ∈ passed start moves, tree.lookup directory = some .directory then
    some (resolve start moves)
  else none

theorem follow_dot_cons {moves : List (Move Name)} (nonempty : moves ≠ []) :
    follow tree start (.dot :: moves) = follow tree start moves := by
  cases moves with
  | nil => exact absurd rfl nonempty
  | cons move moves => simp [follow, passed, resolve, Move.apply]

def openNode (moves : List (Move Name)) : Option (Node Content) :=
  (follow tree start moves).bind tree.lookup

/-- Open a file for writing, which makes it if it does not exist, and replace its content. -/
def write (moves : List (Move Name)) (content : Option Content → Content) :
    Bool × Tree Name Content :=
  match follow tree start moves with
  | none => (false, tree)
  | some path =>
      match tree.lookup path with
      | some .directory => (false, tree)
      | some (.file old) => (true, tree.insert path (.file (content (some old))))
      | none => (true, tree.insert path (.file (content none)))

def isEmpty (directory : Path Name) : Bool :=
  tree.keys.all fun path => path = [] || path.dropLast ≠ directory

/-- Remove a file or an empty directory. -/
def remove (moves : List (Move Name)) : Bool × Tree Name Content :=
  match follow tree start moves with
  | none => (false, tree)
  | some path =>
      match tree.lookup path with
      | none => (false, tree)
      | some (.file _) => (true, tree.erase path)
      | some .directory =>
          if endsInName moves && isEmpty tree path then (true, tree.erase path) else (false, tree)

/-- Rename a file; directories are not renamed. -/
def rename (moves newMoves : List (Move Name)) : Bool × Tree Name Content :=
  match follow tree start moves, follow tree start newMoves with
  | some path, some newPath =>
      match tree.lookup path, tree.lookup newPath with
      | some (.file _), some .directory => (false, tree)
      | some (.file content), _ => (true, (tree.erase path).insert newPath (.file content))
      | _, _ => (false, tree)
  | _, _ => (false, tree)

def files (directory : Path Name) (name : Name) : Option Content :=
  match tree.lookup (directory ++ [name]) with
  | some (.file content) => some content
  | _ => none

/-- The files of a directory that moves lead to. -/
def list (moves : List (Move Name)) : Option (Name → Option Content) :=
  match follow tree start moves with
  | none => none
  | some path => if tree.lookup path = some .directory then some (files tree path) else none

section Follow

variable {tree start} {moves newMoves : List (Move Name)} {path newPath : Path Name}

theorem write_of_follow {old : Option Content} (reached : follow tree start moves = some path)
    (found : tree.lookup path = old.map .file) (content : Option Content → Content) :
    write tree start moves content = (true, tree.insert path (.file (content old))) := by
  simp only [write, reached, found]
  cases old <;> rfl

theorem remove_of_follow {content : Content} (reached : follow tree start moves = some path)
    (found : tree.lookup path = some (.file content)) :
    remove tree start moves = (true, tree.erase path) := by
  simp only [remove, reached, found]

theorem remove_of_follow_none (reached : follow tree start moves = some path)
    (absent : tree.lookup path = none) : remove tree start moves = (false, tree) := by
  simp only [remove, reached, absent]

theorem rename_of_follow {old new : Option Content} (reached : follow tree start moves = some path)
    (newReached : follow tree start newMoves = some newPath)
    (found : tree.lookup path = old.map .file) (newFound : tree.lookup newPath = new.map .file) :
    rename tree start moves newMoves = old.elim (false, tree) fun content =>
      (true, (tree.erase path).insert newPath (.file content)) := by
  simp only [rename, reached, newReached, found, newFound]
  cases old with
  | none => rfl
  | some content => cases new <;> rfl

end Follow

omit [DecidableEq Content] in
theorem isEmpty_iff {directory : Path Name} :
    isEmpty tree directory = true ↔ ∀ name, tree.lookup (directory ++ [name]) = none := by
  simp only [isEmpty, List.all_eq_true, AList.lookup_eq_none, AList.mem_keys]
  constructor
  · intro noEntry name present
    have absent := noEntry _ present
    simp at absent
  · intro noEntry path path_mem
    rcases List.eq_nil_or_concat path with rfl | ⟨parent, name, rfl⟩
    · simp
    · by_cases child : parent = directory
      · subst child
        exact absurd (by simpa using path_mem) (noEntry name)
      · simp [child]

end Operations

/-! ### Areas -/

/-- The path leads to something below the directory `area`. -/
def Below (area path : Path Name) : Prop :=
  area <+: path ∧ path ≠ area

/-- The moves neither pass what is below the directory `area` nor end there. -/
structure Avoids (area start : Path Name) (moves : List (Move Name)) : Prop where
  passes : ∀ directory ∈ passed start moves, ¬Below area directory
  ends : ¬area <+: resolve start moves

theorem resolve_append (start : Path Name) (moves more : List (Move Name)) :
    resolve start (moves ++ more) = resolve (resolve start moves) more :=
  List.foldl_append

theorem passed_append (start : Path Name) (moves more : List (Move Name)) :
    passed start (moves ++ more) = passed start moves ++ passed (resolve start moves) more := by
  induction moves generalizing start with
  | nil => rfl
  | cons move moves ih => exact congrArg (start :: ·) (ih (move.apply start))

theorem avoids_concat_empty_iff {area start : Path Name} {moves : List (Move Name)} :
    Avoids area start (moves ++ [.empty]) ↔ Avoids area start moves := by
  have same : resolve start (moves ++ [.empty]) = resolve start moves := resolve_append ..
  constructor
  · rintro ⟨passes, ends⟩
    rw [same] at ends
    refine ⟨?_, ends⟩
    intro directory directory_mem
    apply passes
    rw [passed_append]
    exact List.mem_append_left _ directory_mem
  · rintro ⟨passes, ends⟩
    rw [← same] at ends
    refine ⟨?_, ends⟩
    intro directory directory_mem
    rw [passed_append] at directory_mem
    rcases List.mem_append.mp directory_mem with earlier | last
    · exact passes directory earlier
    · obtain rfl : directory = resolve start moves := by simpa [passed] using last
      rw [← same]
      exact fun below => ends below.1

theorem avoids_dot_cons_iff {area start : Path Name} {moves : List (Move Name)}
    (nonempty : moves ≠ []) : Avoids area start (.dot :: moves) ↔ Avoids area start moves := by
  have present : start ∈ passed start moves := by
    cases moves with
    | nil => exact absurd rfl nonempty
    | cons move moves => exact List.mem_cons_self
  constructor
  · rintro ⟨passes, ends⟩
    refine ⟨?_, ends⟩
    intro directory directory_mem
    exact passes directory (List.mem_cons_of_mem _ directory_mem)
  · rintro ⟨passes, ends⟩
    refine ⟨?_, ends⟩
    intro directory directory_mem
    rcases List.mem_cons.mp directory_mem with rfl | later
    · exact passes directory present
    · exact passes directory later

def SameOutside [DecidableEq Name] (area : Path Name) (first second : Tree Name Content) : Prop :=
  ∀ path, ¬Below area path → first.lookup path = second.lookup path

theorem Below.prefix {area path : Path Name} (below : Below area path) : area <+: path :=
  below.1

theorem not_below_concat {area path : Path Name} (outside : ¬area <+: path) (name : Name) :
    ¬Below area (path ++ [name]) := by
  rintro ⟨isPrefix, different⟩
  rcases List.prefix_concat_iff.mp isPrefix with same | shorter
  · exact different same.symm
  · exact outside shorter

section Confinement

variable [DecidableEq Name] [DecidableEq Content] {area start : Path Name}
  {first second tree : Tree Name Content} {moves newMoves : List (Move Name)}

theorem follow_eq_some {path : Path Name} (reached : follow tree start moves = some path) :
    path = resolve start moves := by
  unfold follow at reached
  split at reached
  · simpa using reached.symm
  · cases reached

theorem SameOutside.follow (same : SameOutside area first second)
    (avoids : Avoids area start moves) : follow first start moves = follow second start moves := by
  have directories : (∀ directory ∈ passed start moves,
      first.lookup directory = some .directory) ↔
      ∀ directory ∈ passed start moves, second.lookup directory = some .directory := by
    apply forall₂_congr
    intro directory directory_mem
    rw [same directory (avoids.passes directory directory_mem)]
  simp only [FileTree.follow, directories]

omit [DecidableEq Name] [DecidableEq Content] in
theorem Avoids.not_below (avoids : Avoids area start moves) : ¬Below area (resolve start moves) :=
  fun below => avoids.ends below.prefix

omit [DecidableEq Content] in
theorem SameOutside.insert (same : SameOutside area first second) (path : Path Name)
    (node : Node Content) :
    SameOutside area (first.insert path node) (second.insert path node) := by
  intro other outside
  by_cases inserted : other = path
  · subst other
    simp
  · rw [AList.lookup_insert_ne inserted, AList.lookup_insert_ne inserted, same other outside]

omit [DecidableEq Content] in
theorem SameOutside.erase (same : SameOutside area first second) (path : Path Name) :
    SameOutside area (first.erase path) (second.erase path) := by
  intro other outside
  by_cases erased : other = path
  · subst other
    simp
  · rw [AList.lookup_erase_ne erased, AList.lookup_erase_ne erased, same other outside]

/-! ### Nothing in the area changes -/

section Frame

variable (avoids : Avoids area start moves) {path : Path Name} (inside : area <+: path)
include avoids inside

omit [DecidableEq Name] in
theorem Avoids.ne_resolve : path ≠ resolve start moves := by
  rintro rfl
  exact avoids.ends inside

theorem lookup_write (content : Option Content → Content) :
    (write tree start moves content).2.lookup path = tree.lookup path := by
  have other := avoids.ne_resolve inside
  unfold write
  cases reached : follow tree start moves with
  | none => rfl
  | some target =>
      rw [← follow_eq_some reached] at other
      simp only
      split
      · rfl
      · exact AList.lookup_insert_ne other
      · exact AList.lookup_insert_ne other

theorem lookup_remove : (remove tree start moves).2.lookup path = tree.lookup path := by
  have other := avoids.ne_resolve inside
  unfold remove
  cases reached : follow tree start moves with
  | none => rfl
  | some target =>
      rw [← follow_eq_some reached] at other
      simp only
      split
      · rfl
      · exact AList.lookup_erase_ne other
      · split
        · exact AList.lookup_erase_ne other
        · rfl

theorem lookup_rename (newAvoids : Avoids area start newMoves) :
    (rename tree start moves newMoves).2.lookup path = tree.lookup path := by
  have other := avoids.ne_resolve inside
  have newOther := newAvoids.ne_resolve inside
  unfold rename
  split
  case h_1 target newTarget reached newReached =>
    rw [← follow_eq_some reached] at other
    rw [← follow_eq_some newReached] at newOther
    split
    · rfl
    · simp only
      rw [AList.lookup_insert_ne newOther, AList.lookup_erase_ne other]
    · rfl
  case h_2 => rfl

end Frame

/-! ### Nothing in the area matters -/

section Hidden

variable (same : SameOutside area first second) (avoids : Avoids area start moves)
include same avoids

omit [DecidableEq Content] in
theorem SameOutside.lookup_resolve :
    first.lookup (resolve start moves) = second.lookup (resolve start moves) :=
  same _ avoids.not_below

theorem SameOutside.openNode : openNode first start moves = openNode second start moves := by
  unfold FileTree.openNode
  rw [same.follow avoids]
  cases reached : FileTree.follow second start moves with
  | none => rfl
  | some target =>
      obtain rfl := follow_eq_some reached
      exact same.lookup_resolve avoids

theorem SameOutside.write (content : Option Content → Content) :
    (write first start moves content).1 = (write second start moves content).1 ∧
      SameOutside area (write first start moves content).2
        (write second start moves content).2 := by
  unfold FileTree.write
  rw [same.follow avoids]
  cases reached : FileTree.follow second start moves with
  | none => exact ⟨rfl, same⟩
  | some target =>
      obtain rfl := follow_eq_some reached
      simp only [same.lookup_resolve avoids]
      split
      · exact ⟨rfl, same⟩
      · exact ⟨rfl, same.insert _ _⟩
      · exact ⟨rfl, same.insert _ _⟩

omit [DecidableEq Content] in
theorem SameOutside.isEmpty :
    isEmpty first (resolve start moves) = isEmpty second (resolve start moves) := by
  rw [Bool.eq_iff_iff, isEmpty_iff, isEmpty_iff]
  apply forall_congr'
  intro name
  rw [same _ (not_below_concat avoids.ends name)]

theorem SameOutside.remove :
    (remove first start moves).1 = (remove second start moves).1 ∧
      SameOutside area (remove first start moves).2 (remove second start moves).2 := by
  unfold FileTree.remove
  rw [same.follow avoids]
  cases reached : FileTree.follow second start moves with
  | none => exact ⟨rfl, same⟩
  | some target =>
      obtain rfl := follow_eq_some reached
      simp only [same.lookup_resolve avoids, same.isEmpty avoids]
      split
      · exact ⟨rfl, same⟩
      · exact ⟨rfl, same.erase _⟩
      · split
        · exact ⟨rfl, same.erase _⟩
        · exact ⟨rfl, same⟩

theorem SameOutside.rename (newAvoids : Avoids area start newMoves) :
    (rename first start moves newMoves).1 = (rename second start moves newMoves).1 ∧
      SameOutside area (rename first start moves newMoves).2
        (rename second start moves newMoves).2 := by
  unfold FileTree.rename
  rw [same.follow avoids, same.follow newAvoids]
  split
  case h_1 target newTarget reached newReached =>
    obtain rfl := follow_eq_some reached
    obtain rfl := follow_eq_some newReached
    rw [same.lookup_resolve avoids, same.lookup_resolve newAvoids]
    split
    · exact ⟨rfl, same⟩
    · exact ⟨rfl, (same.erase _).insert _ _⟩
    · exact ⟨rfl, same⟩
  case h_2 => exact ⟨rfl, same⟩

theorem SameOutside.list : list first start moves = list second start moves := by
  unfold FileTree.list
  rw [same.follow avoids]
  cases reached : FileTree.follow second start moves with
  | none => rfl
  | some target =>
      obtain rfl := follow_eq_some reached
      have sameFiles : files first (resolve start moves) = files second (resolve start moves) := by
        funext name
        simp only [files, same _ (not_below_concat avoids.ends name)]
      simp only [same.lookup_resolve avoids, sameFiles]

end Hidden

end Confinement

end FileTree
