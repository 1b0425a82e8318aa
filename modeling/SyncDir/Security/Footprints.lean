import SyncDir.Library.Footprint
import SyncDir.Security.Requests
import SyncDir.Server.ThreadsOnHost

/-!
# The files that a call touches

A call that is given the paths of regular files does something to the disk that
its host holds, whatever else is on the host.  The names of these files are the
footprint of the call.
-/

namespace SyncDir

open FileTree Routine Thread

variable {cwd : Path Bytes} {getFiles : Directory → Bytes} {base_directory : Bytes}
  {systemCall : SystemCall}

/-! ### What a call does to the disk -/

section Reaching

variable {path new_path : Bytes} {file_name new_name : FileName}

variable (cwd base_directory) in
/-- The path leads to the file of the base directory that has the name. -/
def Reaches (path : Bytes) (file_name : FileName) : Prop :=
  ∀ host disk, Holds cwd base_directory host disk →
    follow host.files cwd (movesOf path) =
      some (resolve cwd (movesOf base_directory) ++ [file_name.bytes])

variable (cwd getFiles base_directory) in
/-- What the call does to a host is an operation on the disk that the host holds. -/
def ActsAs (systemCall : SystemCall) (operation : Directory → systemCall.Answer × Directory) :
    Prop :=
  ∀ host disk, Holds cwd base_directory host disk →
    (performCall cwd getFiles host systemCall).1 = (operation disk).1 ∧
      Holds cwd base_directory (performCall cwd getFiles host systemCall).2 (operation disk).2

variable (getFiles) (reaches : Reaches cwd base_directory path file_name)
include reaches

theorem Reaches.actsAs_openFile : ActsAs cwd getFiles base_directory (.openFile path)
    fun disk => ((disk file_name.bytes).map .file, disk) := by
  intro host disk holds
  refine ⟨?_, holds⟩
  rw [performCall, openNode, reaches host disk holds]
  exact holds.lookup_eq file_name

theorem Reaches.actsAs_create : ActsAs cwd getFiles base_directory (.create path)
    fun disk => (true, Function.update disk file_name.bytes (some [])) := by
  intro host disk holds
  have created := write_of_follow (reaches host disk holds) (holds.lookup_eq file_name)
    fun _ => []
  rw [performCall_create created]
  exact ⟨rfl, holds.insert file_name []⟩

theorem Reaches.actsAs_append (data : Bytes) :
    ActsAs cwd getFiles base_directory (.append path data) fun disk =>
      (true, Function.update disk file_name.bytes
        (some ((disk file_name.bytes).getD [] ++ data))) := by
  intro host disk holds
  have written := write_of_follow (reaches host disk holds) (holds.lookup_eq file_name)
    fun old => old.getD [] ++ data
  rw [performCall_append written]
  exact ⟨rfl, holds.insert file_name _⟩

theorem Reaches.actsAs_remove : ActsAs cwd getFiles base_directory (.remove path)
    fun disk => ((disk file_name.bytes).isSome, Function.update disk file_name.bytes none) := by
  intro host disk holds
  have found := holds.lookup_eq file_name
  change _ = (disk file_name.bytes).isSome ∧
    Holds _ _ _ (Function.update disk file_name.bytes none)
  cases stored : disk file_name.bytes with
  | none =>
      rw [stored] at found
      rw [performCall_remove (remove_of_follow_none (reaches host disk holds) found),
        Function.update_eq_self_iff.mpr stored.symm]
      exact ⟨rfl, holds⟩
  | some content =>
      rw [stored] at found
      rw [performCall_remove (remove_of_follow (reaches host disk holds) found)]
      exact ⟨rfl, holds.erase file_name⟩

/-- The path of a file is not that of a directory. -/
theorem Reaches.actsAs_list : ActsAs cwd getFiles base_directory (.list path)
    fun disk => (none, disk) := by
  intro host disk holds
  refine ⟨?_, holds⟩
  rw [performCall, list, reaches host disk holds]
  simp only [holds.lookup_eq]
  cases disk file_name.bytes <;> rfl

/-- What `rename` does to the files if `content` is that of the file which is renamed. -/
def moved (file_name new_name : FileName) (content : Option Bytes) (disk : Directory) :
    Bool × Directory :=
  match content with
  | none => (false, disk)
  | some content =>
      (true, Function.update (Function.update disk file_name.bytes none) new_name.bytes
        (some content))

theorem Reaches.actsAs_rename (newReaches : Reaches cwd base_directory new_path new_name) :
    ActsAs cwd getFiles base_directory (.rename path new_path) fun disk =>
      moved file_name new_name (disk file_name.bytes) disk := by
  intro host disk holds
  have renamed := rename_of_follow (reaches host disk holds) (newReaches host disk holds)
    (holds.lookup_eq file_name) (holds.lookup_eq new_name)
  rw [performCall_rename renamed]
  change _ = (moved _ _ (disk file_name.bytes) disk).1 ∧
    Holds _ _ _ (moved _ _ (disk file_name.bytes) disk).2
  cases disk file_name.bytes with
  | none => exact ⟨rfl, holds⟩
  | some content => exact ⟨rfl, (holds.erase file_name).insert new_name content⟩

end Reaching

/-! ### Footprints -/

section Footprints

variable {names : Set Bytes}

theorem footprint_moved {file_name new_name : FileName} (name_mem : file_name.bytes ∈ names)
    (new_name_mem : new_name.bytes ∈ names) (content : Option Bytes) :
    Footprint names (moved file_name new_name content) := by
  cases content with
  | none => exact .constant false
  | some content =>
      have removes : Footprint names fun disk : Directory =>
          ((), Function.update disk file_name.bytes none) :=
        .update name_mem (fun _ => ()) fun _ => none
      exact removes.andThen fun _ => .update new_name_mem (fun _ => true) fun _ => some content

variable (cwd base_directory names) in
/-- The path leads to a file of the base directory that has one of the names. -/
def LeadsTo (path : Bytes) : Prop :=
  ∃ file_name : FileName, file_name.bytes ∈ names ∧ Reaches cwd base_directory path file_name

theorem leadsTo_pathOf {name : Bytes} (proper : IsFileName name) (name_mem : name ∈ names) :
    LeadsTo cwd base_directory names (pathOf base_directory name) :=
  ⟨⟨name, proper⟩, name_mem, fun _ _ holds => holds.follow_pathOf ⟨name, proper⟩⟩

theorem leadsTo_congr {path other : Bytes}
    (same : ∀ host disk, Holds cwd base_directory host disk →
      follow host.files cwd (movesOf path) = follow host.files cwd (movesOf other)) :
    LeadsTo cwd base_directory names path ↔ LeadsTo cwd base_directory names other := by
  apply exists_congr
  intro file_name
  apply and_congr_right'
  apply forall₂_congr
  intro host disk
  apply forall_congr'
  intro holds
  rw [same host disk holds]

theorem positional_leadsTo (username : Bytes) :
    Positional (LeadsTo cwd (directoryOf username) names) username where
  listed := by
    apply leadsTo_congr
    intro host disk holds
    have slash : movesOf (pathOf (directoryOf username) []) =
        movesOf (directoryOf username) ++ [.empty] := movesOf_append _ _
    have passes : ∀ directory ∈ passed cwd (movesOf (directoryOf username) ++ [.empty]),
        host.files.lookup directory = some .directory := by
      intro directory directory_mem
      rw [passed_append] at directory_mem
      rcases List.mem_append.mp directory_mem with earlier | last
      · exact holds.passes directory earlier
      · obtain rfl : directory = resolve cwd (movesOf (directoryOf username)) := by
          simpa [passed] using last
        exact holds.directory
    rw [slash, follow, follow, if_pos holds.passes, if_pos passes, resolve_append]
    rfl
  dotted name := by
    apply leadsTo_congr
    intro host disk _
    have dot : movesOf (dotPathOf username name) =
        .dot :: movesOf (pathOf (directoryOf username) name) := movesOf_append (ascii ".") _
    rw [dot, follow_dot_cons]
    simp [movesOf, List.splitOn_ne_nil]

/-- The names that a call is given are the footprint of what it does to the files. -/
theorem exists_footprint (getFiles : Directory → Bytes) (silent : systemCall.Silent)
    (leads : OnPaths (LeadsTo cwd base_directory names) systemCall) :
    ∃ operation, ActsAs cwd getFiles base_directory systemCall operation ∧
      Footprint names operation := by
  cases systemCall with
  | transmit channel action => exact silent.elim
  | sendPushTo type command =>
      exact ⟨fun disk => ((), disk), fun host disk holds => ⟨rfl, holds⟩, .constant ()⟩
  | openFile path =>
      rcases leads path List.mem_cons_self with ⟨file_name, name_mem, reaches⟩
      exact ⟨_, reaches.actsAs_openFile getFiles, .read name_mem (Option.map Node.file)⟩
  | create path =>
      rcases leads path List.mem_cons_self with ⟨file_name, name_mem, reaches⟩
      exact ⟨_, reaches.actsAs_create getFiles,
        .update name_mem (fun _ => true) fun _ => some []⟩
  | append path data =>
      rcases leads path List.mem_cons_self with ⟨file_name, name_mem, reaches⟩
      exact ⟨_, reaches.actsAs_append getFiles data,
        .update name_mem (fun _ => true) fun old => some (old.getD [] ++ data)⟩
  | remove path =>
      rcases leads path List.mem_cons_self with ⟨file_name, name_mem, reaches⟩
      exact ⟨_, reaches.actsAs_remove getFiles, .update name_mem Option.isSome fun _ => none⟩
  | rename path new_path =>
      rcases leads path List.mem_cons_self with ⟨file_name, name_mem, reaches⟩
      rcases leads new_path (List.mem_cons_of_mem _ List.mem_cons_self) with
        ⟨new_name, new_name_mem, newReaches⟩
      have reads : Footprint names fun disk : Directory => (disk file_name.bytes, disk) :=
        .read name_mem id
      exact ⟨_, reaches.actsAs_rename getFiles newReaches,
        reads.andThen (footprint_moved name_mem new_name_mem)⟩
  | list path =>
      rcases leads path List.mem_cons_self with ⟨file_name, -, reaches⟩
      exact ⟨_, reaches.actsAs_list getFiles, .constant none⟩

end Footprints

end SyncDir
