import SyncDir.Utils.FileManager
import SyncDir.Utils.FileSystem

/-!
# Regular files

On the names that a directory entry can have, the file manager does not leave
its base directory: each of its routines does to the files of the host what
`SyncDir.Utils.FileManager` says about the files of a directory.
-/

namespace SyncDir

open FileTree Routine

theorem movesOf_fileName (file_name : FileName) :
    movesOf file_name.bytes = [.name file_name.bytes] := by
  rcases file_name.valid with ⟨nonempty, -, noSlash, -, notDot, notDotdot⟩
  rw [movesOf, List.splitOn_eq_singleton noSlash]
  simp [moveOf, nonempty, notDot, notDotdot]

variable (cwd : Path Bytes) (getFiles : Directory → Bytes)

def Routine.runOn {Result : Type} (host : Host) (routine : Routine Result) :
    Except Exception Result × Host :=
  Resumption.run (performCall cwd getFiles) host routine.run

/-- The base directory exists on the host, and its regular files are those of the disk. -/
structure Holds (base_directory : Bytes) (host : Host) (disk : Directory) : Prop where
  passes : ∀ directory ∈ passed cwd (movesOf base_directory),
    host.files.lookup directory = some .directory
  directory : host.files.lookup (resolve cwd (movesOf base_directory)) = some .directory
  lookup_eq : ∀ file_name : FileName,
    host.files.lookup (resolve cwd (movesOf base_directory) ++ [file_name.bytes]) =
      (disk file_name.bytes).map .file

/-- The routine does to the host what the operation does to the disk. -/
def Implements (base_directory : Bytes) (routine : Routine Unit)
    (operation : Directory → Except Exception Directory) : Prop :=
  ∀ host disk, Holds cwd base_directory host disk →
    match operation disk with
    | .ok changed => ∃ after, routine.runOn cwd getFiles host = (.ok (), after) ∧
        Holds cwd base_directory after changed
    | .error exception => routine.runOn cwd getFiles host = (.error exception, host)

section Runs

variable {cwd getFiles} {base_directory : Bytes} {host : Host} {disk : Directory}

theorem Implements.runs {routine : Routine Unit}
    {operation : Directory → Except Exception Directory} {changed : Directory}
    (does : Implements cwd getFiles base_directory routine operation)
    (holds : Holds cwd base_directory host disk) (succeeds : operation disk = .ok changed) :
    ∃ after, routine.runOn cwd getFiles host = (.ok (), after) ∧
      Holds cwd base_directory after changed := by
  have done := does host disk holds
  rwa [succeeds] at done

theorem runOn_bind {Result Next : Type} (routine : Routine Result) (next : Result → Routine Next) :
    (routine >>= next).runOn cwd getFiles host =
      match routine.runOn cwd getFiles host with
      | (.ok value, after) => (next value).runOn cwd getFiles after
      | (.error exception, after) => (.error exception, after) := by
  refine (Resumption.run_bind _ host routine.run _).trans ?_
  change _ = match Resumption.run (performCall cwd getFiles) host routine.run with
    | (.ok value, after) => _
    | (.error exception, after) => _
  rcases Resumption.run (performCall cwd getFiles) host routine.run with ⟨exception | value, after⟩
  · rfl
  · rfl

theorem runOn_call (systemCall : SystemCall) :
    (call systemCall).runOn cwd getFiles host =
      (.ok (performCall cwd getFiles host systemCall).1,
        (performCall cwd getFiles host systemCall).2) :=
  rfl

theorem runOn_callOrThrow {systemCall : SystemCall} {answer : systemCall.Answer} {after : Host}
    (performed : performCall cwd getFiles host systemCall = (answer, after))
    (succeeded : systemCall.Answer → Bool) (what : String) :
    (callOrThrow systemCall succeeded what).runOn cwd getFiles host =
      (if succeeded answer then .ok () else .error (.runtime_error what), after) := by
  unfold callOrThrow
  rw [runOn_bind, runOn_call, performed]
  simp only
  split_ifs <;> rfl

namespace Holds

variable (holds : Holds cwd base_directory host disk) (file_name : FileName)
include holds

theorem of_files {after : Host} (same : after.files = host.files) :
    Holds cwd base_directory after disk := by
  constructor
  · rw [same]
    exact holds.passes
  · rw [same]
    exact holds.directory
  · rw [same]
    exact holds.lookup_eq

theorem follow_pathOf :
    follow host.files cwd (movesOf (pathOf base_directory file_name.bytes)) =
      some (resolve cwd (movesOf base_directory) ++ [file_name.bytes]) := by
  rw [pathOf, movesOf_append, movesOf_fileName, follow, if_pos, resolve_append]
  · rfl
  · intro directory directory_mem
    rw [passed_append] at directory_mem
    rcases List.mem_append.mp directory_mem with earlier | last
    · exact holds.passes directory earlier
    · obtain rfl : directory = resolve cwd (movesOf base_directory) := by
        simpa [passed] using last
      exact holds.directory

theorem openNode_pathOf :
    openNode host.files cwd (movesOf (pathOf base_directory file_name.bytes)) =
      (disk file_name.bytes).map .file := by
  rw [openNode, holds.follow_pathOf, Option.bind_some, holds.lookup_eq]

theorem follow_dot :
    follow host.files cwd (movesOf (ascii "./" ++ pathOf base_directory file_name.bytes)) =
      some (resolve cwd (movesOf base_directory) ++ [file_name.bytes]) := by
  have dot : movesOf (ascii "./" ++ pathOf base_directory file_name.bytes) =
      .dot :: movesOf (pathOf base_directory file_name.bytes) := movesOf_append (ascii ".") _
  rw [dot, follow_dot_cons, holds.follow_pathOf]
  simp [movesOf, List.splitOn_ne_nil]

theorem openNode_dot :
    openNode host.files cwd (movesOf (ascii "./" ++ pathOf base_directory file_name.bytes)) =
      (disk file_name.bytes).map .file := by
  rw [openNode, holds.follow_dot, Option.bind_some, holds.lookup_eq]

theorem update {after : Host} {content : Option Bytes}
    (changed : after.files.lookup (resolve cwd (movesOf base_directory) ++ [file_name.bytes]) =
      content.map .file)
    (others : ∀ path, path ≠ resolve cwd (movesOf base_directory) ++ [file_name.bytes] →
      after.files.lookup path = host.files.lookup path) :
    Holds cwd base_directory after (Function.update disk file_name.bytes content) := by
  have notFile (path : Path Bytes) (isDirectory : host.files.lookup path = some .directory) :
      path ≠ resolve cwd (movesOf base_directory) ++ [file_name.bytes] := by
    rintro rfl
    rw [holds.lookup_eq] at isDirectory
    cases found : disk file_name.bytes <;> simp [found] at isDirectory
  constructor
  · intro directory directory_mem
    have isDirectory := holds.passes directory directory_mem
    rw [others directory (notFile directory isDirectory), isDirectory]
  · rw [others _ (notFile _ holds.directory), holds.directory]
  · intro other
    by_cases same : other = file_name
    · subst other
      rw [changed, Function.update_self]
    · have different : other.bytes ≠ file_name.bytes := fun bytes => same (FileName.ext bytes)
      rw [others _ (by simpa using different), Function.update_of_ne different, holds.lookup_eq]

theorem runOn_isFileExists :
    (isFileExists base_directory file_name.bytes).runOn cwd getFiles host =
      (.ok (FileManager.isFileExists disk file_name.bytes), host) := by
  rw [isFileExists, runOn_bind, runOn_call]
  change (Except.ok (openNode host.files cwd _).isSome, host) = _
  rw [holds.openNode_pathOf, Option.isSome_map,
    FileManager.isFileExists_of_proper file_name.proper]

theorem runOn_readFile :
    (readFile base_directory file_name.bytes).runOn cwd getFiles host =
      (FileManager.readFile disk file_name.bytes, host) := by
  rw [readFile, runOn_bind, runOn_call]
  change (contentOf (openNode host.files cwd _), host) = _
  rw [holds.openNode_pathOf, FileManager.readFile, file_name.proper]
  cases disk file_name.bytes <;> rfl

theorem runOn_hash_file_fnv1a :
    (hash_file_fnv1a (ascii "./" ++ pathOf base_directory file_name.bytes)).runOn cwd getFiles
      host = (FileManager.hash_file_fnv1a disk file_name.bytes, host) := by
  rw [hash_file_fnv1a, runOn_bind, runOn_call]
  change (hashOf (openNode host.files cwd _), host) = _
  rw [holds.openNode_dot, FileManager.hash_file_fnv1a,
    FileManager.streamed_of_proper file_name.proper]
  cases disk file_name.bytes <;> rfl

theorem runOn_checkFileHashchanged (copy : FileName) :
    (checkFileHashchanged (ascii "./" ++ pathOf base_directory file_name.bytes)
      (ascii "./" ++ pathOf base_directory copy.bytes)).runOn cwd getFiles host =
      (FileManager.checkFileHashchanged disk file_name.bytes copy.bytes, host) := by
  rw [checkFileHashchanged, runOn_bind, holds.runOn_hash_file_fnv1a,
    FileManager.checkFileHashchanged]
  cases FileManager.hash_file_fnv1a disk file_name.bytes with
  | error exception => rfl
  | ok original =>
      simp only
      rw [runOn_bind, holds.runOn_hash_file_fnv1a]
      cases FileManager.hash_file_fnv1a disk copy.bytes <;> rfl

theorem insert (content : Bytes) :
    Holds cwd base_directory
      { host with files := (host.files.insert
          (resolve cwd (movesOf base_directory) ++ [file_name.bytes]) (.file content)) }
      (Function.update disk file_name.bytes (some content)) := by
  apply holds.update file_name
  · exact AList.lookup_insert _
  · intro path different
    exact AList.lookup_insert_ne different

theorem erase :
    Holds cwd base_directory
      { host with files := (host.files.erase
          (resolve cwd (movesOf base_directory) ++ [file_name.bytes])) }
      (Function.update disk file_name.bytes none) := by
  apply holds.update file_name
  · exact AList.lookup_erase _ _
  · intro path different
    exact AList.lookup_erase_ne different

end Holds

variable (cwd getFiles base_directory) (file_name : FileName)

theorem implements_createFile :
    Implements cwd getFiles base_directory (createFile base_directory file_name.bytes)
      (FileManager.createFile · file_name.bytes) := by
  intro host disk holds
  have created := write_of_follow (holds.follow_pathOf file_name) (holds.lookup_eq file_name)
    fun _ => []
  simp only [FileManager.createFile_of_proper file_name.proper]
  exact ⟨_, runOn_callOrThrow (performCall_create created) _ _, holds.insert file_name []⟩

theorem implements_writeFile (data : Bytes) :
    Implements cwd getFiles base_directory (writeFile base_directory file_name.bytes data)
      (FileManager.writeFile · file_name.bytes data) := by
  intro host disk holds
  have written := write_of_follow (holds.follow_pathOf file_name) (holds.lookup_eq file_name)
    fun old => old.getD [] ++ data
  simp only [FileManager.writeFile_of_proper file_name.proper]
  exact ⟨_, runOn_callOrThrow (performCall_append written) _ _, holds.insert file_name _⟩

theorem implements_deleteFile :
    Implements cwd getFiles base_directory (deleteFile base_directory file_name.bytes)
      (FileManager.deleteFile · file_name.bytes) := by
  intro host disk holds
  simp only [FileManager.deleteFile_of_proper file_name.proper]
  rw [deleteFile, runOn_bind, holds.runOn_isFileExists,
    FileManager.isFileExists_of_proper file_name.proper]
  have found := holds.lookup_eq file_name
  cases stored : disk file_name.bytes with
  | none =>
      have unchanged : Function.update disk file_name.bytes none = disk :=
        Function.update_eq_self_iff.mpr stored.symm
      rw [unchanged]
      exact ⟨host, rfl, holds⟩
  | some content =>
      rw [stored] at found
      have removed := remove_of_follow (holds.follow_pathOf file_name) found
      exact ⟨_, runOn_callOrThrow (performCall_remove removed) _ _, holds.erase file_name⟩

/-- `renameFile` is called with the paths of two files. -/
theorem implements_renameFile (new_name : FileName) :
    Implements cwd getFiles base_directory
      (renameFile (ascii "./" ++ pathOf base_directory file_name.bytes)
        (ascii "./" ++ pathOf base_directory new_name.bytes))
      (FileManager.renameFile · file_name.bytes new_name.bytes) := by
  intro host disk holds
  have renamed := rename_of_follow (holds.follow_dot file_name) (holds.follow_dot new_name)
    (holds.lookup_eq file_name) (holds.lookup_eq new_name)
  cases stored : disk file_name.bytes with
  | none =>
      rw [stored] at renamed
      simp only [FileManager.renameFile, stored]
      exact runOn_callOrThrow (performCall_rename renamed) _ _
  | some content =>
      rw [stored] at renamed
      simp only [FileManager.renameFile_of_some new_name.proper disk stored]
      exact ⟨_, runOn_callOrThrow (performCall_rename renamed) _ _,
        (holds.erase file_name).insert new_name content⟩

end Runs

end SyncDir
