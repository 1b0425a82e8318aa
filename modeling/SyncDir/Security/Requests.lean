import SyncDir.Server.Threads
import SyncDir.Utils.FileSystem

/-!
# The files that a device asks for

The threads of a device form every path from the directory of its user and a
name that has come from outside, in a packet or in a push.  These are the names
that a round asks for, and the paths that it opens are those of the names.
-/

namespace SyncDir

open NetworkManager PacketType FileTree Thread Routine

/-- All paths that are given to the system call have the property. -/
def OnPaths (property : Bytes → Prop) (systemCall : SystemCall) : Prop :=
  ∀ path ∈ systemCall.paths, property path

/-- The file names in a command; a list is made of the directory itself. -/
def commandNames (_ : Unit) (pkt : Packet) : List Bytes :=
  match pkt.c_str with
  | .error _ => []
  | .ok payload_stream =>
      if pkt.type = t_DOWNLOAD.value then [extractWord payload_stream]
      else if pkt.type = t_LIST.value then [[]]
      else []

def watchedNames : WatcherMode → Packet → List Bytes
  | .awaiting, pkt =>
      match pkt.c_str with
      | .error _ => []
      | .ok file_name =>
          if pkt.type = t_WRITE.value then [file_name, copyName file_name]
          else if pkt.type = t_DELETE.value then [file_name]
          else []
  | .buildFile announced, pkt_received =>
      if pkt_received.content = ascii "END_OF_FILE" then
        [announced.file_name, copyName announced.file_name]
      else [copyName announced.file_name]

def pushNames (_ : Unit) (push : PushCommand) : List Bytes :=
  if push.push_type = t_WRITE.value then [extractWord push.push_command] else []

/-- The threads of the devices of a user, with what they are sent. -/
inductive DeviceThread
  | command (device : ℕ) (tail : Tail) (packets : List Packet)
  | fileWatcher (backup_peers : ℕ) (tail : Tail) (packets : List Packet)
  | push (device : ℕ) (pushes : List PushCommand)

namespace DeviceThread

def program (username : Bytes) : DeviceThread → Program
  | command device tail packets => commandThread (directoryOf username) device tail packets
  | fileWatcher backup_peers tail packets => fileWatcherThread username backup_peers tail packets
  | push device pushes => pushThread (directoryOf username) device pushes

/-- A property of all file names that the thread comes to. -/
def EveryName (property : Bytes → Prop) : DeviceThread → Prop
  | command _ _ packets =>
      commands.Along (fun mode pkt => ∀ name ∈ commandNames mode pkt, property name) () packets
  | fileWatcher _ _ packets =>
      watched.Along (fun mode pkt => ∀ name ∈ watchedNames mode pkt, property name) .awaiting
        packets
  | push _ pushes =>
      pushed.Along (fun mode push => ∀ name ∈ pushNames mode push, property name) () pushes

end DeviceThread

/-! ### The paths of a round -/

section Paths

variable {property : Bytes → Prop} {base_directory : Bytes}

theorem performs_handleCommand_iff (device : ℕ) (pkt : Packet)
    (listed : property base_directory ↔ property (pathOf base_directory [])) :
    Performs (OnPaths property) (handleCommand base_directory device () pkt) ↔
      ∀ name ∈ commandNames () pkt, property (pathOf base_directory name) := by
  have different : t_UPLOAD.value ≠ t_DOWNLOAD.value ∧ t_UPLOAD.value ≠ t_LIST.value ∧
      t_DELETE.value ≠ t_LIST.value := by decide
  rcases different with ⟨notDownload, uploadNotList, deleteNotList⟩
  cases named : pkt.c_str with
  | error exception =>
      simp only [handleCommand, commandNames, named]
      exact iff_of_true trivial (by simp)
  | ok payload_stream =>
      simp only [handleCommand, commandNames, named]
      change Performs (OnPaths property) (ite _ _ _) ↔ _
      split_ifs with upload download list download delete list list
      · exact absurd (upload.symm.trans download) notDownload
      · exact absurd (upload.symm.trans list) uploadNotList
      · simp
      · rw [performs_isFileExists_bind_iff, if_pos rfl, if_neg (by decide),
          (returns_transmit _ _).performs_iff]
        simp [OnPaths, SystemCall.paths]
      · exact absurd (delete.symm.trans list) deleteNotList
      · simp
      · simp [(returns_transmit _ _).performs_iff, performs_bind_iff, OnPaths, SystemCall.paths,
          listed]
      · simp

theorem performs_pushToBackups_iff (type : UInt16) (content : Bytes) (backup_peers : ℕ) :
    Performs (OnPaths property) (pushToBackups base_directory type content backup_peers) ↔
      (type = t_WRITE.value → backup_peers ≠ 0 → property (pathOf base_directory content)) := by
  induction backup_peers with
  | zero => simp [pushToBackups]
  | succ backup_peers ih =>
      rw [pushToBackups, (returns_pushToBackups _ _ _ _).performs_iff,
        (returns_transmit _ _).performs_iff, ih]
      by_cases write : type = t_WRITE.value
      · simp [write, OnPaths, SystemCall.paths]
        intro named _
        exact named
      · simp [write, OnPaths, SystemCall.paths]

/-- What is pushed is a file that the thread has opened before. -/
theorem performs_handle_new_push (announced : Announced) (backup_peers : ℕ)
    (named : property (pathOf base_directory announced.file_name)) :
    Performs (OnPaths property) (handle_new_push base_directory announced.pkt backup_peers) := by
  rw [handle_new_push, announced.named]
  change Performs _ (Routine.call _ >>= fun _ => _)
  rw [performs_bind_iff]
  constructor
  · simp [OnPaths, SystemCall.paths]
  · intro _ _
    rw [performs_pushToBackups_iff]
    intro _ _
    exact named

section FileWatcher

variable {username : Bytes} {backup_peers : ℕ}

theorem performs_beginWrite_iff (file_name : Bytes) :
    Performs (OnPaths property) (beginWrite username file_name) ↔
      property (pathOf (directoryOf username) file_name) ∧
        property (pathOf (directoryOf username) (copyName file_name)) := by
  rw [beginWrite, performs_isFileExists_bind_iff, if_pos rfl, if_neg (by decide),
    (returns_createFile _ _).performs_iff]
  simp [OnPaths, SystemCall.paths]

theorem performs_finishWrite_iff (announced : Announced)
    (dotted : ∀ name, property (dotPathOf username name) ↔
      property (pathOf (directoryOf username) name)) :
    Performs (OnPaths property) (finishWrite username backup_peers announced) ↔
      property (pathOf (directoryOf username) announced.file_name) ∧
        property (pathOf (directoryOf username) (copyName announced.file_name)) := by
  rw [finishWrite, performs_checkFileHashchanged_bind_iff, if_pos rfl, if_neg (by decide),
    (returns_deleteFile _ _).performs_iff, (returns_renameFile _ _).performs_iff]
  simp only [performs_deleteFile_iff, performs_renameFile_iff, OnPaths, SystemCall.paths,
    List.mem_cons, List.not_mem_nil, or_false, forall_eq, forall_eq_or_imp, dotted]
  constructor
  · rintro ⟨paths, -⟩
    exact paths
  · rintro ⟨original, copy⟩
    exact ⟨⟨original, copy⟩, ⟨copy, copy⟩, ⟨original, original⟩, ⟨copy, original⟩,
      performs_handle_new_push announced backup_peers original⟩

theorem performs_handleDelete_iff (announced : Announced) :
    Performs (OnPaths property) (handleDelete username backup_peers announced) ↔
      property (pathOf (directoryOf username) announced.file_name) := by
  rw [handleDelete, performs_isFileExists_bind_iff, if_neg (by decide), if_pos rfl,
    (returns_deleteFile _ _).performs_iff]
  simp only [performs_deleteFile_iff, performs_pure, true_and, OnPaths, SystemCall.paths,
    List.mem_cons, List.not_mem_nil, or_false, forall_eq]
  constructor
  · rintro ⟨named, -⟩
    exact named
  · intro named
    exact ⟨named, ⟨named, named⟩, performs_handle_new_push announced backup_peers named⟩

theorem performs_handleWatched_iff (mode : WatcherMode) (pkt : Packet)
    (dotted : ∀ name, property (dotPathOf username name) ↔
      property (pathOf (directoryOf username) name)) :
    Performs (OnPaths property) (handleWatched username backup_peers mode pkt) ↔
      ∀ name ∈ watchedNames mode pkt, property (pathOf (directoryOf username) name) := by
  cases mode with
  | awaiting =>
      cases named : pkt.c_str with
      | error exception =>
          simp only [handleWatched, watchedNames, announcedBy_of_error named, named]
          exact iff_of_true trivial (by simp)
      | ok file_name =>
          simp only [handleWatched, watchedNames, announcedBy_of_ok named, named]
          change Performs (OnPaths property) (ite _ _ _) ↔ _
          split_ifs
          · simp [(returns_beginWrite _ _).performs_iff, performs_beginWrite_iff]
          · simp [(returns_handleDelete _ _ _).performs_iff, performs_handleDelete_iff]
          · simp
  | buildFile announced =>
      simp only [handleWatched, watchedNames]
      split_ifs
      · simp [(returns_finishWrite _ _ _).performs_iff, performs_finishWrite_iff announced dotted]
      · simp [(returns_writeFile _ _ _).performs_iff, OnPaths, SystemCall.paths]

end FileWatcher

theorem performs_handlePush_iff (device : ℕ) (push : PushCommand) :
    Performs (OnPaths property) (handlePush base_directory device () push) ↔
      ∀ name ∈ pushNames () push, property (pathOf base_directory name) := by
  rw [handlePush, pushNames]
  split_ifs
  · simp [(returns_transmit _ _).performs_iff, OnPaths, SystemCall.paths]
  · simp [OnPaths, SystemCall.paths]
  · simp

end Paths

/-- A property of paths to which it does not matter whether they end in a slash or begin with a
dot. -/
structure Positional (property : Bytes → Prop) (username : Bytes) : Prop where
  listed : property (directoryOf username) ↔ property (pathOf (directoryOf username) [])
  dotted : ∀ name, property (dotPathOf username name) ↔
    property (pathOf (directoryOf username) name)

/-- The paths that a thread opens are those of the names that it comes to. -/
theorem DeviceThread.performs_program_iff {property : Bytes → Prop} {username : Bytes}
    (positional : Positional property username) (thread : DeviceThread) :
    (thread.program username).Performs (OnPaths property) ↔
      thread.EveryName fun name => property (pathOf (directoryOf username) name) := by
  cases thread with
  | command device tail packets =>
      refine (performs_loop_iff (describes_handleCommand _ _)).trans ?_
      apply Expectation.along_congr
      intro mode pkt
      exact performs_handleCommand_iff device pkt positional.listed
  | fileWatcher backup_peers tail packets =>
      refine (performs_loop_iff (describes_handleWatched _ _)).trans ?_
      apply Expectation.along_congr
      intro mode pkt
      exact performs_handleWatched_iff mode pkt positional.dotted
  | push device pushes =>
      refine (performs_loop_iff (describes_handlePush _ _)).trans ?_
      apply Expectation.along_congr
      intro mode push
      exact performs_handlePush_iff device push

end SyncDir
