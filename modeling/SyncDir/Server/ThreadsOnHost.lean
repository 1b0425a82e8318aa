import SyncDir.Server.ClientManager
import SyncDir.Server.Threads
import SyncDir.Server.UploadCells
import SyncDir.Utils.RegularFiles

/-!
# The threads on a host

On a host whose base directory holds the files of a disk, and for the names of
regular files, the threads do what `SyncDir.Server.Device` says about the disk
and the connections: the command and the push thread send the same, and the file
watcher thread leaves the same files.
-/

namespace SyncDir

open FileTree Routine PacketType

variable {cwd : Path Bytes} {getFiles : Directory → Bytes} {base_directory : Bytes} {host : Host}
  {disk : Directory}

/-! ### Routines that do not send -/

section Silent

variable {Result : Type} {routine : Routine Result}

def SystemCall.Silent : SystemCall → Prop
  | transmit _ _ => False
  | _ => True

theorem connections_performCall {systemCall : SystemCall} (silent : systemCall.Silent) :
    (performCall cwd getFiles host systemCall).2.connections = host.connections := by
  cases systemCall with
  | transmit channel action => exact silent.elim
  | openFile | create | append | remove | rename | list | sendPushTo => rfl

theorem connections_of_silent (silent : Performs SystemCall.Silent routine)
    {result : Except Exception Result} {after : Host}
    (ran : routine.runOn cwd getFiles host = (result, after)) :
    after.connections = host.connections := by
  have preserved (state : Host) (systemCall : SystemCall) (silent : systemCall.Silent)
      (same : state.connections = host.connections) :
      (performCall cwd getFiles state systemCall).2.connections = host.connections :=
    (connections_performCall silent).trans same
  have kept := Resumption.run_invariant preserved silent rfl
  rwa [← Routine.runOn, ran] at kept

end Silent

/-! ### Sending -/

section Sending

variable {channel : Channel}

theorem runOn_transmit (action : Send Unit) :
    (transmit channel action).runOn cwd getFiles host =
      ((action.on (host.connections channel)).1.mapError fun exception =>
          .runtime_error exception.what,
        { host with connections := (Function.update host.connections channel
            (action.on (host.connections channel)).2) }) := by
  rw [transmit, runOn_bind, runOn_call]
  simp only [performCall]
  rcases action.on (host.connections channel) with ⟨exception | _, connection⟩
  · rfl
  · rfl

theorem runOn_transmit_pure :
    (transmit channel (pure ())).runOn cwd getFiles host = (.ok (), host) := by
  rw [runOn_transmit, Send.on_pure]
  simp [Except.mapError]

theorem runOn_transmit_bind (first second : Send Unit) :
    (transmit channel first >>= fun _ => transmit channel second).runOn cwd getFiles host =
      (transmit channel (first >>= fun _ => second)).runOn cwd getFiles host := by
  rw [runOn_bind, runOn_transmit, runOn_transmit, Send.on_bind]
  rcases first.on (host.connections channel) with ⟨exception | _, connection⟩
  · rfl
  · simp only [Except.mapError, runOn_transmit, Function.update_self, Function.update_idem]

theorem sendFileInChunks_congr {first second : Directory} {filepath : Bytes}
    (same : first filepath = second filepath) (bufferSize : ℕ+) :
    NetworkManager.sendFileInChunks filepath bufferSize first =
      NetworkManager.sendFileInChunks filepath bufferSize second := by
  simp only [NetworkManager.sendFileInChunks, FileManager.readFile, same]

variable (holds : Holds cwd base_directory host disk)
include holds

theorem Holds.runOn_sendFileInChunks (file_name : FileName) :
    (sendFileInChunks channel base_directory file_name.bytes).runOn cwd getFiles host =
      (transmit channel (NetworkManager.sendFileInChunks file_name.bytes MAX_PACKET_SIZE
        disk)).runOn cwd getFiles host := by
  rw [sendFileInChunks, runOn_bind, runOn_call]
  change (transmit channel (NetworkManager.sendFileInChunks _ _ fun _ =>
    (contentOf (openNode host.files cwd _)).toOption)).runOn cwd getFiles host = _
  rw [holds.openNode_pathOf]
  congr 2
  apply sendFileInChunks_congr
  cases disk file_name.bytes <;> rfl

theorem Holds.runOn_announce (announcement : Send Unit) (file_name : FileName) :
    (do transmit channel announcement
        sendFileInChunks channel base_directory file_name.bytes).runOn cwd getFiles host =
      (transmit channel (do
        announcement
        NetworkManager.sendFileInChunks file_name.bytes MAX_PACKET_SIZE disk)).runOn cwd
          getFiles host := by
  rw [← runOn_transmit_bind, runOn_bind, runOn_bind, runOn_transmit]
  rcases announcement.on (host.connections channel) with ⟨exception | _, connection⟩
  · rfl
  · have unchanged : Holds cwd base_directory
        { host with connections := Function.update host.connections channel connection } disk :=
      holds.of_files rfl
    exact unchanged.runOn_sendFileInChunks file_name

theorem Holds.list_eq :
    list host.files cwd (movesOf base_directory) =
      some (files host.files (resolve cwd (movesOf base_directory))) := by
  rw [list, follow, if_pos holds.passes]
  simp only [holds.directory, if_true]

theorem Holds.runOn_getFiles :
    (Routine.getFiles base_directory).runOn cwd getFiles host =
      (.ok (getFiles (files host.files (resolve cwd (movesOf base_directory)))), host) := by
  rw [Routine.getFiles, runOn_bind, runOn_call]
  simp only [performCall, holds.list_eq]
  rfl

end Sending

namespace Thread

/-! ### The command thread and the push thread -/

section Serving

variable (holds : Holds cwd base_directory host disk) (device : ℕ)
include holds

/-- The command thread meets the files of the disk. -/
theorem runOn_handleCommand {pkt : Packet} {payload : Bytes} (named : pkt.c_str = .ok payload)
    (regular : pkt.type = t_DOWNLOAD.value →
      ∃ file_name : FileName, extractWord payload = file_name.bytes) :
    (handleCommand base_directory device () pkt).runOn cwd getFiles host =
      (transmit (.command device) (Device.handleCommand
        { pkt, tested := disk, sent := disk
          getFiles := (getFiles (files host.files
            (resolve cwd (movesOf base_directory)))) })).runOn cwd getFiles host := by
  rw [handleCommand, Device.handleCommand, named]
  simp only [Send.liftM_ok, pure_bind]
  change (ite _ _ _ : Routine Unit).runOn cwd getFiles host = _
  by_cases upload : pkt.type = t_UPLOAD.value
  · rw [if_pos upload, if_pos upload]
    exact runOn_transmit_pure.symm
  · rw [if_neg upload, if_neg upload]
    by_cases download : pkt.type = t_DOWNLOAD.value
    · rcases regular download with ⟨file_name, word⟩
      rw [if_pos download, if_pos download, word, runOn_bind, holds.runOn_isFileExists]
      cases FileManager.isFileExists disk file_name.bytes with
      | false => rfl
      | true => exact holds.runOn_announce _ file_name
    · rw [if_neg download, if_neg download]
      by_cases delete : pkt.type = t_DELETE.value
      · rw [if_pos delete, if_pos delete]
        exact runOn_transmit_pure.symm
      · rw [if_neg delete, if_neg delete]
        by_cases list : pkt.type = t_LIST.value
        · rw [if_pos list, if_pos list, runOn_bind, holds.runOn_getFiles]
          exact runOn_transmit_bind _ _
        · rw [if_neg list, if_neg list]
          exact runOn_transmit_pure.symm

theorem runOn_handlePush {push : PushCommand} (regular : push.push_type = t_WRITE.value →
      ∃ file_name : FileName, extractWord push.push_command = file_name.bytes) :
    (handlePush base_directory device () push).runOn cwd getFiles host =
      (transmit (.push device) (Device.sendPush
        { push_type := push.push_type, push_command := push.push_command,
          disk })).runOn cwd getFiles host := by
  rw [handlePush, Device.sendPush]
  by_cases write : push.push_type = t_WRITE.value
  · rcases regular write with ⟨file_name, word⟩
    rw [if_pos write, if_pos write, word]
    exact holds.runOn_announce _ file_name
  · rw [if_neg write, if_neg write]
    split_ifs
    · rfl
    · exact runOn_transmit_pure.symm

end Serving

/-! ### The file watcher thread -/

section Pushing

variable (cwd getFiles) in
/-- The routine only reads and sends. -/
def KeepsFiles {Result : Type} (routine : Routine Result) : Prop :=
  ∀ host, (routine.runOn cwd getFiles host).2.files = host.files

theorem KeepsFiles.bind {Result Next : Type} {routine : Routine Result}
    {next : Result → Routine Next} (keeps : KeepsFiles cwd getFiles routine)
    (later : ∀ value, KeepsFiles cwd getFiles (next value)) :
    KeepsFiles cwd getFiles (routine >>= next) := by
  intro host
  have first := keeps host
  rw [runOn_bind]
  rcases ran : routine.runOn cwd getFiles host with ⟨exception | value, after⟩ <;>
    rw [ran] at first
  · exact first
  · exact (later value after).trans first

theorem keepsFiles_transmit (channel : Channel) (action : Send Unit) :
    KeepsFiles cwd getFiles (transmit channel action) := by
  intro host
  rw [runOn_transmit]

theorem keepsFiles_pushToBackups (type : UInt16) (content : Bytes) (backup_peers : ℕ) :
    KeepsFiles cwd getFiles (pushToBackups base_directory type content backup_peers) := by
  induction backup_peers with
  | zero =>
      intro host
      rfl
  | succ backup_peers ih =>
      apply ih.bind
      intro _
      apply (keepsFiles_transmit _ _).bind
      intro _
      split_ifs
      · refine KeepsFiles.bind (fun host => rfl) ?_
        intro file
        exact keepsFiles_transmit _ _
      · intro host
        rfl

theorem keepsFiles_handle_new_push (pkt : Packet) (backup_peers : ℕ) :
    KeepsFiles cwd getFiles (handle_new_push base_directory pkt backup_peers) := by
  refine KeepsFiles.bind (fun host => rfl) ?_
  intro content
  refine KeepsFiles.bind (fun host => rfl) ?_
  intro _
  exact keepsFiles_pushToBackups _ _ _

end Pushing

theorem run_loop_cons {Mode Item : Type} (round : Mode → Item → Routine Mode) (atEnd : ThreadEnd)
    (mode : Mode) (item : Item) (items : List Item) :
    Resumption.run (performCall cwd getFiles) host (loop round atEnd mode (item :: items)) =
      match (round mode item).runOn cwd getFiles host with
      | (.ok next, after) =>
          Resumption.run (performCall cwd getFiles) after (loop round atEnd next items)
      | (.error (.runtime_error _), after) => (.ended, after)
      | (.error (.logic_error what), after) => (.escaped (.logic_error what), after) := by
  refine (Resumption.run_bind _ host (round mode item).run _).trans ?_
  change _ = match Resumption.run (performCall cwd getFiles) host (round mode item).run with
    | (.ok next, after) => _
    | (.error (.runtime_error _), after) => _
    | (.error (.logic_error what), after) => _
  rcases Resumption.run (performCall cwd getFiles) host (round mode item).run with
    ⟨(what | what) | next, after⟩
  · rfl
  · rfl
  · rfl

theorem snd_run_singleton {Mode Item : Type} (round : Mode → Item → Routine Mode)
    (atEnd : ThreadEnd) (mode : Mode) (item : Item) :
    (Resumption.run (performCall cwd getFiles) host (loop round atEnd mode [item])).2 =
      ((round mode item).runOn cwd getFiles host).2 := by
  rw [run_loop_cons]
  rcases (round mode item).runOn cwd getFiles host with ⟨(what | what) | next, after⟩
  · rfl
  · rfl
  · rfl

theorem snd_runOn_bind_pure {Result Next : Type} (routine : Routine Result) (next : Next) :
    ((routine >>= fun _ => pure next).runOn cwd getFiles host).2 =
      (routine.runOn cwd getFiles host).2 := by
  rw [runOn_bind]
  rcases routine.runOn cwd getFiles host with ⟨exception | result, after⟩
  · rfl
  · rfl

section Rounds

variable (username : Bytes) (backup_peers : ℕ) {pkt : Packet} {file_name : Bytes}
  (named : pkt.c_str = .ok file_name)

theorem handleWatched_write (write : pkt.type = t_WRITE.value) :
    handleWatched username backup_peers .awaiting pkt =
      beginWrite username file_name >>= fun _ => return .buildFile { pkt, file_name, named } := by
  rw [handleWatched, announcedBy_of_ok named]
  exact if_pos write

theorem handleWatched_delete (delete : pkt.type = t_DELETE.value) :
    handleWatched username backup_peers .awaiting pkt =
      handleDelete username backup_peers { pkt, file_name, named } >>= fun _ =>
        return .awaiting := by
  have notWrite : pkt.type ≠ t_WRITE.value := by
    rw [delete]
    decide
  rw [handleWatched, announcedBy_of_ok named]
  exact (if_neg notWrite).trans (if_pos delete)

end Rounds

section Watching

open Device

variable {username : Bytes} {file_name copy : FileName}
  (getFiles) (copies : copyName file_name.bytes = copy.bytes)
include copies

omit copies in
theorem silent_beginWrite (name : Bytes) :
    Performs SystemCall.Silent (beginWrite username name) := by
  simp [beginWrite, SystemCall.Silent]

/-- Up to `buildFile`: the file exists, and the copy is empty. -/
theorem runOn_beginWrite (holds : Holds cwd (directoryOf username) host disk) :
    ∃ after, (beginWrite username file_name.bytes).runOn cwd getFiles host = (.ok (), after) ∧
      Holds cwd (directoryOf username) after (Cells.writeTo file_name.bytes disk
        { file := some ((disk file_name.bytes).getD []), copy := some [] }) := by
  have copied (middle : Host) (ready : Holds cwd (directoryOf username) middle
      (Function.update disk file_name.bytes (some ((disk file_name.bytes).getD [])))) :
      ∃ after, (createFile (directoryOf username) (copyName file_name.bytes)).runOn cwd getFiles
          middle = (.ok (), after) ∧
        Holds cwd (directoryOf username) after (Cells.writeTo file_name.bytes disk
          { file := some ((disk file_name.bytes).getD []), copy := some [] }) := by
    rw [Cells.writeTo, copies]
    exact (implements_createFile cwd getFiles _ copy).runs ready
      (FileManager.createFile_of_proper copy.proper _)
  rw [beginWrite, runOn_bind, holds.runOn_isFileExists,
    FileManager.isFileExists_of_proper file_name.proper]
  cases stored : disk file_name.bytes with
  | some content =>
      rw [stored] at copied
      apply copied host
      rwa [Option.getD_some, ← stored, Function.update_eq_self]
  | none =>
      rw [stored] at copied
      rcases (implements_createFile cwd getFiles _ file_name).runs holds
        (FileManager.createFile_of_proper file_name.proper _) with ⟨middle, ran, ready⟩
      simp only [Option.isSome_none, if_true]
      rw [runOn_bind, ran]
      exact copied middle ready

section Finishing

variable {announced : Announced} (named : announced.file_name = file_name.bytes)
  (backup_peers : ℕ) {original content : Bytes}
  (holds : Holds cwd (directoryOf username) host (Cells.writeTo file_name.bytes disk
    { file := some original, copy := some content }))
include named holds

theorem runOn_compare :
    (checkFileHashchanged (dotPathOf username announced.file_name)
      (dotPathOf username (copyName announced.file_name))).runOn cwd getFiles host =
      (.ok (FileManager.fnvDiffers original content), host) := by
  have compared : FileManager.checkFileHashchanged (Cells.writeTo file_name.bytes disk
      { file := some original, copy := some content }) file_name.bytes copy.bytes =
      .ok (FileManager.fnvDiffers original content) := by
    rw [FileManager.checkFileHashchanged_eq, FileManager.compareFiles,
      FileManager.streamed_of_proper file_name.proper,
      FileManager.streamed_of_proper copy.proper, ← copies, writeTo_file, writeTo_copy]
  rw [named, copies]
  exact (holds.runOn_checkFileHashchanged file_name copy).trans (by rw [compared])

/-- After `buildFile`, if the hashes are the same: the copy is removed. -/
theorem runOn_finishWrite_of_same (same : FileManager.fnvDiffers original content = false) :
    ∃ after,
      (finishWrite username backup_peers announced).runOn cwd getFiles host = (.ok (), after) ∧
        after.connections = host.connections ∧
        Holds cwd (directoryOf username) after
          (Cells.writeTo file_name.bytes disk { file := some original, copy := none }) := by
  rcases (implements_deleteFile cwd getFiles _ copy).runs holds
    (FileManager.deleteFile_of_proper copy.proper _) with ⟨after, ran, left⟩
  rw [← copies, ← writeTo_setCopy, cellsOf_writeTo, writeTo_writeTo] at left
  have silent : Performs SystemCall.Silent (deleteFile (directoryOf username) copy.bytes) := by
    simp [SystemCall.Silent]
  refine ⟨after, ?_, connections_of_silent silent ran, left⟩
  rw [finishWrite, runOn_bind, runOn_compare getFiles copies named holds, same]
  simp only [Bool.false_eq_true, if_false, named, copies]
  exact ran

/-- After `buildFile`, if the hashes differ: the copy replaces the file, which is then pushed. -/
theorem runOn_finishWrite_of_differs (differs : FileManager.fnvDiffers original content = true) :
    ∃ after,
      (finishWrite username backup_peers announced).runOn cwd getFiles host =
          (handle_new_push (directoryOf username) announced.pkt backup_peers).runOn cwd getFiles
            after ∧
        after.connections = host.connections ∧
        Holds cwd (directoryOf username) after
          (Cells.writeTo file_name.bytes disk { file := some content, copy := none }) := by
  rcases (implements_deleteFile cwd getFiles _ file_name).runs holds
    (FileManager.deleteFile_of_proper file_name.proper _) with ⟨middle, ran, left⟩
  rw [← writeTo_setFile, cellsOf_writeTo, writeTo_writeTo] at left
  have stored : Cells.writeTo file_name.bytes disk { file := none, copy := some content }
      copy.bytes = some content := by
    rw [← copies, writeTo_copy]
  rcases (implements_renameFile cwd getFiles _ copy file_name).runs left
    (FileManager.renameFile_of_some file_name.proper _ stored) with ⟨after, moved, replaced⟩
  rw [← copies, ← writeTo_setCopy, cellsOf_writeTo, writeTo_writeTo, ← writeTo_setFile,
    cellsOf_writeTo, writeTo_writeTo] at replaced
  have deletes : Performs SystemCall.Silent
      (deleteFile (directoryOf username) file_name.bytes) := by
    simp [SystemCall.Silent]
  have renames : Performs SystemCall.Silent
      (renameFile (ascii "./" ++ pathOf (directoryOf username) copy.bytes)
        (ascii "./" ++ pathOf (directoryOf username) file_name.bytes)) := by
    simp [SystemCall.Silent]
  refine ⟨after, ?_, ?_, replaced⟩
  · rw [finishWrite, runOn_bind, runOn_compare getFiles copies named holds, differs]
    simp only [if_true, named, copies]
    rw [runOn_bind, ran]
    simp only
    rw [runOn_bind]
    simp only [dotPathOf, moved]
  · exact (connections_of_silent renames moved).trans (connections_of_silent deletes ran)

/-- After `buildFile`: the copy replaces the file if the hashes differ. -/
theorem holds_finishWrite :
    Holds cwd (directoryOf username)
      ((finishWrite username backup_peers announced).runOn cwd getFiles host).2
      (Cells.writeTo file_name.bytes disk
        (if FileManager.fnvDiffers original content then { file := some content, copy := none }
          else { file := some original, copy := none })) := by
  cases compared : FileManager.fnvDiffers original content with
  | false =>
      rcases runOn_finishWrite_of_same getFiles copies named backup_peers holds compared with
        ⟨after, ran, -, left⟩
      rw [ran]
      exact left
  | true =>
      rcases runOn_finishWrite_of_differs getFiles copies named backup_peers holds compared with
        ⟨after, ran, -, left⟩
      rw [ran]
      exact left.of_files (keepsFiles_handle_new_push _ _ after)

end Finishing

/-- In `buildFile`, the packets are appended to the copy. -/
theorem run_buildFile {announced : Announced} (named : announced.file_name = file_name.bytes)
    (backup_peers : ℕ) (atEnd : ThreadEnd) {data : List Packet}
    (unclosed : ∀ pkt ∈ data, pkt.content ≠ ascii "END_OF_FILE") (rest : List Packet)
    {file : Option Bytes} {built : Bytes} (holds : Holds cwd (directoryOf username) host
      (Cells.writeTo file_name.bytes disk { file, copy := some built })) :
    ∃ after, Resumption.run (performCall cwd getFiles) host
        (loop (handleWatched username backup_peers) atEnd (.buildFile announced) (data ++ rest)) =
          Resumption.run (performCall cwd getFiles) after
            (loop (handleWatched username backup_peers) atEnd (.buildFile announced) rest) ∧
      after.connections = host.connections ∧
      Holds cwd (directoryOf username) after (Cells.writeTo file_name.bytes disk
        { file, copy := some (built ++ (data.map Packet.content).flatten) }) := by
  induction data generalizing host built with
  | nil => exact ⟨host, rfl, rfl, by simpa using holds⟩
  | cons pkt data ih =>
      rcases (implements_writeFile cwd getFiles _ copy pkt.content).runs holds
        (FileManager.writeFile_of_proper copy.proper _ _) with ⟨middle, ran, written⟩
      rw [← copies, writeTo_copy, ← writeTo_setCopy, cellsOf_writeTo, writeTo_writeTo] at written
      rcases ih (fun later later_mem => unclosed later (List.mem_cons_of_mem _ later_mem)) written
        with ⟨after, run, kept, left⟩
      have silent : Performs SystemCall.Silent
          (writeFile (directoryOf username) copy.bytes pkt.content) := by
        simp [SystemCall.Silent]
      refine ⟨after, ?_, kept.trans (connections_of_silent silent ran), by simpa using left⟩
      rw [List.cons_append, run_loop_cons, handleWatched,
        if_neg (unclosed pkt List.mem_cons_self), runOn_bind, named, copies, ran]
      exact run

/-- An upload, up to the packet that closes it. -/
theorem run_upload {announcement : Packet} (write : announcement.type = t_WRITE.value)
    (named : announcement.c_str = .ok file_name.bytes) (backup_peers : ℕ) (atEnd : ThreadEnd)
    {data : List Packet} (unclosed : ∀ pkt ∈ data, pkt.content ≠ ascii "END_OF_FILE")
    (rest : List Packet) (holds : Holds cwd (directoryOf username) host disk) :
    ∃ after, Resumption.run (performCall cwd getFiles) host
        (loop (handleWatched username backup_peers) atEnd .awaiting
          (announcement :: (data ++ rest))) =
        Resumption.run (performCall cwd getFiles) after
          (loop (handleWatched username backup_peers) atEnd
            (.buildFile { pkt := announcement, file_name := file_name.bytes, named }) rest) ∧
      after.connections = host.connections ∧
      Holds cwd (directoryOf username) after (Cells.writeTo file_name.bytes disk
        { file := some ((disk file_name.bytes).getD [])
          copy := some (data.map Packet.content).flatten }) := by
  rcases runOn_beginWrite getFiles copies holds with ⟨first, began, ready⟩
  have nameIs : (Announced.mk announcement file_name.bytes named).file_name = file_name.bytes :=
    rfl
  rcases run_buildFile getFiles copies nameIs backup_peers atEnd unclosed rest ready with
    ⟨second, built, kept, received⟩
  refine ⟨second, ?_, ?_, received⟩
  · rw [run_loop_cons, handleWatched_write username backup_peers named write, runOn_bind, began]
    exact built
  · exact kept.trans (connections_of_silent (silent_beginWrite _) began)

/-- An upload leaves the files that `handleWrite` computes, whether or not the pushes succeed. -/
theorem holds_upload (holds : Holds cwd (directoryOf username) host disk) (backup_peers : ℕ)
    (tail : NetworkManager.Tail) {announcement closing : Packet} {data : List Packet}
    (write : announcement.type = t_WRITE.value) (named : announcement.c_str = .ok file_name.bytes)
    (unclosed : ∀ pkt ∈ data, pkt.content ≠ ascii "END_OF_FILE")
    (closes : closing.content = ascii "END_OF_FILE") :
    Holds cwd (directoryOf username)
      (Resumption.run (performCall cwd getFiles) host (fileWatcherThread username backup_peers tail
        (announcement :: (data ++ [closing])))).2
      (handleWrite FileManager.fnvDiffers createCopy disk file_name.bytes
        (data.map Packet.content)).2 := by
  rcases run_upload getFiles copies write named backup_peers tail.threadEnd unclosed [closing] holds
    with ⟨middle, built, -, received⟩
  have nameIs : (Announced.mk announcement file_name.bytes named).file_name = file_name.bytes :=
    rfl
  have finished := holds_finishWrite getFiles copies nameIs backup_peers received
  have fits : (copyName file_name.bytes).length ≤ NAME_MAX := by
    rw [copies]
    exact copy.length_le
  have handled := handleWrite_eq FileManager.fnvDiffers (data.map Packet.content)
    file_name.proper (createCopy_yields fits) disk
  rw [fileWatcherThread, built, snd_run_singleton, handleWatched, if_pos closes,
    snd_runOn_bind_pure, handled]
  split_ifs with differ
  · rwa [if_pos differ] at finished
  · rwa [if_neg differ] at finished

section Deleting

omit copies
variable {announced : Announced} (named : announced.file_name = file_name.bytes)
  (backup_peers : ℕ) (holds : Holds cwd (directoryOf username) host disk)
include named holds

theorem runOn_handleDelete_of_none (absent : disk file_name.bytes = none) :
    (Thread.handleDelete username backup_peers announced).runOn cwd getFiles host =
      (.ok (), host) := by
  rw [Thread.handleDelete, named, runOn_bind, holds.runOn_isFileExists,
    FileManager.isFileExists_of_proper file_name.proper, absent]
  rfl

/-- A file that exists is removed, and then pushed. -/
theorem runOn_handleDelete_of_some {content : Bytes}
    (stored : disk file_name.bytes = some content) :
    ∃ after,
      (Thread.handleDelete username backup_peers announced).runOn cwd getFiles host =
          (handle_new_push (directoryOf username) announced.pkt backup_peers).runOn cwd getFiles
            after ∧
        after.connections = host.connections ∧
        Holds cwd (directoryOf username) after (Function.update disk file_name.bytes none) := by
  rcases (implements_deleteFile cwd getFiles _ file_name).runs holds
    (FileManager.deleteFile_of_proper file_name.proper _) with ⟨after, ran, left⟩
  have silent : Performs SystemCall.Silent
      (deleteFile (directoryOf username) file_name.bytes) := by
    simp [SystemCall.Silent]
  refine ⟨after, ?_, connections_of_silent silent ran, left⟩
  rw [Thread.handleDelete, named, runOn_bind, holds.runOn_isFileExists,
    FileManager.isFileExists_of_proper file_name.proper, stored]
  simp only [Option.isSome_some, if_true]
  rw [runOn_bind, ran]

end Deleting

omit copies in
/-- A deletion leaves the files that `handleDelete` computes. -/
theorem holds_delete (holds : Holds cwd (directoryOf username) host disk) (backup_peers : ℕ)
    (tail : NetworkManager.Tail) {pkt : Packet} (delete : pkt.type = t_DELETE.value)
    (named : pkt.c_str = .ok file_name.bytes) {deleted : Directory} {pushes : Bool}
    (handled : Device.handleDelete disk file_name.bytes = .ok (deleted, pushes)) :
    Holds cwd (directoryOf username)
      (Resumption.run (performCall cwd getFiles) host
        (fileWatcherThread username backup_peers tail [pkt])).2 deleted := by
  have nameIs : (Announced.mk pkt file_name.bytes named).file_name = file_name.bytes := rfl
  rw [fileWatcherThread, snd_run_singleton, handleWatched_delete username backup_peers named delete,
    snd_runOn_bind_pure]
  rw [handleDelete_eq file_name.proper] at handled
  cases stored : disk file_name.bytes with
  | none =>
      obtain ⟨rfl, rfl⟩ : disk = deleted ∧ false = pushes := by simpa [stored] using handled
      rw [runOn_handleDelete_of_none getFiles nameIs backup_peers holds stored]
      exact holds
  | some content =>
      obtain ⟨rfl, rfl⟩ : Function.update disk file_name.bytes none = deleted ∧ true = pushes := by
        simpa [stored] using handled
      rcases runOn_handleDelete_of_some getFiles nameIs backup_peers holds stored with
        ⟨after, ran, -, left⟩
      rw [ran]
      exact left.of_files (keepsFiles_handle_new_push _ _ after)

end Watching

/-! ### The pushes to a backup -/

section Receiving

open ClientManager

variable (getFiles)

/-- The thread of a backup waits where `ClientManager.receivePush` does, for a regular file. -/
def PushMode.Waits : PushMode → BackupMode → Prop
  | .awaiting, .awaiting => True
  | .receiving file_name, .receiving other _ => file_name = other ∧ IsFileName file_name
  | _, _ => False

def RegularPush (pkt : Packet) : Prop :=
  pkt.type = t_WRITE.value ∨ pkt.type = t_DELETE.value →
    ∀ file_name, pkt.c_str = .ok file_name → IsFileName file_name

/-- With a packet, both go on in the same way or are terminated by the same exception. -/
theorem runOn_handlePushed {thread : BackupThread} {mode : PushMode} {pkt : Packet}
    (holds : Holds cwd base_directory host thread.disk) (waits : mode.Waits thread.mode)
    (regular : RegularPush pkt) :
    (∃ next after,
      (handlePushed base_directory mode pkt).runOn cwd getFiles host = (.ok next, after) ∧
        Holds cwd base_directory after (receivePush thread pkt).disk ∧
          next.Waits (receivePush thread pkt).mode) ∨
      ∃ what, (handlePushed base_directory mode pkt).runOn cwd getFiles host =
          (.error (.logic_error what), host) ∧
        receivePush thread pkt = { thread with mode := .terminated (.logic_error what) } := by
  rcases thread with ⟨disk, modeOfThread, received⟩
  cases mode with
  | awaiting =>
      cases modeOfThread with
      | receiving | stopped | terminated => cases waits
      | awaiting =>
          cases present : pkt.payload.isSome with
          | false =>
              rcases c_str_of_isSome_eq_false present with ⟨what, failed⟩
              refine Or.inr ⟨what, ?_, ?_⟩
              · rw [handlePushed, failed]
                rfl
              · simp only [receivePush, failed, BackupThread.raise]
          | true =>
              rcases c_str_of_isSome present with ⟨file_name, named⟩
              rw [handlePushed, named, receivePush]
              simp only [named]
              change (∃ next after, Routine.runOn cwd getFiles host (ite _ _ _) = _ ∧ _) ∨ _
              split_ifs with write delete
              · exact Or.inl ⟨.receiving file_name, host, rfl, holds, rfl,
                  regular (Or.inl write) file_name named⟩
              · have isName := regular (Or.inr delete) file_name named
                have deletes := FileManager.deleteFile_of_proper
                  (FileName.proper ⟨file_name, isName⟩) disk
                rcases (implements_deleteFile cwd getFiles _ ⟨file_name, isName⟩).runs holds
                  deletes with ⟨after, ran, left⟩
                rw [deletes]
                refine Or.inl ⟨.awaiting, after, ?_, left, trivial⟩
                rw [runOn_bind, ran]
                rfl
              · exact Or.inl ⟨.awaiting, host, rfl, holds, trivial⟩
  | receiving file_name =>
      cases modeOfThread with
      | awaiting | stopped | terminated => cases waits
      | receiving other data =>
          rcases waits with ⟨rfl, isName⟩
          rw [handlePushed, receivePush]
          simp only
          split_ifs
          · exact Or.inl ⟨.awaiting, host, rfl, holds, trivial⟩
          · have writes := FileManager.writeFile_of_proper
              (FileName.proper ⟨file_name, isName⟩) disk pkt.content
            rcases (implements_writeFile cwd getFiles _ ⟨file_name, isName⟩ pkt.content).runs holds
              writes with ⟨after, ran, written⟩
            rw [writes]
            refine Or.inl ⟨.receiving file_name, after, ?_, written, rfl, isName⟩
            rw [runOn_bind, ran]
            rfl

theorem receivePushsOn_of_terminated {thread : BackupThread} {exception : Exception}
    (terminated : thread.mode = .terminated exception) (packets : List Packet) :
    ClientManager.receivePushsOn thread packets = thread := by
  induction packets with
  | nil => rfl
  | cons pkt packets ih =>
      rw [ClientManager.receivePushsOn, List.foldl_cons, receivePush, terminated]
      exact ih

theorem holds_loop_handlePushed {thread : BackupThread} {mode : PushMode} {packets : List Packet}
    (holds : Holds cwd base_directory host thread.disk) (waits : mode.Waits thread.mode)
    (regular : ∀ pkt ∈ packets, RegularPush pkt) (atEnd : ThreadEnd) :
    Holds cwd base_directory
      (Resumption.run (performCall cwd getFiles) host
        (loop (handlePushed base_directory) atEnd mode packets)).2
      (ClientManager.receivePushsOn thread packets).disk := by
  induction packets generalizing host thread mode with
  | nil => exact holds
  | cons pkt packets ih =>
      have received : ClientManager.receivePushsOn thread (pkt :: packets) =
          ClientManager.receivePushsOn (receivePush thread pkt) packets := rfl
      rw [run_loop_cons, received]
      rcases runOn_handlePushed getFiles holds waits (regular pkt List.mem_cons_self)
        with ⟨next, after, ran, left, goesOn⟩ | ⟨what, ran, ended⟩
      · rw [ran]
        exact ih left goesOn fun other other_mem =>
          regular other (List.mem_cons_of_mem _ other_mem)
      · rw [ran, receivePushsOn_of_terminated (by rw [ended]), ended]
        exact holds

/-- A backup that is pushed regular files holds what `ClientManager.receivePushsOn` computes. -/
theorem holds_receivePushsOn (holds : Holds cwd base_directory host disk)
    (received : List Change) (tail : NetworkManager.Tail) {packets : List Packet}
    (regular : ∀ pkt ∈ packets, RegularPush pkt) :
    Holds cwd base_directory
      (Resumption.run (performCall cwd getFiles) host
        (receivePushsOn base_directory tail packets)).2
      (ClientManager.receivePushsOn (.idle disk received) packets).disk := by
  have waits : PushMode.awaiting.Waits (BackupThread.idle disk received).mode := trivial
  exact holds_loop_handlePushed getFiles holds waits regular tail.threadEnd

end Receiving

end Thread

end SyncDir
