import SyncDir.Server.UploadCells

/-!
# The file watcher thread of a device

`Device::fileWatcherThread` is a machine that is fed with one packet at a time.
A `t_WRITE` packet makes it create the file, if there is none, and a temporary
copy; the packets that follow are appended to the copy, and the closing packet
makes it compare the two and keep one of them.  Where an exception ends the loop,
what has been done to the directory stays done.

How `handle_new_push` returns is a parameter.
-/

namespace SyncDir

namespace Device

open FileManager PacketType

/-- Where the thread waits for a packet. -/
inductive WatcherMode
  | awaiting
  /-- In `buildFile`, after the packet that has announced the file. -/
  | buildFile (pkt : Packet) (file_name : Bytes)
  /-- The loop has been left because of a `runtime_error`. -/
  | stopped
  | terminated (exception : Exception)
  deriving DecidableEq

structure FileWatcher where
  disk : Directory
  mode : WatcherMode
  /-- The packets with which `handle_new_push` has been called. -/
  pushed : List Packet

namespace FileWatcher

def idle (disk : Directory) (pushed : List Packet) : FileWatcher :=
  { disk, mode := .awaiting, pushed }

/-- What becomes of the loop when an exception is raised in it. -/
def raise (watcher : FileWatcher) : Exception → FileWatcher
  | .runtime_error _ => { watcher with mode := .stopped }
  | .logic_error what => { watcher with mode := .terminated (.logic_error what) }

/-- The handling of a `t_WRITE` packet up to `buildFile`. -/
def beginWrite (watcher : FileWatcher) (pkt : Packet) (file_name : Bytes) : FileWatcher :=
  match if isFileExists watcher.disk file_name then .ok watcher.disk
    else createFile watcher.disk file_name with
  | .error exception => watcher.raise exception
  | .ok created =>
      match createCopy created file_name with
      | .error exception => { watcher with disk := created }.raise exception
      | .ok disk => { watcher with disk, mode := .buildFile pkt file_name }

section

variable (handle_new_push : Packet → Directory → Except Exception Unit)

def push (watcher : FileWatcher) (pkt : Packet) : FileWatcher :=
  match handle_new_push pkt watcher.disk with
  | .ok () => .idle watcher.disk (watcher.pushed ++ [pkt])
  | .error exception => { watcher with pushed := watcher.pushed ++ [pkt] }.raise exception

/-- The handling of a `t_WRITE` packet after `buildFile`. -/
def finishWrite (watcher : FileWatcher) (pkt : Packet) (file_name : Bytes) : FileWatcher :=
  match checkFileHashchanged watcher.disk file_name (copyName file_name) with
  | .error exception => watcher.raise exception
  | .ok true =>
      match FileManager.deleteFile watcher.disk file_name with
      | .error exception => watcher.raise exception
      | .ok deleted =>
          match FileManager.renameFile deleted (copyName file_name) file_name with
          | .error exception => { watcher with disk := deleted }.raise exception
          | .ok disk => { watcher with disk }.push handle_new_push pkt
  | .ok false =>
      match FileManager.deleteFile watcher.disk (copyName file_name) with
      | .error exception => watcher.raise exception
      | .ok disk => .idle disk watcher.pushed

def deleteNamed (watcher : FileWatcher) (pkt : Packet) (file_name : Bytes) : FileWatcher :=
  match handleDelete watcher.disk file_name with
  | .error exception => watcher.raise exception
  | .ok (disk, true) => { watcher with disk }.push handle_new_push pkt
  | .ok (disk, false) => { watcher with disk }

/-- What the thread does with a packet. -/
def receive (watcher : FileWatcher) (pkt : Packet) : FileWatcher :=
  match watcher.mode with
  | .awaiting =>
      match pkt.c_str with
      | .error exception => watcher.raise exception
      | .ok file_name =>
          if pkt.type = t_WRITE.value then
            watcher.beginWrite pkt file_name
          else if pkt.type = t_DELETE.value then
            watcher.deleteNamed handle_new_push pkt file_name
          else
            watcher
  | .buildFile announced file_name =>
      if pkt.content = ascii "END_OF_FILE" then
        watcher.finishWrite handle_new_push announced file_name
      else
        match writeFile watcher.disk (copyName file_name) pkt.content with
        | .error exception => watcher.raise exception
        | .ok disk => { watcher with disk }
  | .stopped | .terminated _ => watcher

end

end FileWatcher

def fileWatcherThread (handle_new_push : Packet → Directory → Except Exception Unit)
    (watcher : FileWatcher) (packets : List Packet) : FileWatcher :=
  packets.foldl (FileWatcher.receive handle_new_push) watcher

/-! ### Uploads and deletions -/

/-- The packets of an upload: the announcement of a file, what is appended to its copy, and the
packet that closes it. -/
structure Upload where
  file_name : FileName
  announcement : Packet
  write : announcement.type = t_WRITE.value
  named : announcement.c_str = .ok file_name.bytes
  data : List Packet
  unclosed : ∀ pkt ∈ data, pkt.content ≠ ascii "END_OF_FILE"
  closing : Packet
  closes : closing.content = ascii "END_OF_FILE"

namespace Upload

variable (upload : Upload)

def packets : List Packet :=
  upload.announcement :: (upload.data ++ [upload.closing])

def content : Bytes :=
  (upload.data.map Packet.content).flatten

/-- The content of the file before the upload, which is empty if there is no file. -/
def before (disk : Directory) : Bytes :=
  (disk upload.file_name.bytes).getD []

def Fits : Prop :=
  (copyName upload.file_name.bytes).length ≤ NAME_MAX

instance : Decidable upload.Fits :=
  inferInstanceAs (Decidable (_ ≤ _))

/-- An upload that is closed as `buildFile` expects it. -/
def ofChunks (file_name : FileName) (chunks : List Bytes)
    (unclosed : ∀ chunk ∈ chunks,
      (Packet.build t_DATA.value 0 chunk).content ≠ ascii "END_OF_FILE") : Upload where
  file_name := file_name
  announcement := Packet.build t_WRITE.value 1 file_name.bytes
  write := rfl
  named := by rw [Packet.build_c_str, FileName.cString_bytes]
  data := chunks.map (Packet.build t_DATA.value 0)
  unclosed := by simpa using unclosed
  closing := Packet.build t_DATA.value 0 (ascii "END_OF_FILE")
  closes := Packet.build_content (by decide) _ _

end Upload

structure Deletion where
  file_name : FileName
  pkt : Packet
  delete : pkt.type = t_DELETE.value
  named : pkt.c_str = .ok file_name.bytes

/-! ### What the thread does -/

section Runs

variable {handle_new_push : Packet → Directory → Except Exception Unit} {watcher : FileWatcher}
  {pkt : Packet}

@[simp]
theorem push_disk : (watcher.push handle_new_push pkt).disk = watcher.disk := by
  rw [FileWatcher.push]
  rcases handle_new_push pkt watcher.disk with (what | what) | _ <;> rfl

@[simp]
theorem push_pushed : (watcher.push handle_new_push pkt).pushed = watcher.pushed ++ [pkt] := by
  rw [FileWatcher.push]
  rcases handle_new_push pkt watcher.disk with (what | what) | _ <;> rfl

theorem fileWatcherThread_append (first second : List Packet) :
    fileWatcherThread handle_new_push watcher (first ++ second) =
      fileWatcherThread handle_new_push
        (fileWatcherThread handle_new_push watcher first) second :=
  List.foldl_append

theorem fileWatcherThread_of_stopped (stopped : watcher.mode = .stopped) (packets : List Packet) :
    fileWatcherThread handle_new_push watcher packets = watcher := by
  induction packets with
  | nil => rfl
  | cons pkt packets ih =>
      rw [fileWatcherThread, List.foldl_cons, FileWatcher.receive, stopped]
      exact ih

variable (handle_new_push) (upload : Upload) (disk : Directory) (pushed : List Packet)

def Upload.cells (file copy : Option Bytes) : Directory :=
  Cells.writeTo upload.file_name.bytes disk { file, copy }

/-- The thread while it receives an upload to a copy. -/
def Upload.receiving (built : Bytes) : FileWatcher :=
  { disk := (upload.cells disk (some (upload.before disk)) (some built)),
    mode := .buildFile upload.announcement upload.file_name.bytes, pushed }

theorem createIfMissing_eq {file_name : Bytes} (proper : isDirectory file_name = false) :
    (if isFileExists disk file_name then .ok disk else createFile disk file_name) =
      .ok (Function.update disk file_name (some ((disk file_name).getD []))) := by
  rw [isFileExists_of_proper proper, createFile_of_proper proper]
  cases stored : disk file_name with
  | none => rfl
  | some content =>
      rw [Option.isSome_some, if_pos rfl, Option.getD_some, ← stored, Function.update_eq_self]

theorem receive_announcement_eq :
    (FileWatcher.idle disk pushed).receive handle_new_push upload.announcement =
      (FileWatcher.idle disk pushed).beginWrite upload.announcement upload.file_name.bytes := by
  simp only [FileWatcher.receive, FileWatcher.idle, upload.named, if_pos upload.write]

theorem receive_announcement (fits : upload.Fits) :
    (FileWatcher.idle disk pushed).receive handle_new_push upload.announcement =
      upload.receiving disk pushed [] := by
  have copied (created : Directory) := createCopy_yields fits created
  rw [receive_announcement_eq handle_new_push, FileWatcher.beginWrite, FileWatcher.idle,
    createIfMissing_eq disk upload.file_name.proper]
  simp only [copied]
  rfl

/-- If the copy cannot be created, the file is there nevertheless. -/
theorem receive_announcement_of_long (long : ¬upload.Fits) :
    (FileWatcher.idle disk pushed).receive handle_new_push upload.announcement =
      { disk := Function.update disk upload.file_name.bytes
          (some (upload.before disk)),
        mode := .stopped, pushed } := by
  have refused (created : Directory) := createCopy_refuses long created
  rw [receive_announcement_eq handle_new_push, FileWatcher.beginWrite, FileWatcher.idle,
    createIfMissing_eq disk upload.file_name.proper]
  simp only [refused]
  rfl

theorem fileWatcherThread_data (built : Bytes) {data : List Packet}
    (unclosed : ∀ pkt ∈ data, pkt.content ≠ ascii "END_OF_FILE") :
    fileWatcherThread handle_new_push (upload.receiving disk pushed built) data =
      upload.receiving disk pushed (built ++ (data.map Packet.content).flatten) := by
  induction data generalizing built with
  | nil => simp [fileWatcherThread]
  | cons pkt data ih =>
      have appended : (upload.receiving disk pushed built).receive handle_new_push pkt =
          upload.receiving disk pushed (built ++ pkt.content) := by
        simp only [FileWatcher.receive, Upload.receiving,
          if_neg (unclosed pkt List.mem_cons_self), writeFile_of_proper (isDirectory_copyName _),
          Upload.cells, writeTo_copy, Option.getD_some, ← writeTo_setCopy, cellsOf_writeTo,
          writeTo_writeTo]
      have rest := ih (built ++ pkt.content) fun later later_mem =>
        unclosed later (List.mem_cons_of_mem _ later_mem)
      rw [fileWatcherThread] at rest ⊢
      rw [List.foldl_cons, appended, rest, List.map_cons, List.flatten_cons, List.append_assoc]

/-- The closing packet makes the thread keep the copy if its hash differs, and push the change. -/
theorem receive_closing (built : Bytes) :
    (upload.receiving disk pushed built).receive handle_new_push upload.closing =
      if fnvDiffers (upload.before disk) built then
        { upload.receiving disk pushed built with
          disk := upload.cells disk (some built) none }.push handle_new_push upload.announcement
      else
        .idle (upload.cells disk (some (upload.before disk)) none) pushed := by
  have proper := upload.file_name.proper
  have copyProper := isDirectory_copyName upload.file_name.bytes
  have compared : checkFileHashchanged (upload.receiving disk pushed built).disk
      upload.file_name.bytes (copyName upload.file_name.bytes) =
      .ok (fnvDiffers (upload.before disk) built) := by
    rw [checkFileHashchanged_eq, compareFiles, streamed_of_proper proper,
      streamed_of_proper copyProper, Upload.receiving, Upload.cells]
    simp only [writeTo_file, writeTo_copy]
  have finished : (upload.receiving disk pushed built).receive handle_new_push upload.closing =
      (upload.receiving disk pushed built).finishWrite handle_new_push upload.announcement
        upload.file_name.bytes := by
    simp only [FileWatcher.receive, Upload.receiving, if_pos upload.closes]
  rw [finished, FileWatcher.finishWrite, compared]
  cases fnvDiffers (upload.before disk) built with
  | false =>
      simp only [deleteFile_of_proper copyProper, Bool.false_eq_true, if_false]
      rw [Upload.receiving, Upload.cells, ← writeTo_setCopy, cellsOf_writeTo, writeTo_writeTo]
      rfl
  | true =>
      have stored : Cells.writeTo upload.file_name.bytes disk { file := none, copy := some built }
          (copyName upload.file_name.bytes) = some built := writeTo_copy _ _
      have deleted : FileManager.deleteFile (upload.receiving disk pushed built).disk
          upload.file_name.bytes =
          .ok (Cells.writeTo upload.file_name.bytes disk { file := none, copy := some built }) := by
        rw [deleteFile_of_proper proper, Upload.receiving, Upload.cells, ← writeTo_setFile,
          cellsOf_writeTo, writeTo_writeTo]
      have renamed := renameFile_of_some proper _ stored
      rw [← writeTo_setCopy, cellsOf_writeTo, writeTo_writeTo, ← writeTo_setFile, cellsOf_writeTo,
        writeTo_writeTo] at renamed
      simp only [deleted, renamed, if_true]
      rfl

theorem fileWatcherThread_announced (fits : upload.Fits) {data : List Packet}
    (unclosed : ∀ pkt ∈ data, pkt.content ≠ ascii "END_OF_FILE") :
    fileWatcherThread handle_new_push (.idle disk pushed) (upload.announcement :: data) =
      upload.receiving disk pushed (data.map Packet.content).flatten := by
  rw [fileWatcherThread, List.foldl_cons, receive_announcement handle_new_push upload disk pushed
    fits]
  exact fileWatcherThread_data handle_new_push upload disk pushed [] unclosed

theorem fileWatcherThread_of_long (long : ¬upload.Fits) (packets : List Packet) :
    fileWatcherThread handle_new_push (.idle disk pushed) (upload.announcement :: packets) =
      { disk := Function.update disk upload.file_name.bytes
          (some (upload.before disk)),
        mode := .stopped, pushed } := by
  rw [fileWatcherThread, List.foldl_cons,
    receive_announcement_of_long handle_new_push upload disk pushed long]
  exact fileWatcherThread_of_stopped rfl packets

theorem fileWatcherThread_upload (fits : upload.Fits) :
    fileWatcherThread handle_new_push (.idle disk pushed) upload.packets =
      if fnvDiffers (upload.before disk) upload.content then
        { upload.receiving disk pushed upload.content with
          disk := upload.cells disk (some upload.content) none }.push handle_new_push
            upload.announcement
      else
        .idle (upload.cells disk (some (upload.before disk)) none) pushed := by
  rw [Upload.packets, ← List.cons_append, fileWatcherThread_append,
    fileWatcherThread_announced handle_new_push upload disk pushed fits upload.unclosed]
  exact receive_closing handle_new_push upload disk pushed upload.content

theorem fileWatcherThread_upload_disk (fits : upload.Fits) :
    (fileWatcherThread handle_new_push (.idle disk pushed) upload.packets).disk =
      upload.cells disk (some (if fnvDiffers (upload.before disk) upload.content
        then upload.content else upload.before disk)) none := by
  rw [fileWatcherThread_upload handle_new_push upload disk pushed fits]
  split_ifs
  · rw [push_disk]
  · rfl

/-- The thread does to the directory what `handleWrite` says. -/
theorem fileWatcherThread_upload_eq_handleWrite (fits : upload.Fits) :
    (fileWatcherThread handle_new_push (.idle disk pushed) upload.packets).disk =
      (handleWrite fnvDiffers createCopy disk upload.file_name.bytes
        (upload.data.map Packet.content)).2 := by
  rw [fileWatcherThread_upload_disk handle_new_push upload disk pushed fits,
    handleWrite_eq _ _ upload.file_name.proper (createCopy_yields fits), Upload.cells,
    Upload.content, Upload.before]
  split_ifs <;> rfl

/-- A deletion removes a file that exists, and is pushed in this case. -/
theorem receive_deletion (deletion : Deletion) :
    (FileWatcher.idle disk pushed).receive handle_new_push deletion.pkt =
      if (disk deletion.file_name.bytes).isSome then
        (FileWatcher.idle (Function.update disk deletion.file_name.bytes none) pushed).push
          handle_new_push deletion.pkt
      else
        .idle disk pushed := by
  have notWrite : deletion.pkt.type ≠ t_WRITE.value := by
    rw [deletion.delete]
    decide
  simp only [FileWatcher.receive, FileWatcher.idle, deletion.named, if_neg notWrite,
    if_pos deletion.delete, FileWatcher.deleteNamed, handleDelete_eq deletion.file_name.proper]
  split_ifs <;> rfl

end Runs

end Device

end SyncDir
