import SyncDir.Server.FileWatcher

/-!
# What the file watcher thread leaves

The handling of an upload should leave the uploaded content in its file, leave all other files
as they are, be propagated if and only if it has changed something, and leave no trace if it is
interrupted.  Here is said exactly when it does.

The comparison is one of hashes.  The copy is a file of the same directory, whose name can be that
of a file of the user.  The file is created before the comparison, so that a new empty file is no
change.  And what has been created before an exception is not removed.
-/

namespace SyncDir

namespace Device

open FileManager PacketType

variable (handle_new_push : Packet → Directory → Except Exception Unit) (upload : Upload)
  (disk : Directory) (pushed : List Packet)

/-! ### The content of the file -/

theorem fnvDiffers_eq_decide (original copy : Bytes) :
    fnvDiffers original copy = decide (fnv1a original ≠ fnv1a copy) := by
  rw [fnvDiffers, Bool.eq_iff_iff, bne_iff_ne, decide_eq_true_eq]

theorem checkFileHashchanged_of_some {directory : Directory} {first second original copy : Bytes}
    (firstStored : directory first = some original) (secondStored : directory second = some copy) :
    checkFileHashchanged directory first second = .ok (decide (fnv1a original ≠ fnv1a copy)) := by
  rw [checkFileHashchanged_eq, compareFiles, streamed_of_some firstStored,
    streamed_of_some secondStored]
  simp only [fnvDiffers_eq_decide]

theorem upload_file (fits : upload.Fits) :
    (fileWatcherThread handle_new_push (.idle disk pushed) upload.packets).disk
        upload.file_name.bytes =
      some (if fnv1a (upload.before disk) = fnv1a upload.content then upload.before disk
        else upload.content) := by
  rw [fileWatcherThread_upload_disk handle_new_push upload disk pushed fits, Upload.cells,
    writeTo_file, fnvDiffers_eq_decide]
  simp only [decide_eq_true_eq, ite_not]

/-- After an upload, the file holds the uploaded content exactly if its hash is another one than
that of the content before, or the two are the same; otherwise the file is as before.  The
comparison reports a change exactly if the hashes differ, as they do for contents that differ in a
single byte. -/
theorem upload_stored (fits : upload.Fits) :
    ((fileWatcherThread handle_new_push (.idle disk pushed) upload.packets).disk
          upload.file_name.bytes = some upload.content ↔
        fnv1a (upload.before disk) ≠ fnv1a upload.content ∨
          upload.before disk = upload.content) ∧
      (fnv1a (upload.before disk) = fnv1a upload.content →
        (fileWatcherThread handle_new_push (.idle disk pushed) upload.packets).disk
          upload.file_name.bytes = some (upload.before disk)) ∧
      (∀ directory first second original copy, directory first = some original →
        directory second = some copy → first ≠ [] → second ≠ [] →
          checkFileHashchanged directory first second =
            .ok (decide (fnv1a original ≠ fnv1a copy))) ∧
      ∀ first second byte other, byte ≠ other →
        fnv1a (first ++ byte :: second) ≠ fnv1a (first ++ other :: second) := by
  rw [upload_file handle_new_push upload disk pushed fits]
  refine ⟨?_, ?_, ?_, ?_⟩
  · split_ifs with same
    · simp [same]
    · simp [same]
  · intro same
    rw [if_pos same]
  · intro directory first second original copy firstStored secondStored _ _
    exact checkFileHashchanged_of_some firstStored secondStored
  · intro first second byte other different
    exact fnv1a_replace_ne first second different

/-- Eight bytes whose hash is zero, which it still is after a NUL. -/
def hashesToZero : Bytes := [0xD5, 0x6B, 0xB9, 0x53, 0x42, 0x87, 0x08, 0x36]

theorem fnv1a_hashesToZero : fnv1a hashesToZero = 0 := by
  rw [fnv1a_eq_foldl]
  decide

theorem fnv1a_hashesToZero_append : fnv1a (hashesToZero ++ [0]) = 0 := by
  rw [fnv1a_append, fnv1a_hashesToZero]
  decide

def fileG : FileName :=
  ⟨ascii "g", by decide⟩

def uploadOfCollision : Upload :=
  .ofChunks fileG [hashesToZero ++ [0]] (by decide)

theorem upload_stored_g :
    (fileWatcherThread (fun _ _ => .ok ()) (.idle (fun _ => none) [])
      uploadOfCollision.packets).disk (ascii "g") = some (hashesToZero ++ [0]) := by
  have stored := upload_stored (fun _ _ => .ok ()) uploadOfCollision (fun _ => none) [] (by decide)
  refine stored.1.mpr (Or.inl ?_)
  have content : uploadOfCollision.content = hashesToZero ++ [0] := by decide
  rw [content, fnv1a_hashesToZero_append, Upload.before]
  simp [FNV_OFFSET_BASIS]

/-- The file `g` and its copy, with different contents of one hash. -/
def collidingFiles : Directory :=
  Function.update (Function.update (fun _ => none) (ascii "g") (some hashesToZero))
    (ascii "copy_g") (some (hashesToZero ++ [0]))

/-- An upload with the hash of the stored content is dropped. -/
theorem upload_dropped :
    (fileWatcherThread (fun _ _ => .ok ())
        (.idle (Function.update (fun _ => none) (ascii "g") (some hashesToZero)) [])
        uploadOfCollision.packets).disk (ascii "g") = some hashesToZero ∧
      uploadOfCollision.content = hashesToZero ++ [0] ∧
      checkFileHashchanged collidingFiles (ascii "g") (ascii "copy_g") = .ok false ∧
      hashesToZero ≠ hashesToZero ++ [0] := by
  have content : uploadOfCollision.content = hashesToZero ++ [0] := by decide
  have original : collidingFiles (ascii "g") = some hashesToZero := by decide
  have copy : collidingFiles (ascii "copy_g") = some (hashesToZero ++ [0]) := by decide
  refine ⟨?_, content, ?_, by decide⟩
  · have file := upload_file (fun _ _ => .ok ()) uploadOfCollision
      (Function.update (fun _ => none) (ascii "g") (some hashesToZero)) [] (by decide)
    have before : uploadOfCollision.before
        (Function.update (fun _ => none) (ascii "g") (some hashesToZero)) = hashesToZero := by
      decide
    rw [before, content, fnv1a_hashesToZero, fnv1a_hashesToZero_append, if_pos rfl] at file
    exact file
  · rw [checkFileHashchanged_of_some original copy, fnv1a_hashesToZero, fnv1a_hashesToZero_append]
    rfl

/-! ### The other files -/

/-- Of the other files, an upload removes the one with the name of its copy. -/
theorem upload_other {other : Bytes} (notFile : other ≠ upload.file_name.bytes) :
    (fileWatcherThread handle_new_push (.idle disk pushed) upload.packets).disk other =
      if upload.Fits ∧ other = copyName upload.file_name.bytes then none else disk other := by
  by_cases fits : upload.Fits
  · rw [fileWatcherThread_upload_disk handle_new_push upload disk pushed fits, Upload.cells]
    by_cases isCopy : other = copyName upload.file_name.bytes
    · rw [isCopy, writeTo_copy, if_pos (And.intro fits rfl)]
    · have notBoth : ¬(upload.Fits ∧ other = copyName upload.file_name.bytes) :=
        fun both => isCopy both.2
      rw [writeTo_of_ne _ _ notFile isCopy, if_neg notBoth]
  · rw [Upload.packets, fileWatcherThread_of_long handle_new_push upload disk pushed fits,
      if_neg fun both => fits both.1]
    exact Function.update_of_ne notFile _ _

/-- An upload leaves all other files as they are exactly if none of them has the name of its
copy. -/
theorem upload_frame_iff :
    (∀ other, other ≠ upload.file_name.bytes →
        (fileWatcherThread handle_new_push (.idle disk pushed) upload.packets).disk other =
          disk other) ↔
      (upload.Fits → disk (copyName upload.file_name.bytes) = none) := by
  constructor
  · intro kept fits
    have removed := upload_other handle_new_push upload disk pushed (copyName_ne_self _)
    rw [← kept _ (copyName_ne_self _), removed, if_pos ⟨fits, rfl⟩]
  · intro absent other notFile
    rw [upload_other handle_new_push upload disk pushed notFile]
    split_ifs with isCopy
    · rw [isCopy.2, absent isCopy.1]
    · rfl

theorem upload_removes_copy_g :
    (fileWatcherThread (fun _ _ => .ok ())
        (.idle (Function.update (fun _ => none) (ascii "copy_g") (some (ascii "mine"))) [])
        (Upload.ofChunks fileG [ascii "hi"] (by decide)).packets).disk
      (ascii "copy_g") = none ∧
    Function.update (fun _ => none) (ascii "copy_g") (some (ascii "mine")) (ascii "copy_g") =
      some (ascii "mine") := by
  constructor
  · rw [fileWatcherThread_upload_disk _ _ _ _ (by decide)]
    exact writeTo_copy _ _
  · exact Function.update_self ..

/-! ### Propagation -/

inductive Report
  | write (upload : Upload)
  | delete (deletion : Deletion)

namespace Report

def packets : Report → List Packet
  | write upload => upload.packets
  | delete deletion => [deletion.pkt]

def pkt : Report → Packet
  | write upload => upload.announcement
  | delete deletion => deletion.pkt

def file_name : Report → FileName
  | write upload => upload.file_name
  | delete deletion => deletion.file_name

/-- An upload that is not found to change a file, but creates it or removes another one. -/
def Unnoticed (disk : Directory) : Report → Prop
  | write upload =>
      (upload.Fits → fnv1a (upload.before disk) = fnv1a upload.content) ∧
        (disk upload.file_name.bytes = none ∨
          upload.Fits ∧ disk (copyName upload.file_name.bytes) ≠ none)
  | delete _ => False

variable (report : Report)

def Propagated : Prop :=
  (fileWatcherThread handle_new_push (.idle disk pushed) report.packets).pushed =
    pushed ++ [report.pkt]

/-- The set of files or the content of the named file has changed. -/
def Changed (after : Directory) : Prop :=
  (∃ name, (disk name).isSome ≠ (after name).isSome) ∨
    disk report.file_name.bytes ≠ after report.file_name.bytes

end Report

theorem propagated_write_iff :
    (Report.write upload).Propagated handle_new_push disk pushed ↔
      upload.Fits ∧ fnv1a (upload.before disk) ≠ fnv1a upload.content := by
  rw [Report.Propagated, Report.packets, Report.pkt]
  by_cases fits : upload.Fits
  · rw [fileWatcherThread_upload handle_new_push upload disk pushed fits, fnvDiffers_eq_decide]
    split_ifs with differs
    · rw [push_pushed]
      exact iff_of_true rfl ⟨fits, of_decide_eq_true differs⟩
    · refine iff_of_false ?_ fun both => differs (decide_eq_true both.2)
      simp [FileWatcher.idle]
  · rw [Upload.packets, fileWatcherThread_of_long handle_new_push upload disk pushed fits]
    simp [fits]

theorem propagated_delete_iff (deletion : Deletion) :
    (Report.delete deletion).Propagated handle_new_push disk pushed ↔
      disk deletion.file_name.bytes ≠ none := by
  rw [Report.Propagated, Report.packets, Report.pkt, fileWatcherThread, List.foldl_cons,
    receive_deletion, List.foldl_nil, ← Option.isSome_iff_ne_none]
  split_ifs with found
  · simp [FileWatcher.idle, found]
  · simp [FileWatcher.idle, found]

/-- What an upload has changed, if it is not propagated: the file, if it is new, and the file with
the name of its copy. -/
theorem changed_write_iff
    (quiet : upload.Fits → fnv1a (upload.before disk) = fnv1a upload.content) :
    (Report.write upload).Changed disk
        (fileWatcherThread handle_new_push (.idle disk pushed) upload.packets).disk ↔
      disk upload.file_name.bytes = none ∨
        upload.Fits ∧ disk (copyName upload.file_name.bytes) ≠ none := by
  have file : (fileWatcherThread handle_new_push (.idle disk pushed) upload.packets).disk
      upload.file_name.bytes = some (upload.before disk) := by
    by_cases fits : upload.Fits
    · rw [upload_file handle_new_push upload disk pushed fits, if_pos (quiet fits)]
    · rw [Upload.packets, fileWatcherThread_of_long handle_new_push upload disk pushed fits]
      exact Function.update_self ..
  constructor
  · rintro (⟨name, differs⟩ | differs)
    · by_cases isFile : name = upload.file_name.bytes
      · left
        subst name
        simpa [file] using differs
      · right
        rw [upload_other handle_new_push upload disk pushed isFile] at differs
        split_ifs at differs with isCopy
        · rw [isCopy.2] at differs
          exact ⟨isCopy.1, by simpa [← Option.isSome_iff_ne_none] using differs⟩
        · exact absurd rfl differs
    · left
      by_contra found
      rcases Option.ne_none_iff_exists'.mp found with ⟨old, stored⟩
      apply differs
      rw [Report.file_name, file, Upload.before, stored, Option.getD_some]
  · rintro (absent | ⟨fits, taken⟩)
    · refine Or.inr ?_
      rw [Report.file_name, file, absent]
      exact Option.some_ne_none _ ∘ Eq.symm
    · refine Or.inl ⟨copyName upload.file_name.bytes, ?_⟩
      rw [upload_other handle_new_push upload disk pushed (copyName_ne_self _),
        if_pos ⟨fits, rfl⟩]
      simpa [← Option.isSome_iff_ne_none] using taken

theorem changed_of_propagated (fits : upload.Fits)
    (differs : fnv1a (upload.before disk) ≠ fnv1a upload.content) :
    (Report.write upload).Changed disk
      (fileWatcherThread handle_new_push (.idle disk pushed) upload.packets).disk := by
  refine Or.inr ?_
  rw [Report.file_name, upload_file handle_new_push upload disk pushed fits, if_neg differs]
  intro stored
  apply differs
  rw [Upload.before, stored, Option.getD_some]

theorem changed_delete_iff (deletion : Deletion) :
    (Report.delete deletion).Changed disk
        (fileWatcherThread handle_new_push (.idle disk pushed) [deletion.pkt]).disk ↔
      disk deletion.file_name.bytes ≠ none := by
  rw [fileWatcherThread, List.foldl_cons, receive_deletion, List.foldl_nil,
    ← Option.isSome_iff_ne_none]
  split_ifs with found
  · rw [push_disk]
    refine iff_of_true (Or.inr ?_) found
    simpa [Report.file_name, FileWatcher.idle, ← Option.isSome_iff_ne_none] using found
  · refine iff_of_false ?_ found
    simp [Report.Changed, FileWatcher.idle]

/-- A report is propagated if and only if it has changed something, unless it is unnoticed. -/
theorem propagated_iff_changed_iff (report : Report) :
    (report.Propagated handle_new_push disk pushed ↔
        report.Changed disk
          (fileWatcherThread handle_new_push (.idle disk pushed) report.packets).disk) ↔
      ¬report.Unnoticed disk := by
  cases report with
  | write upload =>
      rw [propagated_write_iff, Report.packets, Report.Unnoticed]
      by_cases quiet : upload.Fits → fnv1a (upload.before disk) = fnv1a upload.content
      · have notPropagated :
            ¬(upload.Fits ∧ fnv1a (upload.before disk) ≠ fnv1a upload.content) :=
          fun both => both.2 (quiet both.1)
        rw [changed_write_iff handle_new_push upload disk pushed quiet,
          iff_false_left notPropagated, and_iff_right quiet]
      · refine iff_of_true ?_ fun unnoticed => quiet unnoticed.1
        rcases Classical.not_imp.mp quiet with ⟨fits, differs⟩
        exact iff_of_true ⟨fits, differs⟩
          (changed_of_propagated handle_new_push upload disk pushed fits differs)
  | delete deletion =>
      rw [propagated_delete_iff, Report.packets, changed_delete_iff]
      exact iff_of_true Iff.rfl id

def uploadOfEmpty : Upload :=
  .ofChunks fileG [] (by decide)

/-- If the file is new, it is created but not propagated. -/
theorem upload_unnoticed :
    (fileWatcherThread (fun _ _ => .ok ()) (.idle (fun _ => none) [])
        uploadOfEmpty.packets).pushed = [] ∧
      (fileWatcherThread (fun _ _ => .ok ()) (.idle (fun _ => none) [])
        uploadOfEmpty.packets).disk (ascii "g") = some [] := by
  have quiet : fnvDiffers (uploadOfEmpty.before fun _ => none) uploadOfEmpty.content = false := by
    simp [fnvDiffers, uploadOfEmpty, Upload.before, Upload.content, Upload.ofChunks]
  rw [fileWatcherThread_upload _ _ _ _ (by decide), quiet, if_neg Bool.false_ne_true]
  exact ⟨rfl, by decide⟩

/-! ### Interrupted uploads -/

/-- The thread after the first packets of an upload and an exception of `receivePacket`. -/
def interrupted (count : ℕ) (what : String) : FileWatcher :=
  (fileWatcherThread handle_new_push (.idle disk pushed) (upload.packets.take count)).raise
    (.runtime_error what)

theorem cells_eq_self_iff {file copy : Option Bytes} :
    upload.cells disk file copy = disk ↔
      disk upload.file_name.bytes = file ∧ disk (copyName upload.file_name.bytes) = copy := by
  rw [Upload.cells]
  constructor
  · intro same
    constructor
    · rw [← same, writeTo_file]
    · rw [← same, writeTo_copy]
  · rintro ⟨rfl, rfl⟩
    exact writeTo_cellsOf disk

theorem eq_some_before_iff :
    disk upload.file_name.bytes = some (upload.before disk) ↔
      disk upload.file_name.bytes ≠ none := by
  rw [Upload.before]
  cases disk upload.file_name.bytes <;> simp

/-- An upload that is interrupted leaves no trace exactly if nothing of it has arrived, or if the
file was there and the copy, if it can be created, with just the content that has arrived. -/
theorem interrupted_iff {count : ℕ} (unfinished : count < upload.packets.length) (what : String) :
    (interrupted handle_new_push upload disk pushed count what).mode = .stopped ∧
      ((interrupted handle_new_push upload disk pushed count what).disk = disk ↔
        count = 0 ∨ disk upload.file_name.bytes ≠ none ∧
          (upload.Fits → disk (copyName upload.file_name.bytes) =
            some ((upload.data.take (count - 1)).map Packet.content).flatten)) := by
  refine ⟨rfl, ?_⟩
  rw [interrupted]
  change (fileWatcherThread _ _ _).disk = disk ↔ _
  cases count with
  | zero => exact iff_of_true rfl (Or.inl rfl)
  | succ count =>
      have within : count ≤ upload.data.length := by
        simp only [Upload.packets, List.length_cons, List.length_append, List.length_nil]
          at unfinished
        omega
      have arrived : upload.packets.take (count + 1) =
          upload.announcement :: upload.data.take count := by
        rw [Upload.packets, List.take_succ_cons, List.take_append_of_le_length within]
      rw [arrived, Nat.add_sub_cancel, or_iff_right (Nat.succ_ne_zero count)]
      by_cases fits : upload.Fits
      · have unclosed : ∀ pkt ∈ upload.data.take count, pkt.content ≠ ascii "END_OF_FILE" :=
          fun pkt pkt_mem => upload.unclosed pkt (List.mem_of_mem_take pkt_mem)
        rw [fileWatcherThread_announced handle_new_push upload disk pushed fits unclosed,
          Upload.receiving, cells_eq_self_iff, eq_some_before_iff]
        simp [fits]
      · rw [fileWatcherThread_of_long handle_new_push upload disk pushed fits]
        simp only [Function.update_eq_self_iff, fits, false_implies, and_true]
        rw [eq_comm, eq_some_before_iff]

def uploadInParts : Upload :=
  .ofChunks fileG [ascii "a", ascii "b"] (by decide)

/-- A directory with a file and what an earlier upload of it has left in its copy. -/
def withCopy : Directory :=
  Function.update (Function.update (fun _ => none) (ascii "g") (some (ascii "x")))
    (ascii "copy_g") (some (ascii "a"))

/-- The same part of the upload arrives again. -/
theorem interrupted_iff_samePart :
    (interrupted (fun _ _ => .ok ()) uploadInParts withCopy [] 2
        "Connection closed by peer\n").mode = .stopped ∧
      (interrupted (fun _ _ => .ok ()) uploadInParts withCopy [] 2
        "Connection closed by peer\n").disk = withCopy := by
  have unfinished : 2 < uploadInParts.packets.length := by decide
  have iff := interrupted_iff (fun _ _ => .ok ()) uploadInParts withCopy [] unfinished
    "Connection closed by peer\n"
  have stored : withCopy uploadInParts.file_name.bytes ≠ none := by decide
  have copied : withCopy (copyName uploadInParts.file_name.bytes) =
      some ((uploadInParts.data.take 1).map Packet.content).flatten := by decide
  exact ⟨iff.1, iff.2.mpr (Or.inr ⟨stored, fun _ => copied⟩)⟩

/-- After an announcement, two files are left. -/
theorem interrupted_announced :
    (interrupted (fun _ _ => .ok ()) uploadOfEmpty (fun _ => none) [] 1
        "Connection closed by peer\n").disk (ascii "g") = some [] ∧
      (interrupted (fun _ _ => .ok ()) uploadOfEmpty (fun _ => none) [] 1
        "Connection closed by peer\n").disk (ascii "copy_g") = some [] := by
  decide

end Device

end SyncDir
