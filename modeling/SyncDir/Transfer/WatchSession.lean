import Mathlib.Data.List.Basic
import SyncDir.Client.Inotify
import SyncDir.Server.FileWatcher
import SyncDir.Transfer.FileNames
import SyncDir.Transfer.Upload

/-!
# Sessions of a watcher connection

A file watcher thread that is fed with uploads and deletions handles one report
after the other, and its directory is that of a store on which the reports have
been performed.

The file thread of a client never closes an upload in the way that the server
expects.  The server takes everything that follows the first upload of a session
for the content of its copy, and reacts to nothing any more.
-/

namespace SyncDir

namespace Device

open FileManager NetworkManager PacketType

/-! ### Reports -/

/-- What the server can handle: an upload that is closed, or a deletion. -/
inductive WatchReport
  | write (upload : Upload) (fits : upload.Fits)
  | delete (deletion : Deletion)

namespace WatchReport

def packets : WatchReport → List Packet
  | write upload _ => upload.packets
  | delete deletion => [deletion.pkt]

/-- The packet for which `handle_new_push` is called. -/
def pkt : WatchReport → Packet
  | write upload _ => upload.announcement
  | delete deletion => deletion.pkt

def file_name : WatchReport → FileName
  | write upload _ => upload.file_name
  | delete deletion => deletion.file_name

/-- What the reported file should be afterwards. -/
def left : WatchReport → Option Bytes
  | write upload _ => some upload.content
  | delete _ => none

def Noticed (disk : Directory) : WatchReport → Prop
  | write upload _ => fnv1a (upload.before disk) ≠ fnv1a upload.content
  | delete deletion => (disk deletion.file_name.bytes).isSome = true

instance (disk : Directory) : (report : WatchReport) → Decidable (report.Noticed disk)
  | write upload _ =>
      inferInstanceAs (Decidable (fnv1a (upload.before disk) ≠ fnv1a upload.content))
  | delete deletion =>
      inferInstanceAs (Decidable ((disk deletion.file_name.bytes).isSome = true))

def apply (disk : Directory) : WatchReport → Directory
  | write upload fits =>
      if Noticed disk (write upload fits) then
        upload.cells disk (some upload.content) none
      else
        upload.cells disk (some (upload.before disk)) none
  | delete deletion => Function.update disk deletion.file_name.bytes none

def perform (disk : Directory) (reports : List WatchReport) : Directory :=
  reports.foldl apply disk

/-- The reports that change something, and are therefore pushed. -/
def noticed (disk : Directory) : List WatchReport → List WatchReport
  | [] => []
  | report :: reports =>
      (if report.Noticed disk then [report] else []) ++ noticed (report.apply disk) reports

theorem noticed_sublist (reports : List WatchReport) (disk : Directory) :
    (noticed disk reports).Sublist reports := by
  induction reports generalizing disk with
  | nil => exact List.Sublist.refl _
  | cons report reports ih =>
      rw [noticed]
      split_ifs
      · exact (ih _).cons_cons report
      · exact (ih _).cons report

/-- What a file is if only the last report about it counts. -/
def lastly (name : Bytes) (stored : Option Bytes) (reports : List WatchReport) : Option Bytes :=
  reports.foldl
    (fun stored report => if report.file_name.bytes = name then report.left else stored) stored

/-! ### One report -/

variable {report : WatchReport} {disk replica : Directory} {name : Bytes}

theorem apply_of_ne (notFile : name ≠ report.file_name.bytes)
    (notCopy : name ≠ copyName report.file_name.bytes) : report.apply disk name = disk name := by
  cases report with
  | write upload fits =>
      simp only [apply]
      split_ifs
      · exact writeTo_of_ne _ _ notFile notCopy
      · exact writeTo_of_ne _ _ notFile notCopy
  | delete deletion => exact Function.update_of_ne notFile _ _

theorem apply_file_of_noticed (changes : report.Noticed disk) :
    report.apply disk report.file_name.bytes = report.left := by
  cases report with
  | write upload fits =>
      rw [apply, if_pos changes]
      exact writeTo_file _ _
  | delete deletion => exact Function.update_self ..

theorem apply_file_of_not_noticed (unchanged : ¬report.Noticed disk) :
    (report.apply disk report.file_name.bytes).getD [] =
      (disk report.file_name.bytes).getD [] := by
  cases report with
  | write upload fits =>
      rw [apply, if_neg unchanged, file_name]
      exact congrArg (·.getD []) (writeTo_file _ _)
  | delete deletion =>
      have absent : disk deletion.file_name.bytes = none := by
        simpa [Noticed] using unchanged
      rw [apply, file_name, Function.update_self, absent]

/-- Without a collision, only the report counts for its file. -/
theorem apply_file
    (distinguished : ∀ content, report.left = some content →
      fnv1a ((disk report.file_name.bytes).getD []) = fnv1a content →
        (disk report.file_name.bytes).getD [] = content) :
    report.apply disk report.file_name.bytes = report.left := by
  by_cases changes : report.Noticed disk
  · exact apply_file_of_noticed changes
  · cases report with
    | write upload fits =>
        have same := distinguished _ rfl (not_not.mp changes)
        rw [apply, if_neg changes, file_name, left, ← same]
        exact writeTo_file _ _
    | delete deletion => exact Function.update_self ..

theorem noticed_congr
    (same : (disk report.file_name.bytes).getD [] = (replica report.file_name.bytes).getD [])
    (changes : report.Noticed disk) :
    report.apply replica report.file_name.bytes = report.left := by
  cases report with
  | write upload fits =>
      have alsoChanges : (write upload fits).Noticed replica := by
        have before : upload.before replica = upload.before disk := same.symm
        rw [Noticed, before]
        exact changes
      exact apply_file_of_noticed alsoChanges
  | delete deletion => exact Function.update_self ..

theorem apply_copy_or :
    report.apply disk (copyName report.file_name.bytes) = none ∨
      report.apply disk (copyName report.file_name.bytes) =
        disk (copyName report.file_name.bytes) := by
  cases report with
  | write upload fits =>
      left
      simp only [apply]
      split_ifs
      · exact writeTo_copy _ _
      · exact writeTo_copy _ _
  | delete deletion => exact Or.inr (Function.update_of_ne (copyName_ne_self _) _ _)

theorem apply_copy (stored : disk (copyName report.file_name.bytes) = none) :
    report.apply disk (copyName report.file_name.bytes) = none := by
  rcases apply_copy_or with removed | kept
  · exact removed
  · rw [kept, stored]

/-! ### Replicas -/

/-- No reported file has the name of the copy of another one, and there are no copies. -/
structure Apart (disk : Directory) (reports : List WatchReport) : Prop where
  names : ∀ first ∈ reports, ∀ second ∈ reports,
    first.file_name.bytes ≠ copyName second.file_name.bytes
  copies : ∀ report ∈ reports, disk (copyName report.file_name.bytes) = none

theorem Apart.apply {reports : List WatchReport} (apart : Apart disk (report :: reports)) :
    Apart (report.apply disk) reports where
  names first first_mem second second_mem :=
    apart.names first (List.mem_cons_of_mem _ first_mem) second
      (List.mem_cons_of_mem _ second_mem)
  copies other other_mem := by
    have stored := apart.copies other (List.mem_cons_of_mem _ other_mem)
    by_cases isCopy : copyName other.file_name.bytes = copyName report.file_name.bytes
    · rw [isCopy] at stored ⊢
      exact apply_copy stored
    · have notFile := apart.names report List.mem_cons_self other
        (List.mem_cons_of_mem _ other_mem)
      rw [apply_of_ne notFile.symm isCopy, stored]

/-- Directories that differ in empty files only. -/
def Agree (disk replica : Directory) : Prop :=
  ∀ name, (disk name).getD [] = (replica name).getD []

theorem Agree.noticed (agree : Agree disk replica)
    (stored : disk (copyName report.file_name.bytes) = none) (changes : report.Noticed disk) :
    Agree (report.apply disk) (report.apply replica) := by
  intro name
  by_cases isFile : name = report.file_name.bytes
  · rw [isFile, apply_file_of_noticed changes, noticed_congr (agree _) changes]
  · by_cases isCopy : name = copyName report.file_name.bytes
    · subst isCopy
      rw [apply_copy stored]
      have empty := agree (copyName report.file_name.bytes)
      rw [stored] at empty
      rcases @apply_copy_or report replica with removed | kept
      · rw [removed]
      · rw [kept, empty]
    · rw [apply_of_ne isFile isCopy, apply_of_ne isFile isCopy]
      exact agree name

theorem Agree.not_noticed (agree : Agree disk replica)
    (stored : disk (copyName report.file_name.bytes) = none) (unchanged : ¬report.Noticed disk) :
    Agree (report.apply disk) replica := by
  intro name
  by_cases isFile : name = report.file_name.bytes
  · rw [isFile, apply_file_of_not_noticed unchanged, agree]
  · by_cases isCopy : name = copyName report.file_name.bytes
    · rw [isCopy, apply_copy stored, ← agree, stored]
    · rw [apply_of_ne isFile isCopy, agree]

/-- A replica on which just the pushed reports are performed keeps agreeing. -/
theorem agree_perform_noticed (reports : List WatchReport) (agree : Agree disk replica)
    (apart : Apart disk reports) :
    Agree (perform disk reports) (perform replica (noticed disk reports)) := by
  induction reports generalizing disk replica with
  | nil => exact agree
  | cons report reports ih =>
      have stored := apart.copies report List.mem_cons_self
      rw [noticed]
      split_ifs with changes
      · exact ih (agree.noticed stored changes) apart.apply
      · exact ih (agree.not_noticed stored changes) apart.apply

/-- Without collisions, a file that no copy is made under is what the last report left. -/
theorem perform_lastly (reports : List WatchReport) {contents : Set Bytes}
    (distinguished : Set.InjOn fnv1a contents) (stored : (disk name).getD [] ∈ contents)
    (uploaded : ∀ report ∈ reports, report.file_name.bytes = name →
      report.left.getD [] ∈ contents)
    (noCopy : ∀ report ∈ reports, name ≠ copyName report.file_name.bytes) :
    perform disk reports name = lastly name (disk name) reports := by
  induction reports generalizing disk with
  | nil => rfl
  | cons report reports ih =>
      have applied : report.apply disk name =
          if report.file_name.bytes = name then report.left else disk name := by
        split_ifs with isFile
        · rw [← isFile]
          apply apply_file
          intro content content_left same
          have content_mem := uploaded report List.mem_cons_self isFile
          rw [content_left, Option.getD_some] at content_mem
          rw [isFile] at same ⊢
          exact distinguished stored content_mem same
        · exact apply_of_ne (Ne.symm isFile) (noCopy report List.mem_cons_self)
      have keeps : (report.apply disk name).getD [] ∈ contents := by
        rw [applied]
        split_ifs with isFile
        · exact uploaded report List.mem_cons_self isFile
        · exact stored
      have rest := ih keeps
        (fun other other_mem => uploaded other (List.mem_cons_of_mem _ other_mem))
        (fun other other_mem => noCopy other (List.mem_cons_of_mem _ other_mem))
      rw [perform, List.foldl_cons, lastly, List.foldl_cons, ← applied]
      exact rest

end WatchReport

/-! ### The thread -/

section

variable {handle_new_push : Packet → Directory → Except Exception Unit}
  (returns : ∀ pkt disk, handle_new_push pkt disk = .ok ())
include returns

theorem push_of_returns (watcher : FileWatcher) (pkt : Packet) :
    watcher.push handle_new_push pkt = .idle watcher.disk (watcher.pushed ++ [pkt]) := by
  rw [FileWatcher.push, returns]

theorem fileWatcherThread_report (report : WatchReport) (disk : Directory)
    (pushed : List Packet) :
    fileWatcherThread handle_new_push (.idle disk pushed) report.packets =
      .idle (report.apply disk)
        (pushed ++ (if report.Noticed disk then [report] else []).map WatchReport.pkt) := by
  cases report with
  | write upload fits =>
      rw [WatchReport.packets, fileWatcherThread_upload handle_new_push upload disk pushed fits,
        push_of_returns returns, WatchReport.apply, fnvDiffers_eq_decide]
      by_cases changes : (WatchReport.write upload fits).Noticed disk
      · have differs : decide (fnv1a (upload.before disk) ≠ fnv1a upload.content) = true :=
          decide_eq_true changes
        rw [if_pos changes, if_pos changes, if_pos differs]
        rfl
      · have same : ¬decide (fnv1a (upload.before disk) ≠ fnv1a upload.content) = true :=
          mt of_decide_eq_true changes
        rw [if_neg changes, if_neg changes, if_neg same, List.map_nil, List.append_nil]
  | delete deletion =>
      have received := receive_deletion handle_new_push disk pushed deletion
      rw [push_of_returns returns] at received
      rw [WatchReport.packets, fileWatcherThread, List.foldl_cons, List.foldl_nil, received,
        WatchReport.apply]
      by_cases found : (WatchReport.delete deletion).Noticed disk
      · have isSome : (disk deletion.file_name.bytes).isSome = true := found
        rw [if_pos isSome, if_pos found]
        rfl
      · have absent : disk deletion.file_name.bytes = none := by
          simpa [WatchReport.Noticed] using found
        have notSome : ¬(disk deletion.file_name.bytes).isSome = true := found
        rw [if_neg notSome, if_neg found, List.map_nil, List.append_nil,
          Function.update_eq_self_iff.mpr absent.symm]

/-- The thread performs one report after the other, if nothing that it pushes fails. -/
theorem fileWatcherThread_performs (reports : List WatchReport) (disk : Directory)
    (pushed : List Packet) :
    fileWatcherThread handle_new_push (.idle disk pushed) (reports.flatMap WatchReport.packets) =
      .idle (WatchReport.perform disk reports)
        (pushed ++ (WatchReport.noticed disk reports).map WatchReport.pkt) := by
  induction reports generalizing disk pushed with
  | nil => exact congrArg (FileWatcher.idle disk) (List.append_nil pushed).symm
  | cons report reports ih =>
      rw [List.flatMap_cons, fileWatcherThread_append, fileWatcherThread_report returns, ih,
        WatchReport.noticed, List.map_append, List.append_assoc]
      rfl

/-- The pushed reports suffice: a replica on which just these are performed differs from the
directory of the thread in empty files only.  And a file is what the last report about it has left,
if the hash tells its contents apart and no copy has its name. -/
theorem fileWatcherThread_reports (reports : List WatchReport) (disk : Directory) :
    ∃ after pushes,
      fileWatcherThread handle_new_push (.idle disk [])
          (reports.flatMap WatchReport.packets) = .idle after (pushes.map WatchReport.pkt) ∧
        pushes.Sublist reports ∧
        (WatchReport.Apart disk reports → ∀ replica, WatchReport.Agree disk replica →
          WatchReport.Agree after (WatchReport.perform replica pushes)) ∧
        ∀ name, ∀ contents : Set Bytes, Set.InjOn fnv1a contents →
          (disk name).getD [] ∈ contents →
          (∀ report ∈ reports, report.file_name.bytes = name →
            report.left.getD [] ∈ contents) →
          (∀ report ∈ reports, name ≠ copyName report.file_name.bytes) →
            after name = WatchReport.lastly name (disk name) reports := by
  refine ⟨_, WatchReport.noticed disk reports, fileWatcherThread_performs returns reports disk [],
    WatchReport.noticed_sublist reports disk, ?_, ?_⟩
  · intro apart replica agree
    exact WatchReport.agree_perform_noticed reports agree apart
  · intro name contents distinguished stored uploaded noCopy
    exact WatchReport.perform_lastly reports distinguished stored uploaded noCopy

end

theorem isFileName_f : IsFileName (ascii "f") := by
  decide

def fileF : FileName :=
  ⟨ascii "f", isFileName_f⟩

theorem unclosed_inParts : ∀ chunk ∈ [ascii "a", ascii "b"],
    (Packet.build t_DATA.value 0 chunk).content ≠ ascii "END_OF_FILE" := by
  decide

/-- A file is deleted and uploaded twice, with the same content. -/
def deletedAndTwice : List WatchReport :=
  [.delete (.ofName fileF),
    .write (.ofChunks fileF [ascii "a", ascii "b"] unclosed_inParts) (by decide),
    .write (.ofChunks fileF [ascii "ab"] (by decide)) (by decide)]

theorem deletedAndTwice_apart : WatchReport.Apart (fun _ => none) deletedAndTwice where
  names := by decide
  copies _ _ := rfl

theorem fileWatcherThread_reports_deletedAndTwice :
    ∃ after pushes,
      fileWatcherThread (fun _ _ => .ok ()) (.idle (fun _ => none) [])
          (deletedAndTwice.flatMap WatchReport.packets) =
        .idle after (pushes.map WatchReport.pkt) ∧
      WatchReport.Agree after (WatchReport.perform (fun _ => none) pushes) ∧
      after (ascii "f") = some (ascii "ab") := by
  rcases fileWatcherThread_reports (fun _ _ => rfl) deletedAndTwice (fun _ => none) with
    ⟨after, pushes, performed, -, agree, last⟩
  refine ⟨after, pushes, performed, agree deletedAndTwice_apart _ fun _ => rfl, ?_⟩
  have distinguished : Set.InjOn fnv1a {[], ascii "ab"} := by
    rw [Set.injOn_pair]
    simp only [fnv1a_eq_foldl]
    exact fun same => absurd same (by decide)
  rw [last (ascii "f") _ distinguished (Or.inl rfl) (by decide) (by decide)]
  decide

end Device

namespace Client.InotifyRecord

open NetworkManager PacketType

/-- The deletion that a record is reported as. -/
def deletion (record : InotifyRecord) : Option Device.WatchReport :=
  match record.name with
  | none => none
  | some (file_name, _) =>
      if record.mask &&& IN_DELETE ≠ 0 then some (.delete (.ofName file_name))
      else none

def IsWrite (record : InotifyRecord) : Prop :=
  record.name.isSome = true ∧ record.mask &&& IN_CLOSE_WRITE ≠ 0

theorem packets_of_not_isWrite {record : InotifyRecord} (quiet : ¬record.IsWrite)
    (disk : Directory) :
    record.packets disk = record.deletion.toList.flatMap Device.WatchReport.packets := by
  cases named : record.name with
  | none => simp [packets, deletion, named]
  | some field =>
      have noWrite : ¬record.mask &&& IN_CLOSE_WRITE ≠ 0 := by
        intro write
        exact quiet ⟨by rw [named]; rfl, write⟩
      simp only [packets, deletion, named, if_neg noWrite]
      split_ifs <;> rfl

/-- What is sent for records, each with the directory when it is handled. -/
def sent (session : List (InotifyRecord × Directory)) : List Packet :=
  session.flatMap fun entry => entry.1.packets entry.2

def deletions (session : List (InotifyRecord × Directory)) : List Device.WatchReport :=
  session.flatMap fun entry => entry.1.deletion.toList

theorem sent_of_not_isWrite {session : List (InotifyRecord × Directory)}
    (quiet : ∀ entry ∈ session, ¬entry.1.IsWrite) :
    sent session = (deletions session).flatMap Device.WatchReport.packets := by
  rw [sent, deletions, List.flatMap_assoc]
  apply List.flatMap_congr
  intro entry entry_mem
  exact packets_of_not_isWrite (quiet entry entry_mem) entry.2

/-- In a session of a client, the server performs the deletions before the first write.  All that
is sent after the announcement of this write becomes the content of the copy, and nothing else
changes or is pushed. -/
theorem fileWatcherThread_sent
    {handle_new_push : Packet → Directory → Except Exception Unit}
    (returns : ∀ pkt disk, handle_new_push pkt disk = .ok ()) (disk : Directory)
    {before after : List (InotifyRecord × Directory)}
    (quiet : ∀ entry ∈ before, ¬entry.1.IsWrite) {record : InotifyRecord} {file_name : FileName}
    {padding : ℕ+} (write : record.mask &&& IN_CLOSE_WRITE ≠ 0)
    (named : record.name = some (file_name, padding))
    (fits : (copyName file_name.bytes).length ≤ NAME_MAX) (sync_dir : Directory)
    (unspelled : ∀ pkt ∈ (sendFileInChunks file_name.bytes MAX_PACKET_SIZE sync_dir).packets ++
      sent after, pkt.content ≠ ascii "END_OF_FILE") :
    let performed := Device.WatchReport.perform disk (deletions before)
    let received := (sendFileInChunks file_name.bytes MAX_PACKET_SIZE sync_dir).packets ++
      sent after
    Device.fileWatcherThread handle_new_push (.idle disk [])
        (sent (before ++ (record, sync_dir) :: after)) =
      { disk := Device.Cells.writeTo file_name.bytes performed
          { file := some ((performed file_name.bytes).getD [])
            copy := some (received.map Packet.content).flatten }
        mode := .buildFile (Packet.build t_WRITE.value 1 file_name.bytes) file_name.bytes
        pushed := (Device.WatchReport.noticed disk (deletions before)).map
          Device.WatchReport.pkt } := by
  intro performed received
  have announced : sent (before ++ (record, sync_dir) :: after) =
      (deletions before).flatMap Device.WatchReport.packets ++
        Packet.build t_WRITE.value 1 file_name.bytes :: received := by
    rw [← sent_of_not_isWrite quiet]
    simp [sent, received, packets, named, write]
  rw [announced, Device.fileWatcherThread_append, Device.fileWatcherThread_performs returns]
  exact Device.fileWatcherThread_announced handle_new_push
    (Device.Upload.ofChunks file_name [] (by simp)) performed _ fits unspelled

/-- The records of a file `g` that is deleted and a file `f` that is written. -/
def deletedRecord : InotifyRecord :=
  { wd := 1, mask := IN_DELETE, cookie := 0, name := some (Device.fileG, 1),
    fits := by decide }

def writtenRecord : InotifyRecord :=
  { wd := 1, mask := IN_CLOSE_WRITE, cookie := 0, name := some (Device.fileF, 1),
    fits := by decide }

def onlyF : Directory :=
  Function.update (fun _ => none) Device.fileF.bytes (some (ascii "y"))

theorem fileWatcherThread_sent_writtenRecord :
    (Device.fileWatcherThread (fun _ _ => .ok ()) (.idle (fun _ => some (ascii "x")) [])
      (sent ([(deletedRecord, onlyF)] ++ (writtenRecord, onlyF) ::
        [(deletedRecord, onlyF)]))).disk (copyName Device.fileF.bytes) = some (ascii "yxxxg") := by
  have chunked : (sendFileInChunks Device.fileF.bytes MAX_PACKET_SIZE onlyF).packets =
      transfer 0 [ascii "y"] := by
    rw [onlyF, Device.packets_sendFileInChunks (Function.update_self ..),
      chunks_of_length_le (by decide) (by decide)]
  have quiet : ∀ entry ∈ [(deletedRecord, onlyF)], ¬entry.1.IsWrite := by
    intro entry entry_mem
    rw [List.mem_singleton.mp entry_mem]
    exact fun writes => writes.2 (by decide)
  have write : writtenRecord.mask &&& IN_CLOSE_WRITE ≠ 0 := by decide
  have unspelled : ∀ pkt ∈ (sendFileInChunks Device.fileF.bytes MAX_PACKET_SIZE onlyF).packets ++
      sent [(deletedRecord, onlyF)], pkt.content ≠ ascii "END_OF_FILE" := by
    rw [chunked]
    decide
  have jammed := fileWatcherThread_sent (fun _ _ => rfl) (fun _ => some (ascii "x")) quiet write rfl
    (by decide) onlyF unspelled
  rw [chunked] at jammed
  rw [jammed]
  simp only [Device.writeTo_copy]
  decide

end Client.InotifyRecord

end SyncDir
