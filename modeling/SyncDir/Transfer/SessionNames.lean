import SyncDir.Library.Footprint
import SyncDir.Security.Requests
import SyncDir.Transfer.BackupSession

/-!
# The files of a session

A session of a watcher connection concerns the files that its reports name, and
the copies of those that are uploaded.  The thread comes to no other names, and
these are the footprint of what it does to a directory.
-/

namespace SyncDir

open PacketType Thread Device

variable {own : Set Bytes}

namespace Device.WatchReport

/-- The names of the files that are changed for a report. -/
def names : WatchReport → List Bytes
  | write upload _ => [upload.file_name.bytes, copyName upload.file_name.bytes]
  | delete deletion => [deletion.file_name.bytes]

theorem isFileName_of_mem_names {report : WatchReport} {name : Bytes}
    (name_mem : name ∈ report.names) : IsFileName name := by
  cases report with
  | write upload fits =>
      rcases List.mem_cons.mp name_mem with rfl | isCopy
      · exact upload.file_name.valid
      · rw [List.mem_singleton.mp isCopy]
        exact isFileName_copyName fits
  | delete deletion =>
      rw [List.mem_singleton.mp name_mem]
      exact deletion.file_name.valid

/-- The names of all files that are changed in a session. -/
def touched (reports : List WatchReport) : Set Bytes :=
  {name | ∃ report ∈ reports, name ∈ report.names}

theorem footprint_writeTo {file_name : Bytes} (file_mem : file_name ∈ own)
    (copy_mem : copyName file_name ∈ own) (file : Option Bytes → Option Bytes)
    (copy : Option Bytes) :
    Footprint own fun disk =>
      ((), Cells.writeTo file_name disk { file := file (disk file_name), copy }) := by
  have writes : Footprint own fun disk : Directory =>
      ((), Function.update disk file_name (file (disk file_name))) :=
    .update file_mem (fun _ => ()) file
  exact writes.andThen fun _ => .update copy_mem (fun _ => ()) fun _ => copy

theorem footprint_apply (report : WatchReport) :
    Footprint {name | name ∈ report.names} fun disk => ((), report.apply disk) := by
  cases report with
  | delete deletion =>
      have file_mem : deletion.file_name.bytes ∈ {name | name ∈ (delete deletion).names} :=
        List.mem_cons_self
      exact .update file_mem (fun _ => ()) fun _ => none
  | write upload fits =>
      have file_mem : upload.file_name.bytes ∈ {name | name ∈ (write upload fits).names} :=
        List.mem_cons_self
      have copy_mem : copyName upload.file_name.bytes ∈
          {name | name ∈ (write upload fits).names} :=
        List.mem_cons_of_mem _ List.mem_cons_self
      have applied (disk : Directory) : (write upload fits).apply disk =
          upload.cells disk (some (if (write upload fits).Noticed disk then upload.content
            else upload.before disk)) none := by
        rw [apply]
        split_ifs <;> rfl
      simp only [applied]
      exact footprint_writeTo file_mem copy_mem
        (fun old => some (if FileManager.fnv1a (old.getD []) ≠ FileManager.fnv1a upload.content
          then upload.content else old.getD [])) none

theorem footprint_perform (reports : List WatchReport) :
    Footprint (touched reports) fun disk => ((), perform disk reports) := by
  induction reports with
  | nil => exact .constant ()
  | cons report reports ih =>
      have first : Footprint (touched (report :: reports)) fun disk => ((), report.apply disk) :=
        report.footprint_apply.mono fun name name_mem => ⟨report, List.mem_cons_self, name_mem⟩
      have rest (_ : Unit) :
          Footprint (touched (report :: reports)) fun disk => ((), perform disk reports) := by
        apply ih.mono
        rintro name ⟨other, other_mem, name_mem⟩
        exact ⟨other, List.mem_cons_of_mem _ other_mem, name_mem⟩
      exact first.andThen rest

end Device.WatchReport

namespace Thread

section Names

variable {property : Bytes → Prop} {rest : List Packet}

theorem along_buildFile {announced : Announced} {data : List Packet} {closing : Packet}
    (unclosed : ∀ pkt ∈ data, pkt.content ≠ ascii "END_OF_FILE")
    (closes : closing.content = ascii "END_OF_FILE") (file : property announced.file_name)
    (copy : property (copyName announced.file_name))
    (later : watched.Along (fun mode pkt => ∀ name ∈ watchedNames mode pkt, property name)
      .awaiting rest) :
    watched.Along (fun mode pkt => ∀ name ∈ watchedNames mode pkt, property name)
      (.buildFile announced) (data ++ closing :: rest) := by
  induction data with
  | nil =>
      refine ⟨?_, ?_⟩
      · simp [watchedNames, closes, file, copy]
      · intro _
        simpa [watched, closes] using later
  | cons pkt data ih =>
      have goesOn := unclosed pkt List.mem_cons_self
      refine ⟨?_, ?_⟩
      · simp [watchedNames, goesOn, copy]
      · intro _
        simpa [watched, goesOn] using
          ih fun other other_mem => unclosed other (List.mem_cons_of_mem _ other_mem)

/-- A session comes to the names of its reports. -/
theorem along_report (report : WatchReport) (names : ∀ name ∈ report.names, property name)
    (later : watched.Along (fun mode pkt => ∀ name ∈ watchedNames mode pkt, property name)
      .awaiting rest) :
    watched.Along (fun mode pkt => ∀ name ∈ watchedNames mode pkt, property name) .awaiting
      (report.packets ++ rest) := by
  cases report with
  | write upload fits =>
      let announced : Announced :=
        { pkt := upload.announcement, file_name := upload.file_name.bytes, named := upload.named }
      have file : property announced.file_name := names _ List.mem_cons_self
      have copy : property (copyName announced.file_name) :=
        names _ (List.mem_cons_of_mem _ List.mem_cons_self)
      have split : (WatchReport.write upload fits).packets ++ rest =
          upload.announcement :: (upload.data ++ upload.closing :: rest) := by
        simp [WatchReport.packets, Upload.packets]
      rw [split]
      refine ⟨?_, ?_⟩
      · simpa [watchedNames, upload.named, upload.write] using ⟨file, copy⟩
      · intro _
        have next : watched.next .awaiting upload.announcement = .buildFile announced := by
          simp [announced, watched, announcedBy_of_ok upload.named, upload.write]
        rw [next]
        exact along_buildFile upload.unclosed upload.closes file copy later
  | delete deletion =>
      have file : property deletion.file_name.bytes := names _ List.mem_cons_self
      have notWrite : deletion.pkt.type ≠ t_WRITE.value := by
        rw [deletion.delete]
        decide
      refine ⟨?_, ?_⟩
      · simp [watchedNames, deletion.named, deletion.delete, file]
      · intro _
        have next : watched.next .awaiting deletion.pkt = .awaiting := by
          simp [watched, announcedBy_of_ok deletion.named, notWrite]
        rw [next]
        exact later

theorem everyName_reports (backup_peers : ℕ) (tail : NetworkManager.Tail)
    {reports : List WatchReport}
    (names : ∀ name ∈ WatchReport.touched reports, property name) :
    (DeviceThread.fileWatcher backup_peers tail
      (reports.flatMap WatchReport.packets)).EveryName property := by
  induction reports with
  | nil => trivial
  | cons report reports ih =>
      rw [DeviceThread.EveryName, List.flatMap_cons]
      apply along_report report
      · intro name name_mem
        exact names name ⟨report, List.mem_cons_self, name_mem⟩
      · apply ih
        rintro name ⟨other, other_mem, name_mem⟩
        exact names name ⟨other, List.mem_cons_of_mem _ other_mem, name_mem⟩

end Names

end Thread

end SyncDir
