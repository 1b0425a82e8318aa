import SyncDir.Security.Footprints
import SyncDir.Security.Isolation
import SyncDir.Server.ThreadCalls
import SyncDir.Transfer.SessionNames

/-!
# Sessions at the same time

The threads of all devices of a user work on the same directory, one system call
at a time.  What a call does to the files of the directory has the names that
it is given for its footprint, so sessions about different files do not get in
each other's way: every one of them ends like alone.  A call need not return in
the turn in which it is made, as `sendPushTo` does not while the `push_lock` of
another device is held.
-/

namespace SyncDir

open FileTree Routine PacketType Thread Device

variable {cwd : Path Bytes} {getFiles : Directory → Bytes} {base_directory username : Bytes}
  {own : Set Bytes} {host alone : Host} {disk : Directory} {systemCall : SystemCall}

/-! ### A thread beside others -/

/-- The thread changes none of the files, and only regular files. -/
def DeviceThread.KeepsOff (own : Set Bytes) : DeviceThread → Prop
  | fileWatcher backup_peers tail packets =>
      (fileWatcher backup_peers tail packets).EveryName fun name => IsFileName name ∧ name ∉ own
  | command _ _ _ | push _ _ => True

section Beside

variable (cwd base_directory own) in
/-- Hosts on which the files with these names are the same. -/
structure Alike (host alone : Host) : Prop where
  files : ∃ disk other, Holds cwd base_directory host disk ∧
    Holds cwd base_directory alone other ∧ Set.EqOn disk other own
  connected : host.Connected
  aloneConnected : alone.Connected

variable (cwd base_directory own) in
structure KeepsTo (systemCall : SystemCall) : Prop where
  leads : OnPaths (LeadsTo cwd base_directory own) systemCall
  steady : systemCall.Steady
  toBackups : systemCall.ToBackups

variable (cwd base_directory own) in
structure KeepsOff (systemCall : SystemCall) : Prop where
  leads : systemCall.Reads ∨ OnPaths (LeadsTo cwd base_directory ownᶜ) systemCall
  steady : systemCall.Steady

theorem Alike.performCall_silent (alike : Alike cwd base_directory own host alone)
    (silent : systemCall.Silent) (steady : systemCall.Steady)
    (leads : OnPaths (LeadsTo cwd base_directory own) systemCall) :
    (performCall cwd getFiles host systemCall).1 = (performCall cwd getFiles alone systemCall).1 ∧
      Alike cwd base_directory own (performCall cwd getFiles host systemCall).2
        (performCall cwd getFiles alone systemCall).2 := by
  rcases alike with ⟨⟨disk, other, holds, aloneHolds, same⟩, connected, aloneConnected⟩
  rcases exists_footprint getFiles silent leads with ⟨operation, acts, footprint⟩
  rcases acts host disk holds with ⟨answer, left⟩
  rcases acts alone other aloneHolds with ⟨aloneAnswer, aloneLeft⟩
  rcases footprint.agrees disk other same with ⟨sameAnswer, sameLeft⟩
  refine ⟨?_, ⟨_, _, left, aloneLeft, sameLeft⟩, connected.performCall steady,
    aloneConnected.performCall steady⟩
  rw [answer, aloneAnswer, sameAnswer]

/-- A call of the thread has the same answer on both hosts, and does the same to its files. -/
theorem Alike.performCall_own (alike : Alike cwd base_directory own host alone)
    (keepsTo : KeepsTo cwd base_directory own systemCall) :
    (performCall cwd getFiles host systemCall).1 = (performCall cwd getFiles alone systemCall).1 ∧
      Alike cwd base_directory own (performCall cwd getFiles host systemCall).2
        (performCall cwd getFiles alone systemCall).2 := by
  rcases keepsTo with ⟨leads, steady, toBackups⟩
  cases systemCall with
  | openFile | create | append | remove | rename | list | sendPushTo =>
      exact alike.performCall_silent trivial steady leads
  | transmit channel action =>
      rcases alike with ⟨⟨disk, other, holds, aloneHolds, same⟩, connected, aloneConnected⟩
      refine ⟨?_, ⟨disk, other, holds.of_files rfl, aloneHolds.of_files rfl, same⟩,
        connected.performCall steady, aloneConnected.performCall steady⟩
      rcases steady with ⟨result, sent, sends⟩
      cases channel with
      | command | push => exact toBackups.elim
      | backup index =>
          simp only [performCall]
          rw [(connected index).eq, (aloneConnected index).eq, sends, sends]

/-- A call of another thread does nothing to these files. -/
theorem Alike.performCall_other (alike : Alike cwd base_directory own host alone)
    (keepsOff : KeepsOff cwd base_directory own systemCall) :
    Alike cwd base_directory own (performCall cwd getFiles host systemCall).2 alone := by
  rcases keepsOff with ⟨leads, steady⟩
  rcases alike with ⟨⟨disk, other, holds, aloneHolds, same⟩, connected, aloneConnected⟩
  have stillConnected : (performCall cwd getFiles host systemCall).2.Connected :=
    connected.performCall steady
  by_cases reads : systemCall.Reads
  · exact ⟨⟨disk, other, holds.of_files (files_performCall reads), aloneHolds, same⟩,
      stillConnected, aloneConnected⟩
  · have silent : systemCall.Silent := by
      cases systemCall with
      | transmit channel action => exact absurd trivial reads
      | openFile | create | append | remove | rename | list | sendPushTo => trivial
    rcases exists_footprint getFiles silent (leads.resolve_left reads) with
      ⟨operation, acts, footprint⟩
    have kept := (footprint.eqOn_of_disjoint disjoint_compl_left disk).trans same
    exact ⟨⟨_, other, (acts host disk holds).2, aloneHolds, kept⟩, stillConnected,
      aloneConnected⟩

theorem Alike.contentOn_eq (alike : Alike cwd base_directory own host alone) {file_name : FileName}
    (name_mem : file_name.bytes ∈ own) :
    contentOn cwd base_directory host file_name = contentOn cwd base_directory alone file_name := by
  rcases alike.files with ⟨disk, other, holds, aloneHolds, same⟩
  rw [contentOn_of_holds holds, same name_mem, contentOn_of_holds aloneHolds]

end Beside

/-! ### Sessions -/

/-- What a thread does to the files: a command or a push thread does nothing. -/
inductive Reporting : DeviceThread → List WatchReport → Prop
  | fileWatcher (backup_peers : ℕ) (tail : NetworkManager.Tail) (reports : List WatchReport) :
      Reporting (.fileWatcher backup_peers tail (reports.flatMap WatchReport.packets)) reports
  | command (device : ℕ) (tail : NetworkManager.Tail) (packets : List Packet) :
      Reporting (.command device tail packets) []
  | push (device : ℕ) (pushes : List PushCommand) : Reporting (.push device pushes) []

theorem Reporting.keepsOff {thread : DeviceThread} {reports : List WatchReport}
    (reporting : Reporting thread reports) (disjoint : Disjoint (WatchReport.touched reports) own) :
    thread.KeepsOff own := by
  cases reporting with
  | command | push => trivial
  | fileWatcher backup_peers tail _ =>
      have names : ∀ name ∈ WatchReport.touched reports, IsFileName name ∧ name ∉ own := by
        intro name name_mem
        refine ⟨?_, Set.disjoint_left.mp disjoint name_mem⟩
        rcases name_mem with ⟨report, -, name_mem⟩
        exact WatchReport.isFileName_of_mem_names name_mem
      exact everyName_reports backup_peers tail names

theorem Reporting.watches {thread : DeviceThread} {reports : List WatchReport}
    (reporting : Reporting thread reports) (reports_ne : reports ≠ []) :
    ∃ backup_peers tail,
      thread = .fileWatcher backup_peers tail (reports.flatMap WatchReport.packets) := by
  cases reporting with
  | command | push => exact absurd rfl reports_ne
  | fileWatcher backup_peers tail _ => exact ⟨backup_peers, tail, rfl⟩

/-- Two devices, each of which uploads a file of its own. -/
def uploadedBy (device : Bool) : FileName :=
  if device then fileF else fileG

def contentBy (device : Bool) : Bytes :=
  if device then ascii "a" else ascii "b"

theorem unclosed_contentBy (device : Bool) : ∀ chunk ∈ [contentBy device],
    (Packet.build t_DATA.value 0 chunk).content ≠ ascii "END_OF_FILE" := by
  cases device <;> decide

theorem fits_uploadedBy (device : Bool) :
    (Upload.ofChunks (uploadedBy device) [contentBy device] (unclosed_contentBy device)).Fits := by
  cases device <;> decide

def uploadOf (device : Bool) : WatchReport :=
  .write (.ofChunks (uploadedBy device) [contentBy device] (unclosed_contentBy device))
    (fits_uploadedBy device)

def uploadsOf (device : Bool) : List WatchReport :=
  [uploadOf device]

def uploading (device : Bool) : DeviceThread :=
  .fileWatcher 0 .closed ((uploadsOf device).flatMap WatchReport.packets)

theorem disjoint_uploadsOf : Pairwise fun first second =>
    Disjoint (WatchReport.touched (uploadsOf first)) (WatchReport.touched (uploadsOf second)) := by
  have apart : ∀ first second, first ≠ second →
      ∀ name ∈ (uploadsOf first).flatMap WatchReport.names,
        name ∉ (uploadsOf second).flatMap WatchReport.names := by decide
  intro first second different
  rw [Set.disjoint_left]
  intro name name_mem also
  exact apart first second different name (List.mem_flatMap.mpr name_mem)
    (List.mem_flatMap.mpr also)

/-- The number of calls that an upload needs alone. -/
def callsOf (device : Bool) : ℕ :=
  Resumption.steps (performCall [] fun _ => []) (newHost directoryOfAna)
    ((uploading device).program (ascii "ana"))

/-- One device has uploaded its file, and waits as the `push_lock` of another one is held. -/
def waitingAtLock : List (Resumption.Turn Bool SystemCall) :=
  List.replicate (callsOf false - 1) (.prompt false) ++
    [{ thread := false
       waits
        | .sendPushTo _ _ => true
        | _ => false }]

section Sessions

variable {Device : Type*} [DecidableEq Device] {threads : Device → DeviceThread} {device : Device}
  {backup_peers : ℕ} {tail : NetworkManager.Tail} {reports : List WatchReport}

/-- What the thread of a session may perform, and what the others may. -/
def SideBySide (cwd : Path Bytes) (base_directory : Bytes) (own : Set Bytes) (device : Device)
    (thread : Device) (systemCall : SystemCall) : Prop :=
  if thread = device then KeepsTo cwd base_directory own systemCall
  else KeepsOff cwd base_directory own systemCall

theorem secluded_of_sideBySide :
    Resumption.Threads.Secluded (performCall cwd getFiles)
      (SideBySide cwd base_directory own device) (Alike cwd base_directory own) device where
  follows host alone systemCall permitted alike := by
    rw [SideBySide, if_pos rfl] at permitted
    exact alike.performCall_own permitted
  ignores host alone thread systemCall different permitted alike := by
    rw [SideBySide, if_neg different] at permitted
    exact alike.performCall_other permitted

/-- The calls of a file watcher thread that comes to regular files only. -/
theorem performs_watcher {packets : List Packet} (names : (DeviceThread.fileWatcher backup_peers
      tail packets).EveryName fun name => IsFileName name ∧ name ∈ own) :
    (fileWatcherThread username backup_peers tail packets).Performs
      (KeepsTo cwd (directoryOf username) own) := by
  have leads : (DeviceThread.fileWatcher backup_peers tail packets).EveryName fun name =>
      LeadsTo cwd (directoryOf username) own (pathOf (directoryOf username) name) :=
    names.mono fun mode pkt proper name name_mem =>
      leadsTo_pathOf (proper name name_mem).1 (proper name name_mem).2
  have onPaths := (DeviceThread.performs_program_iff (positional_leadsTo username) _).mpr leads
  have sends : (fileWatcherThread username backup_peers tail packets).Performs
      fun systemCall => systemCall.Steady ∧ systemCall.ToBackups :=
    performs_loop (performs_handleWatched backup_peers) _ _
  exact (onPaths.and sends).mono fun systemCall both => ⟨both.1, both.2.1, both.2.2⟩

theorem DeviceThread.performs_keepsOff {thread : DeviceThread} (keepsOff : thread.KeepsOff own) :
    (thread.program username).Performs (SyncDir.KeepsOff cwd (directoryOf username) own) := by
  have ofReads {program : Program} (reads : program.Performs
      fun systemCall => systemCall.Steady ∧ systemCall.Reads) :
      program.Performs (SyncDir.KeepsOff cwd (directoryOf username) own) :=
    reads.mono fun systemCall both => ⟨Or.inl both.2, both.1⟩
  cases thread with
  | command number tail packets =>
      exact ofReads (performs_loop (fun _ => performs_handleCommand number) _ _)
  | push number pushes => exact ofReads (performs_loop (fun _ => performs_handlePush number) _ _)
  | fileWatcher peers tail packets =>
      have performs : (fileWatcherThread username peers tail packets).Performs
          (KeepsTo cwd (directoryOf username) ownᶜ) := performs_watcher keepsOff
      exact performs.mono fun systemCall keepsTo => ⟨Or.inr keepsTo.leads, keepsTo.steady⟩

variable (watches : threads device = .fileWatcher backup_peers tail
    (reports.flatMap WatchReport.packets))
  (others : ∀ other, other ≠ device → (threads other).KeepsOff (WatchReport.touched reports))
include watches others

theorem keeping_session (cwd : Path Bytes) (username : Bytes) (host : Host) :
    (serving username threads host).Keeping
      (SideBySide cwd (directoryOf username) (WatchReport.touched reports) device) := by
  intro thread
  change ((threads thread).program username).Performs _
  by_cases same : thread = device
  · subst thread
    rw [watches]
    have names : ∀ name ∈ WatchReport.touched reports,
        IsFileName name ∧ name ∈ WatchReport.touched reports := by
      rintro name ⟨report, report_mem, name_mem⟩
      exact ⟨WatchReport.isFileName_of_mem_names name_mem, report, report_mem, name_mem⟩
    have performs : (fileWatcherThread username backup_peers tail
        (reports.flatMap WatchReport.packets)).Performs
          (KeepsTo cwd (directoryOf username) (WatchReport.touched reports)) :=
      performs_watcher (everyName_reports backup_peers tail names)
    exact performs.mono fun systemCall keepsTo => by rwa [SideBySide, if_pos rfl]
  · have performs : ((threads thread).program username).Performs
        (KeepsOff cwd (directoryOf username) (WatchReport.touched reports)) :=
      DeviceThread.performs_keepsOff (others thread same)
    exact performs.mono fun systemCall keepsOff => by rwa [SideBySide, if_neg same]

theorem beside (holds : Holds cwd (directoryOf username) host disk) (connected : host.Connected)
    (getFiles : Directory → Bytes) (schedule : List Device) :
    let system := (serving username threads host).interleave (performCall cwd getFiles) schedule
    let turns := Resumption.steps (performCall cwd getFiles) host
      ((threads device).program username)
    ((∃ result, system.threads device = .done result) ↔ turns ≤ schedule.count device) ∧
      (turns ≤ schedule.count device → system.threads device = .done tail.threadEnd ∧
        ∀ file_name : FileName, file_name.bytes ∈ WatchReport.touched reports →
          contentOn cwd (directoryOf username) system.state file_name =
            WatchReport.perform disk reports file_name.bytes) := by
  intro system turns
  have keeping := keeping_session watches others cwd username host
  have start : Alike cwd (directoryOf username) (WatchReport.touched reports) host host :=
    ⟨⟨disk, disk, holds, holds, Set.eqOn_refl _ _⟩, connected, connected⟩
  have leads : Leads cwd username backup_peers host disk
      fun index => (host.connections (.backup index)).arrived :=
    ⟨holds, fun index _ => (connected index).eq⟩
  rcases leads.run_reports getFiles reports tail with ⟨alone, ran, left⟩
  have program : (serving username threads host).threads device =
      fileWatcherThread username backup_peers tail (reports.flatMap WatchReport.packets) :=
    congrArg (DeviceThread.program username) watches
  rcases keeping.interleave_done secluded_of_sideBySide start schedule with ⟨ends, finished⟩
  refine ⟨ends, ?_⟩
  intro enough
  rcases finished enough with ⟨ended, alike⟩
  rw [program, ran] at ended alike
  refine ⟨ended, ?_⟩
  intro file_name name_mem
  rw [alike.contentOn_eq name_mem, contentOn_of_holds left.holds]

omit watches others in
/-- A file that no thread comes to stays as it is. -/
theorem alike_of_keepsOff (keepsOff : ∀ device, (threads device).KeepsOff own)
    (holds : Holds cwd (directoryOf username) host disk) (connected : host.Connected)
    (schedule : List Device) :
    Alike cwd (directoryOf username) own
      ((serving username threads host).interleave (performCall cwd getFiles) schedule).state
      host := by
  have within : (serving username threads host).Within
      (KeepsOff cwd (directoryOf username) own) := by
    refine ⟨fun device => DeviceThread.performs_keepsOff (keepsOff device), ?_⟩
    intro entry entry_mem
    cases entry_mem
  have start : Alike cwd (directoryOf username) own (serving username threads host).state host :=
    ⟨⟨disk, disk, holds, holds, Set.eqOn_refl _ _⟩, connected, connected⟩
  have preserved (state : Host) (systemCall : SystemCall)
      (permitted : KeepsOff cwd (directoryOf username) own systemCall)
      (alike : Alike cwd (directoryOf username) own state host) :
      Alike cwd (directoryOf username) own (performCall cwd getFiles state systemCall).2 host :=
    alike.performCall_other permitted
  exact Resumption.Threads.interleave_invariant preserved within start schedule

end Sessions

theorem Holds.congr {other : Directory} (holds : Holds cwd base_directory host disk)
    (same : ∀ file_name : FileName, disk file_name.bytes = other file_name.bytes) :
    Holds cwd base_directory host other where
  passes := holds.passes
  directory := holds.directory
  lookup_eq file_name := by rw [holds.lookup_eq, same]

section Serial

variable {Device : Type*} [DecidableEq Device] {threads : Device → DeviceThread}
  {reports : Device → List WatchReport}

variable (sessions : ∀ device, Reporting (threads device) (reports device))
  (disjoint : Pairwise fun first second =>
    Disjoint (WatchReport.touched (reports first)) (WatchReport.touched (reports second)))
  (holds : Holds cwd (directoryOf username) host disk) (connected : host.Connected)
include sessions holds connected

include disjoint in
theorem content_of_mem (schedule : List Device) {device : Device}
    (turns : Resumption.steps (performCall cwd getFiles) host
      ((threads device).program username) ≤ schedule.count device) {file_name : FileName}
    (name_mem : file_name.bytes ∈ WatchReport.touched (reports device)) :
    contentOn cwd (directoryOf username)
      ((serving username threads host).interleave (performCall cwd getFiles) schedule).state
      file_name = WatchReport.perform disk (reports device) file_name.bytes := by
  have reports_ne : reports device ≠ [] := by
    rintro noReports
    rcases name_mem with ⟨report, report_mem, -⟩
    rw [noReports] at report_mem
    cases report_mem
  rcases (sessions device).watches reports_ne with ⟨backup_peers, tail, watches⟩
  have others (other : Device) (different : other ≠ device) :
      (threads other).KeepsOff (WatchReport.touched (reports device)) :=
    (sessions other).keepsOff (disjoint different)
  exact ((beside watches others holds connected getFiles schedule).2 turns).2 file_name name_mem

theorem content_of_notMem (schedule : List Device) {file_name : FileName}
    (untouched : ∀ device, file_name.bytes ∉ WatchReport.touched (reports device)) :
    contentOn cwd (directoryOf username)
      ((serving username threads host).interleave (performCall cwd getFiles) schedule).state
      file_name = disk file_name.bytes := by
  have keepsOff (device : Device) : (threads device).KeepsOff {file_name.bytes} :=
    (sessions device).keepsOff (Set.disjoint_singleton_right.mpr (untouched device))
  have alike : Alike cwd (directoryOf username) {file_name.bytes}
      ((serving username threads host).interleave (performCall cwd getFiles) schedule).state
      host := alike_of_keepsOff keepsOff holds connected schedule
  rw [alike.contentOn_eq (Set.mem_singleton _), contentOn_of_holds holds]

end Serial

end SyncDir
