import SyncDir.Server.ThreadsOnHost
import SyncDir.Transfer.WatchSession

/-!
# Backups of a session

A file watcher thread that works on the file tree of its host, and a backup that
works on another one with what it is sent.  Both threads perform system calls
here, and what is compared in the end is what the two file trees hold.

A backup appends what it receives, so it follows the leader exactly as long as
no upload replaces a file that has a content.
-/

namespace SyncDir

namespace Device.WatchReport

open FileManager NetworkManager PacketType ClientManager

/-! ### What a report means to a backup -/

def toReport : WatchReport → Report
  | write upload _ => .write upload
  | delete deletion => .delete deletion

def accepted (report : WatchReport) : AcceptedChange :=
  report.toReport.accepted

/-- The directory of a backup after the report has been handled on the leader's disk. -/
def replicate (disk backup : Directory) (report : WatchReport) : Directory :=
  if report.Noticed disk then report.accepted.replicateTo backup else backup

/-- An upload that replaces a content. -/
def Overwrites (disk : Directory) : WatchReport → Prop
  | write upload fits => (write upload fits).Noticed disk ∧ upload.before disk ≠ []
  | delete _ => False

instance (disk : Directory) : (report : WatchReport) → Decidable (report.Overwrites disk)
  | write upload fits =>
      inferInstanceAs (Decidable ((write upload fits).Noticed disk ∧ upload.before disk ≠ []))
  | delete _ => inferInstanceAs (Decidable False)

/-- Directories whose files differ in empty files only. -/
def FilesAgree (disk backup : Directory) : Prop :=
  ∀ file_name : FileName, (disk file_name.bytes).getD [] = (backup file_name.bytes).getD []

variable {report : WatchReport} {reports : List WatchReport} {disk backup : Directory}
  {name : Bytes}

theorem appended_getD (file_name data : Bytes) :
    (appended backup file_name data file_name).getD [] =
      (backup file_name).getD [] ++ data := by
  by_cases noData : data = []
  · rw [appended, if_pos noData, noData, List.append_nil]
  · rw [appended, if_neg noData, Function.update_self, Option.getD_some]

theorem replicate_of_ne (notFile : name ≠ report.file_name.bytes) :
    report.replicate disk backup name = backup name := by
  rw [replicate]
  split_ifs
  · cases report with
    | write upload fits =>
        change appended backup upload.file_name.bytes upload.content name = backup name
        rw [appended]
        split_ifs
        · rfl
        · exact Function.update_of_ne notFile _ _
    | delete deletion => exact Function.update_of_ne notFile _ _
  · rfl

/-- The content of the file is that of the leader unless it is appended to another one. -/
theorem file_replicate_iff
    (agree : (disk report.file_name.bytes).getD [] = (backup report.file_name.bytes).getD []) :
    (report.apply disk report.file_name.bytes).getD [] =
        (report.replicate disk backup report.file_name.bytes).getD [] ↔
      ¬report.Overwrites disk := by
  by_cases changes : report.Noticed disk
  · rw [apply_file_of_noticed changes, replicate, if_pos changes]
    cases report with
    | write upload fits =>
        have received : (AcceptedChange.replicateTo backup (write upload fits).accepted
            upload.file_name.bytes).getD [] = upload.before disk ++ upload.content := by
          rw [Upload.before]
          exact (appended_getD _ _).trans (congrArg (· ++ upload.content) agree.symm)
        rw [file_name, received, left, Option.getD_some, List.self_eq_append_left, Overwrites,
          and_iff_right changes, not_not]
    | delete deletion =>
        have removed : AcceptedChange.replicateTo backup (delete deletion).accepted
            deletion.file_name.bytes = none :=
          Function.update_self ..
        refine iff_of_true ?_ id
        rw [file_name, removed, left]
  · rw [apply_file_of_not_noticed changes, replicate, if_neg changes]
    refine iff_of_true agree ?_
    cases report with
    | write upload fits => exact fun overwrites => changes overwrites.1
    | delete deletion => exact id

theorem filesAgree_replicate_iff (agree : FilesAgree disk backup)
    (stored : disk (copyName report.file_name.bytes) = none) :
    FilesAgree (report.apply disk) (report.replicate disk backup) ↔ ¬report.Overwrites disk := by
  rw [← file_replicate_iff (agree report.file_name)]
  constructor
  · intro agrees
    exact agrees report.file_name
  · intro file other
    by_cases isFile : other.bytes = report.file_name.bytes
    · rw [isFile, file]
    · rw [replicate_of_ne isFile, ← agree other]
      by_cases isCopy : other.bytes = copyName report.file_name.bytes
      · rw [isCopy, apply_copy stored, stored]
      · rw [apply_of_ne isFile isCopy]

/-- A backup follows the leader exactly if no upload replaces a content. -/
theorem pursues_iff (apart : Apart disk reports) (agree : FilesAgree disk backup) :
    Lockstep.Pursues apply replicate FilesAgree disk backup reports ↔
      Lockstep.Throughout apply (fun disk report => ¬report.Overwrites disk) disk reports := by
  apply Lockstep.pursues_iff_throughout (fun apart => Apart.apply apart) ?_ apart agree
  intro disk backup report reports apart agree
  exact filesAgree_replicate_iff agree (apart.copies report List.mem_cons_self)

/-- What a session sends to each backup. -/
def backedUp (disk : Directory) (reports : List WatchReport) : List Packet :=
  ((noticed disk reports).map accepted).flatMap AcceptedChange.packets

theorem foldl_replicateTo (disk backup : Directory) (reports : List WatchReport) :
    ((noticed disk reports).map accepted).foldl AcceptedChange.replicateTo backup =
      Lockstep.pursue apply replicate disk backup reports := by
  induction reports generalizing disk backup with
  | nil => rfl
  | cons report reports ih =>
      rw [noticed, Lockstep.pursue, replicate]
      split_ifs
      · exact ih _ _
      · exact ih _ _

theorem backedUp_cons (disk : Directory) (report : WatchReport) (reports : List WatchReport) :
    backedUp disk (report :: reports) =
      (if report.Noticed disk then report.accepted.packets else []) ++
        backedUp (report.apply disk) reports := by
  rw [backedUp, noticed, List.map_append, List.flatMap_append]
  split_ifs
  · rw [List.map_singleton, List.flatMap_singleton]
    rfl
  · rfl

end Device.WatchReport

theorem isFileName_copyName {file_name : FileName}
    (fits : (copyName file_name.bytes).length ≤ NAME_MAX) :
    IsFileName (copyName file_name.bytes) := by
  rcases file_name.valid with ⟨-, noNul, noSlash, -, -, -⟩
  have long (short : Bytes) (le : short.length ≤ 2) : copyName file_name.bytes ≠ short := by
    rintro rfl
    have prefixLength : (ascii "copy_").length = 5 := by decide
    simp only [copyName, List.length_append, prefixLength] at le
    omega
  have notMem {byte : UInt8} (noByte : byte ∉ file_name.bytes) (notIn : byte ∉ ascii "copy_") :
      byte ∉ copyName file_name.bytes := by
    rw [copyName, List.mem_append]
    exact fun mem => mem.elim notIn noByte
  exact ⟨FileManager.ne_nil_of_proper (FileManager.isDirectory_copyName _),
    notMem noNul (by decide), notMem noSlash (by decide), fits, long _ (by decide),
    long _ (by decide)⟩

namespace Thread

open FileTree Routine NetworkManager PacketType Device ClientManager

variable {cwd : Path Bytes} {getFiles : Directory → Bytes} {host : Host} {disk : Directory}
  {arrived : ℕ → List Packet}

/-! ### What the leader sends -/

section Pushing

variable (getFiles) {base_directory : Bytes} (holds : Holds cwd base_directory host disk)
  (report : Device.Report)
include holds

theorem runOn_sendToBackup (index : ℕ) :
    (do transmit (.backup index) (sendPacket report.pkt.type 0 report.file_name.bytes)
        if report.pkt.type = t_WRITE.value then
          sendFileInChunks (.backup index) base_directory report.file_name.bytes :
      Routine Unit).runOn cwd getFiles host =
      (transmit (.backup index) (sendToBackup report.pkt disk)).runOn cwd getFiles host := by
  rw [sendToBackup_eq report.named]
  by_cases write : report.pkt.type = t_WRITE.value
  · simp only [if_pos write]
    exact holds.runOn_announce _ report.file_name
  · simp only [if_neg write]
    rw [← runOn_transmit_bind, runOn_bind, runOn_bind]
    rcases (transmit (.backup index) (sendPacket report.pkt.type 0
      report.file_name.bytes)).runOn cwd getFiles host with ⟨exception | _, after⟩
    · rfl
    · exact runOn_transmit_pure.symm

/-- The loop over the backups sends the change to each of them. -/
theorem runOn_pushToBackups (stored : report.accepted.HoldsIn disk) {backup_peers : ℕ}
    (healthy : ∀ index < backup_peers,
      host.connections (.backup index) = .healthy (arrived index)) :
    ∃ after,
      (pushToBackups base_directory report.pkt.type report.file_name.bytes backup_peers).runOn cwd
          getFiles host = (.ok (), after) ∧
        after.files = host.files ∧
        ∀ index, after.connections (.backup index) =
          if index < backup_peers then .healthy (arrived index ++ report.accepted.packets)
          else host.connections (.backup index) := by
  induction backup_peers with
  | zero => exact ⟨host, rfl, rfl, fun index => (if_neg (Nat.not_lt_zero index)).symm⟩
  | succ last ih =>
      rcases ih fun index before => healthy index (Nat.lt_succ_of_lt before) with
        ⟨middle, ran, files, connections⟩
      have connected : middle.connections (.backup last) = .healthy (arrived last) := by
        rw [connections, if_neg (Nat.lt_irrefl last), healthy last (Nat.lt_succ_self last)]
      have sent : (pushToBackups base_directory report.pkt.type report.file_name.bytes
            (last + 1)).runOn cwd getFiles host =
          (.ok (), { middle with connections := (Function.update middle.connections (.backup last)
              (.healthy (arrived last ++ report.accepted.packets))) }) := by
        rw [pushToBackups, runOn_bind, ran]
        refine (runOn_sendToBackup getFiles (holds.of_files files) report last).trans ?_
        rw [runOn_transmit, connected, sendToBackup_pkt, sendToBackup_healthy stored]
        rfl
      refine ⟨_, sent, files, ?_⟩
      intro index
      by_cases isLast : index = last
      · simp only [isLast, Function.update_self, if_pos (Nat.lt_succ_self last)]
      · have other : Channel.backup index ≠ .backup last := by simpa using isLast
        have sameSide : index < last + 1 ↔ index < last := by omega
        simp only [Function.update_of_ne other, connections, sameSide]

end Pushing

section Leading

variable {username : Bytes} {backup_peers : ℕ}

variable (cwd username backup_peers) in
/-- The user's files on the host are those of the disk, and the backups are connected. -/
structure Leads (host : Host) (disk : Directory) (arrived : ℕ → List Packet) : Prop where
  holds : Holds cwd (directoryOf username) host disk
  healthy : ∀ index < backup_peers, host.connections (.backup index) = .healthy (arrived index)

theorem Leads.changes {after : Host} {changed : Directory}
    (leads : Leads cwd username backup_peers host disk arrived)
    (kept : after.connections = host.connections)
    (holds : Holds cwd (directoryOf username) after changed) :
    Leads cwd username backup_peers after changed arrived where
  holds := holds
  healthy index connected := by rw [kept, leads.healthy index connected]

variable (getFiles) (leads : Leads cwd username backup_peers host disk arrived)
include leads

theorem Leads.runOn_handle_new_push (report : Device.Report)
    (stored : report.accepted.HoldsIn disk) :
    ∃ after,
      (handle_new_push (directoryOf username) report.pkt backup_peers).runOn cwd getFiles host =
          (.ok (), after) ∧
        Leads cwd username backup_peers after disk
          fun index => arrived index ++ report.accepted.packets := by
  rcases runOn_pushToBackups getFiles leads.holds report stored leads.healthy with
    ⟨after, ran, files, connections⟩
  refine ⟨after, ?_, leads.holds.of_files files, ?_⟩
  · rw [handle_new_push, report.named]
    exact ran
  · intro index connected
    rw [connections, if_pos connected]

theorem Leads.run_write (upload : Upload) (fits : upload.Fits) (atEnd : ThreadEnd)
    (rest : List Packet) :
    ∃ after, Resumption.run (performCall cwd getFiles) host
        (loop (handleWatched username backup_peers) atEnd .awaiting (upload.packets ++ rest)) =
        Resumption.run (performCall cwd getFiles) after
          (loop (handleWatched username backup_peers) atEnd .awaiting rest) ∧
      Leads cwd username backup_peers after ((WatchReport.write upload fits).apply disk)
        fun index => arrived index ++ if (WatchReport.write upload fits).Noticed disk then
          (WatchReport.write upload fits).accepted.packets else [] := by
  let announced : Announced :=
    { pkt := upload.announcement, file_name := upload.file_name.bytes, named := upload.named }
  have nameIs : announced.file_name = upload.file_name.bytes := rfl
  let copy : FileName := ⟨copyName upload.file_name.bytes, isFileName_copyName fits⟩
  have copies : copyName upload.file_name.bytes = copy.bytes := rfl
  have split : upload.packets ++ rest =
      upload.announcement :: (upload.data ++ upload.closing :: rest) := by
    simp [Upload.packets]
  rcases run_upload getFiles copies upload.write upload.named backup_peers atEnd upload.unclosed
    (upload.closing :: rest) leads.holds with ⟨middle, built, kept, received⟩
  rw [split, built, run_loop_cons, handleWatched, if_pos upload.closes, runOn_bind]
  by_cases changes : (WatchReport.write upload fits).Noticed disk
  · have differs : FileManager.fnvDiffers (upload.before disk) upload.content = true := by
      rw [fnvDiffers_eq_decide]
      exact decide_eq_true changes
    rcases runOn_finishWrite_of_differs getFiles copies nameIs backup_peers received differs
      with ⟨replaced, finished, unchanged, left⟩
    have stored : (Device.Report.write upload).accepted.HoldsIn
        (upload.cells disk (some upload.content) none) :=
      writeTo_file _ _
    rcases (leads.changes (unchanged.trans kept) left).runOn_handle_new_push getFiles
      (.write upload) stored with ⟨after, pushed, goesOn⟩
    have ran := finished.trans pushed
    refine ⟨after, ?_, ?_⟩
    · rw [ran]
      rfl
    · rw [WatchReport.apply, if_pos changes]
      simp only [if_pos changes]
      exact goesOn
  · have same : FileManager.fnvDiffers (upload.before disk) upload.content = false := by
      rw [fnvDiffers_eq_decide]
      exact decide_eq_false changes
    rcases runOn_finishWrite_of_same getFiles copies nameIs backup_peers received same
      with ⟨after, ran, unchanged, left⟩
    refine ⟨after, ?_, ?_⟩
    · rw [ran]
      rfl
    · rw [WatchReport.apply, if_neg changes]
      simp only [if_neg changes, List.append_nil]
      exact leads.changes (unchanged.trans kept) left

theorem Leads.run_delete (deletion : Deletion) (atEnd : ThreadEnd) (rest : List Packet) :
    ∃ after, Resumption.run (performCall cwd getFiles) host
        (loop (handleWatched username backup_peers) atEnd .awaiting (deletion.pkt :: rest)) =
        Resumption.run (performCall cwd getFiles) after
          (loop (handleWatched username backup_peers) atEnd .awaiting rest) ∧
      Leads cwd username backup_peers after ((WatchReport.delete deletion).apply disk)
        fun index => arrived index ++ if (WatchReport.delete deletion).Noticed disk then
          (WatchReport.delete deletion).accepted.packets else [] := by
  let announced : Announced :=
    { pkt := deletion.pkt, file_name := deletion.file_name.bytes, named := deletion.named }
  have nameIs : announced.file_name = deletion.file_name.bytes := rfl
  rw [run_loop_cons, handleWatched_delete username backup_peers deletion.named deletion.delete,
    runOn_bind, WatchReport.apply]
  cases stored : disk deletion.file_name.bytes with
  | none =>
      have unchanged : ¬(WatchReport.delete deletion).Noticed disk := by
        rw [WatchReport.Noticed, stored]
        exact Bool.false_ne_true
      refine ⟨host, ?_, ?_⟩
      · rw [runOn_handleDelete_of_none getFiles nameIs backup_peers leads.holds stored]
        rfl
      · rw [Function.update_eq_self_iff.mpr stored.symm]
        simp only [if_neg unchanged, List.append_nil]
        exact leads
  | some content =>
      have changes : (WatchReport.delete deletion).Noticed disk := by
        rw [WatchReport.Noticed, stored]
        rfl
      rcases runOn_handleDelete_of_some getFiles nameIs backup_peers leads.holds stored with
        ⟨removed, finished, unchanged, left⟩
      rcases (leads.changes unchanged left).runOn_handle_new_push getFiles (.delete deletion)
        trivial with ⟨after, pushed, goesOn⟩
      have ran := finished.trans pushed
      refine ⟨after, ?_, ?_⟩
      · rw [ran]
        rfl
      · simp only [if_pos changes]
        exact goesOn

/-- With the packets of a report, the thread performs it on the files and sends it if it is
noticed. -/
theorem Leads.run_report (report : WatchReport) (atEnd : ThreadEnd) (rest : List Packet) :
    ∃ after, Resumption.run (performCall cwd getFiles) host
        (loop (handleWatched username backup_peers) atEnd .awaiting (report.packets ++ rest)) =
        Resumption.run (performCall cwd getFiles) after
          (loop (handleWatched username backup_peers) atEnd .awaiting rest) ∧
      Leads cwd username backup_peers after (report.apply disk) fun index =>
        arrived index ++ if report.Noticed disk then report.accepted.packets else [] := by
  cases report with
  | write upload fits => exact leads.run_write getFiles upload fits atEnd rest
  | delete deletion => exact leads.run_delete getFiles deletion atEnd rest

/-- The thread performs the reports until its client leaves, and each backup is sent those that
are noticed. -/
theorem Leads.run_reports (reports : List WatchReport) (tail : Tail) :
    ∃ after, Resumption.run (performCall cwd getFiles) host (fileWatcherThread username
        backup_peers tail (reports.flatMap WatchReport.packets)) = (tail.threadEnd, after) ∧
      Leads cwd username backup_peers after (WatchReport.perform disk reports) fun index =>
        arrived index ++ WatchReport.backedUp disk reports := by
  induction reports generalizing host disk arrived with
  | nil =>
      refine ⟨host, rfl, ?_⟩
      simpa [WatchReport.backedUp, WatchReport.noticed, WatchReport.perform] using leads
  | cons report reports ih =>
      rcases leads.run_report getFiles report tail.threadEnd
        (reports.flatMap WatchReport.packets) with ⟨middle, first, ready⟩
      rcases ih ready with ⟨after, run, left⟩
      refine ⟨after, ?_, ?_⟩
      · rw [fileWatcherThread, List.flatMap_cons, first]
        exact run
      · simp only [WatchReport.backedUp_cons, ← List.append_assoc]
        exact left

end Leading

/-! ### What a backup makes of it -/

theorem type_of_mem_transfer {sequenceNumber : UInt16} {pieces : List Bytes} {pkt : Packet}
    (pkt_mem : pkt ∈ transfer sequenceNumber pieces) :
    pkt.type = t_DATA.value ∨ pkt.type = t_END_OF_FILE.value := by
  induction pieces generalizing sequenceNumber with
  | nil =>
      rw [List.mem_singleton.mp pkt_mem]
      exact Or.inr rfl
  | cons chunk pieces ih =>
      rcases List.mem_cons.mp pkt_mem with rfl | later
      · exact Or.inl rfl
      · exact ih later

theorem regularPush_build (type seqn : UInt16) (file_name : FileName) :
    RegularPush (Packet.build type seqn file_name.bytes) := by
  intro _ other named
  rw [Packet.build_c_str, FileName.cString_bytes] at named
  cases named
  exact file_name.valid

theorem regularPush_packets (accepted : AcceptedChange) :
    ∀ pkt ∈ accepted.packets, RegularPush pkt := by
  intro pkt pkt_mem
  cases accepted with
  | delete file_name =>
      rw [List.mem_singleton.mp pkt_mem]
      exact regularPush_build _ _ file_name
  | write file_name content =>
      rcases List.mem_cons.mp pkt_mem with rfl | transferred
      · exact regularPush_build _ _ file_name
      · intro writes
        rcases type_of_mem_transfer transferred with isData | isEnd
        · rw [isData] at writes
          exact absurd writes (by decide)
        · rw [isEnd] at writes
          exact absurd writes (by decide)

/-- A backup that is sent a session pursues the leader. -/
theorem holds_backedUp (getFiles : Directory → Bytes) {base_directory : Bytes}
    {backup : Directory} (holds : Holds cwd base_directory host backup) (tail : Tail)
    (disk : Directory) (reports : List WatchReport) :
    Holds cwd base_directory
      (Resumption.run (performCall cwd getFiles) host
        (receivePushsOn base_directory tail (WatchReport.backedUp disk reports))).2
      (Lockstep.pursue WatchReport.apply WatchReport.replicate disk backup reports) := by
  have regular : ∀ pkt ∈ WatchReport.backedUp disk reports, RegularPush pkt := by
    intro pkt pkt_mem
    rcases List.mem_flatMap.mp pkt_mem with ⟨accepted, -, sent⟩
    exact regularPush_packets accepted pkt sent
  have received := holds_receivePushsOn getFiles holds [] tail regular
  rwa [WatchReport.backedUp, receivePushsOn_flatMap, BackupThread.idle,
    WatchReport.foldl_replicateTo] at received

/-! ### Two hosts -/

/-- What `readFile` would find. -/
def contentOn (cwd : Path Bytes) (base_directory : Bytes) (host : Host) (file_name : FileName) :
    Option Bytes :=
  (contentOf (openNode host.files cwd (movesOf (pathOf base_directory file_name.bytes)))).toOption

theorem contentOn_of_holds {base_directory : Bytes} (holds : Holds cwd base_directory host disk)
    (file_name : FileName) :
    contentOn cwd base_directory host file_name = disk file_name.bytes := by
  rw [contentOn, holds.openNode_pathOf]
  cases disk file_name.bytes <;> rfl

section Hosts

variable (cwd getFiles) (username : Bytes) (backup_peers : ℕ) (tail : Tail)

/-- The leader after a session of a device. -/
def leaderAfter (leader : Host) (reports : List WatchReport) : Host :=
  (Resumption.run (performCall cwd getFiles) leader (fileWatcherThread username backup_peers tail
    (reports.flatMap WatchReport.packets))).2

/-- A backup after all that has arrived on its connection to the leader. -/
def backupAfter (base_directory : Bytes) (backup : Host) (connection : Connection) : Host :=
  (Resumption.run (performCall cwd getFiles) backup
    (receivePushsOn base_directory tail connection.arrived)).2

end Hosts

variable {username base_directory : Bytes} {backup_peers : ℕ} {leader backup : Host}
  {replica : Directory} {backup_cwd : Path Bytes} {reports : List WatchReport} {index : ℕ}

/-- After every report of a session, the files of a backup have the same contents as those of the
leader, exactly if no upload of the session replaces a content. -/
theorem backup_follows_iff (leads : Leads cwd username backup_peers leader disk fun _ => [])
    (holds : Holds backup_cwd base_directory backup replica)
    (agree : WatchReport.FilesAgree disk replica) (apart : WatchReport.Apart disk reports)
    (connected : index < backup_peers) (getFiles backup_getFiles : Directory → Bytes)
    (tail backup_tail : Tail) :
    (∀ count ≤ reports.length, ∀ file_name : FileName,
        (contentOn cwd (directoryOf username)
            (leaderAfter cwd getFiles username backup_peers tail leader (reports.take count))
            file_name).getD [] =
          (contentOn backup_cwd base_directory
            (backupAfter backup_cwd backup_getFiles backup_tail base_directory backup
              ((leaderAfter cwd getFiles username backup_peers tail leader
                (reports.take count)).connections (.backup index)))
            file_name).getD []) ↔
      Lockstep.Throughout WatchReport.apply (fun disk report => ¬report.Overwrites disk)
        disk reports := by
  rw [← WatchReport.pursues_iff apart agree, Lockstep.Pursues]
  apply forall₂_congr
  intro count _
  apply forall_congr'
  intro file_name
  rcases leads.run_reports getFiles (reports.take count) tail with ⟨after, ran, left⟩
  have led : leaderAfter cwd getFiles username backup_peers tail leader (reports.take count) =
      after := congrArg Prod.snd ran
  have sent : (after.connections (.backup index)).arrived =
      WatchReport.backedUp disk (reports.take count) := by
    rw [left.healthy index connected]
    rfl
  have followed := holds_backedUp backup_getFiles holds backup_tail disk (reports.take count)
  rw [← sent] at followed
  rw [led, contentOn_of_holds left.holds, backupAfter, contentOn_of_holds followed]
  rfl

/-- A host on which nothing but an empty directory exists. -/
def newHost (directory : FileName) : Host where
  files := AList.insert [] .directory (AList.insert [directory.bytes] .directory ∅)
  connections _ := .healthy []

theorem holds_newHost (directory : FileName) :
    Holds [] directory.bytes (newHost directory) fun _ => none := by
  have leadsTo : resolve [] (movesOf directory.bytes) = [directory.bytes] := by
    rw [movesOf_fileName]
    rfl
  have isDirectory : (newHost directory).files.lookup [directory.bytes] = some .directory := by
    rw [newHost, AList.lookup_insert_ne (by simp), AList.lookup_insert]
  constructor
  · intro above above_mem
    rw [movesOf_fileName] at above_mem
    obtain rfl : above = [] := by simpa [passed] using above_mem
    exact AList.lookup_insert _
  · rw [leadsTo, isDirectory]
  · intro file_name
    rw [leadsTo, newHost, AList.lookup_insert_ne (by simp), AList.lookup_insert_ne (by simp)]
    exact AList.lookup_empty _

def directoryOfAna : FileName :=
  ⟨directoryOf (ascii "ana"), by decide⟩

/-- A file is uploaded, deleted, and uploaded again with another content. -/
def uploadedAgain : List WatchReport :=
  [.write (.ofChunks fileF [ascii "a"] (by decide)) (by decide),
    .delete (.ofName fileF),
    .write (.ofChunks fileF [ascii "b"] (by decide)) (by decide)]

theorem uploadedAgain_apart : WatchReport.Apart (fun _ => none) uploadedAgain where
  names := by decide
  copies _ _ := rfl

theorem backup_follows_iff_uploadedAgain :
    (contentOn [] (directoryOf (ascii "ana"))
        (leaderAfter [] (fun _ => []) (ascii "ana") 1 .closed (newHost directoryOfAna)
          uploadedAgain) fileF).getD [] =
      (contentOn [] (directoryOf (ascii "ana"))
        (backupAfter [] (fun _ => []) .closed (directoryOf (ascii "ana"))
          (newHost directoryOfAna)
          ((leaderAfter [] (fun _ => []) (ascii "ana") 1 .closed (newHost directoryOfAna)
            uploadedAgain).connections (.backup 0))) fileF).getD [] := by
  have leads : Leads [] (ascii "ana") 1 (newHost directoryOfAna) (fun _ => none) fun _ => [] := by
    exact ⟨holds_newHost directoryOfAna, fun _ _ => rfl⟩
  have neverOverwrites : Lockstep.Throughout WatchReport.apply
      (fun disk report => ¬report.Overwrites disk) (fun _ => none) uploadedAgain := by
    refine ⟨?_, ?_, ?_, trivial⟩
    · exact fun overwrites => overwrites.2 rfl
    · exact id
    · exact fun overwrites => overwrites.2 rfl
  have followed := (backup_follows_iff leads (holds_newHost directoryOfAna) (fun _ => rfl)
    uploadedAgain_apart Nat.zero_lt_one (fun _ => []) (fun _ => []) .closed .closed).mpr
      neverOverwrites
  exact followed 3 le_rfl fileF

end Thread

end SyncDir
