import SyncDir.Transfer.Handling
import SyncDir.Transfer.Push
import SyncDir.Transfer.Replication

/-!
# File names on the way to the other devices

A change that the file watcher thread propagates is announced by the name of the
file, to the other devices of the user and to the backups.  The backups, like
the file watcher thread, take the payload of the announcement as the name.  The
push thread of a device and that of the client take the first word of it, so
that on this way only names without whitespace survive.
-/

namespace SyncDir

namespace Device

open FileManager NetworkManager PacketType ClientManager

/-- The change of the leader's directory that a propagated report stands for. -/
def Report.accepted : Report → AcceptedChange
  | write upload => .write upload.file_name upload.content
  | delete deletion => .delete deletion.file_name

/-- What the push thread of a device is to send for the change. -/
def pushedPackets : AcceptedChange → List Packet
  | .write file_name content =>
      Packet.build t_WRITE.value 1 file_name.bytes :: transfer 0 (chunks MAX_PACKET_SIZE content)
  | .delete file_name => [Packet.build t_DELETE.value 1 file_name.bytes]

/-- The client writes to the file of the change, or deletes it, and leaves all others alone. -/
def ActsOn (sync_dir : Directory) (client : Client.PushThread) : AcceptedChange → Prop
  | .write file_name _ =>
      (∃ pkt, client.mode = .receiving pkt file_name.bytes) ∧
        ∃ written, client.disk = Function.update sync_dir file_name.bytes (some written)
  | .delete file_name => client = .idle (Function.update sync_dir file_name.bytes none)

section

variable (handle_new_push : Packet → Directory → Except Exception Unit) (disk : Directory)
  (pushed : List Packet) (isEmpty : Client.Emptiness)

def Report.after (report : Report) : Directory :=
  (fileWatcherThread handle_new_push (.idle disk pushed) report.packets).disk

/-- What the push thread of another device finds and serves. -/
def Report.request (report : Report) : PushRequest :=
  ⟨report.pkt.type, report.file_name.bytes, report.after handle_new_push disk pushed⟩

/-- A propagated report reaches the other devices under the name of its file, under which it also
reaches the backups. -/
structure Reaches (report : Report) (devices : List ℕ) (caller : ℕ)
    (backup_peers : List Connection) (sync_dir backup : Directory) : Prop where
  /-- `sendPushTo` is called for all other devices. -/
  devices_eq : (ClientManager.handle_new_push devices backup_peers
      (report.after handle_new_push disk pushed) report.pkt caller).devices =
    (devices.filter (· ≠ caller)).map fun device =>
      (device, report.pkt.type, report.file_name.bytes)
  sent : (sendPush (report.request handle_new_push disk pushed)).packets =
    pushedPackets report.accepted
  applied : ActsOn sync_dir
    (Client.handlePushThread isEmpty (.idle sync_dir)
      (sendPush (report.request handle_new_push disk pushed)).packets)
    report.accepted
  /-- A backup gets the change of this file. -/
  replicated : (receivePushsOn (.idle backup [])
      (sendToBackup report.pkt (report.after handle_new_push disk pushed)).packets).received =
    [report.accepted.change]

end

def Survives (file_name : FileName) : Prop :=
  ∀ handle_new_push disk pushed isEmpty (report : Report) devices caller backup_peers sync_dir
      backup,
    report.file_name = file_name → report.Propagated handle_new_push disk pushed →
      Reaches handle_new_push disk pushed isEmpty report devices caller backup_peers sync_dir
        backup

/-! ### The name in the packets -/

section

variable {handle_new_push : Packet → Directory → Except Exception Unit} {disk : Directory}
  {pushed : List Packet} {report : Report}

theorem Report.named (report : Report) : report.pkt.c_str = .ok report.file_name.bytes := by
  cases report with
  | write upload => exact upload.named
  | delete deletion => exact deletion.named

theorem after_write {upload : Upload}
    (propagated : (Report.write upload).Propagated handle_new_push disk pushed) :
    (Report.write upload).after handle_new_push disk pushed upload.file_name.bytes =
      some upload.content := by
  rcases (propagated_write_iff ..).mp propagated with ⟨fits, differs⟩
  rw [Report.after, Report.packets, upload_file handle_new_push upload disk pushed fits,
    if_neg differs]

theorem Report.holdsIn (propagated : report.Propagated handle_new_push disk pushed) :
    report.accepted.HoldsIn (report.after handle_new_push disk pushed) := by
  cases report with
  | write upload => exact after_write propagated
  | delete deletion => trivial

/-- For a backup, the packet of a report is as good as one that is built for the change. -/
theorem sendToBackup_pkt (report : Report) (leader : Directory) :
    sendToBackup report.pkt leader = sendToBackup report.accepted.announcement leader := by
  have named (file_name : FileName) (type : UInt16) :
      (Packet.build type 1 file_name.bytes).c_str = .ok file_name.bytes := by
    rw [Packet.build_c_str, FileName.cString_bytes]
  rw [sendToBackup_eq report.named]
  cases report with
  | write upload =>
      rw [Report.accepted, AcceptedChange.announcement, sendToBackup_eq (named ..),
        Packet.build_type, Report.pkt, upload.write]
      rfl
  | delete deletion =>
      rw [Report.accepted, AcceptedChange.announcement, sendToBackup_eq (named ..),
        Packet.build_type, Report.pkt, deletion.delete]
      rfl

/-- The backups take the whole payload as the name. -/
theorem receivePushsOn_report (propagated : report.Propagated handle_new_push disk pushed)
    (backup : Directory) :
    (receivePushsOn (.idle backup [])
        (sendToBackup report.pkt (report.after handle_new_push disk pushed)).packets).received =
      [report.accepted.change] := by
  rw [sendToBackup_pkt, Send.packets, sendToBackup_healthy (Report.holdsIn propagated),
    Connection.healthy, List.nil_append, receivePushsOn_packets]
  rfl

end

/-! ### Names without whitespace -/

/-- A propagated upload of a file with a plain name is a push that the client serves. -/
theorem reaches_write {handle_new_push : Packet → Directory → Except Exception Unit}
    {disk : Directory} {pushed : List Packet} {upload : Upload} (plain : upload.file_name.IsWord)
    (propagated : (Report.write upload).Propagated handle_new_push disk pushed)
    (isEmpty : Client.Emptiness) (sync_dir : Directory) :
    (sendPush ((Report.write upload).request handle_new_push disk pushed)).packets =
        pushedPackets (Report.write upload).accepted ∧
      ActsOn sync_dir (Client.handlePushThread isEmpty (.idle sync_dir)
        (sendPush ((Report.write upload).request handle_new_push disk pushed)).packets)
        (Report.write upload).accepted := by
  have served : (sendPush ((Report.write upload).request handle_new_push disk pushed)).packets =
      (Client.ServedPush.write upload.file_name plain upload.content _
        (after_write propagated)).packets := by
    rw [Report.request, Report.pkt, upload.write]
    rfl
  rw [served]
  constructor
  · exact Client.ServedPush.packets_write ..
  · rw [Client.handlePushThread_write]
    exact ⟨⟨_, rfl⟩, _, rfl⟩

theorem request_delete (handle_new_push : Packet → Directory → Except Exception Unit)
    (disk : Directory) (pushed : List Packet) (deletion : Deletion) :
    (sendPush ((Report.delete deletion).request handle_new_push disk pushed)).packets =
      (Client.ServedPush.delete deletion.file_name
        ((Report.delete deletion).after handle_new_push disk pushed)).packets := by
  rw [Report.request, Report.pkt, deletion.delete]
  rfl

theorem actsOn_delete_iff (isEmpty : Client.Emptiness) (sync_dir : Directory)
    (file_name : FileName) (leader : Directory) :
    ActsOn sync_dir (Client.handlePushThread isEmpty (.idle sync_dir)
        (Client.ServedPush.delete file_name leader).packets) (.delete file_name) ↔
      (Client.ServedPush.delete file_name leader).Survives sync_dir :=
  Client.handlePushThread_eq_idle_iff sync_dir (Client.ServedPush.delete file_name leader)

theorem reaches_of_isWord {handle_new_push : Packet → Directory → Except Exception Unit}
    {disk : Directory} {pushed : List Packet} {report : Report}
    (plain : report.file_name.IsWord)
    (propagated : report.Propagated handle_new_push disk pushed) (isEmpty : Client.Emptiness)
    (devices : List ℕ) (caller : ℕ) (backup_peers : List Connection)
    (sync_dir backup : Directory) :
    Reaches handle_new_push disk pushed isEmpty report devices caller backup_peers sync_dir
      backup where
  devices_eq := by
    simp only [ClientManager.handle_new_push, report.named]
  sent := by
    cases report with
    | write upload => exact (reaches_write plain propagated isEmpty sync_dir).1
    | delete deletion =>
        rw [request_delete]
        exact Client.ServedPush.packets_delete ..
  applied := by
    cases report with
    | write upload => exact (reaches_write plain propagated isEmpty sync_dir).2
    | delete deletion =>
        rw [request_delete]
        exact (actsOn_delete_iff ..).mpr (Or.inl plain)
  replicated := receivePushsOn_report propagated backup

/-- The report that a file has been deleted, as a client sends it. -/
def Deletion.ofName (file_name : FileName) : Deletion where
  file_name := file_name
  pkt := Packet.build t_DELETE.value 1 file_name.bytes
  delete := rfl
  named := by rw [Packet.build_c_str, FileName.cString_bytes]

def only (file_name : FileName) : Directory :=
  Function.update (fun _ => none) file_name.bytes (some [])

theorem only_ne_none (file_name : FileName) : only file_name file_name.bytes ≠ none := by
  simp [only]

/-- The names that survive are those without whitespace. -/
theorem name_survives_iff (file_name : FileName) : Survives file_name ↔ file_name.IsWord := by
  constructor
  · intro survives
    have found := only_ne_none file_name
    have reaches := survives (fun _ _ => .ok ()) (only file_name) [] (fun _ => false)
      (.delete (.ofName file_name)) [] 0 [] (only file_name) (fun _ => none) rfl
      ((propagated_delete_iff ..).mpr found)
    have applied := reaches.applied
    rw [request_delete] at applied
    rcases (actsOn_delete_iff ..).mp applied with plain | ⟨_, absent, _⟩
    · exact plain
    · exact absurd absent found
  · rintro plain handle_new_push disk pushed isEmpty report devices caller backup_peers sync_dir
      backup rfl propagated
    exact reaches_of_isWord plain propagated isEmpty devices caller backup_peers sync_dir backup

def deletionOfAB : Deletion :=
  .ofName ⟨ascii "a b", by decide⟩

def filesAAndAB : Directory :=
  Function.update (Function.update (fun _ => none) (ascii "a") (some (ascii "1")))
    (ascii "a b") (some (ascii "2"))

/-- When `a b` has been deleted, another device deletes `a`, and keeps `a b`. -/
theorem delete_a_b :
    (Report.delete deletionOfAB).Propagated (fun _ _ => .ok ()) filesAAndAB [] ∧
      (Client.handlePushThread (fun _ => false) (.idle filesAAndAB) (sendPush
        ((Report.delete deletionOfAB).request (fun _ _ => .ok ()) filesAAndAB [])).packets).disk
          (ascii "a") = none ∧
      (Client.handlePushThread (fun _ => false) (.idle filesAAndAB) (sendPush
        ((Report.delete deletionOfAB).request (fun _ _ => .ok ()) filesAAndAB [])).packets).disk
          (ascii "a b") = some (ascii "2") := by
  rw [request_delete, Client.ServedPush.packets_delete]
  exact ⟨(propagated_delete_iff ..).mpr (by decide), by decide, by decide⟩

end Device

end SyncDir
