import SyncDir.Utils.NetworkManager

/-!
# Client managers

The leader's `ClientManager` replicates every accepted change of a user's files
to the backups: it sends the announcement and, for a `t_WRITE`, the file as it
then is.  The `ClientManager` of a backup runs `receivePushsOn` on its
connection to the leader and applies what arrives.

`receivePushsOn` is a machine that is fed with one packet at a time.  Next to
the directory of the backup it keeps the history of the changes that it has put
together from the packets, which no step depends on.
-/

namespace SyncDir

namespace ClientManager

open FileManager NetworkManager PacketType

/-- What `handle_new_push` sends to one of the backups. -/
def sendToBackup (pkt : Packet) (disk : Directory) : Send Unit := do
  let content ← (pkt.c_str : Except Exception Bytes)
  sendPacket pkt.type 0 content
  if pkt.type = t_WRITE.value then
    sendFileInChunks content MAX_PACKET_SIZE disk
  else
    pure ()

/-- The loop of `handle_new_push` over the backups; an exception leaves it. -/
def pushToBackups (pkt : Packet) (disk : Directory) :
    List Connection → Except Exception Unit × List Connection
  | [] => (.ok (), [])
  | backup :: backup_peers =>
      match (sendToBackup pkt disk).on backup with
      | (.error exception, after) => (.error exception, after :: backup_peers)
      | (.ok (), after) =>
          ((pushToBackups pkt disk backup_peers).1,
            after :: (pushToBackups pkt disk backup_peers).2)

/-- What `handle_new_push` has done: the calls of `sendPushTo`, with the device and the arguments,
the connections to the backups, and how the function has ended. -/
structure PushedTo (Device : Type*) where
  devices : List (Device × UInt16 × Bytes)
  backup_peers : List Connection
  result : Except Exception Unit

def handle_new_push {Device : Type*} [DecidableEq Device] (devices : List Device)
    (backup_peers : List Connection) (disk : Directory) (pkt : Packet) (caller : Device) :
    PushedTo Device :=
  match pkt.c_str with
  | .error exception => { devices := [], backup_peers, result := .error exception }
  | .ok content =>
      { devices := (devices.filter fun device => device ≠ caller).map fun device =>
          (device, pkt.type, content)
        backup_peers := (pushToBackups pkt disk backup_peers).2
        result := (pushToBackups pkt disk backup_peers).1 }

/-- Where `receivePushsOn` waits for a packet. -/
inductive BackupMode
  | awaiting
  /-- In the inner loop, with the data received so far. -/
  | receiving (file_name data : Bytes)
  /-- The loop has been left because of a `runtime_error`. -/
  | stopped
  | terminated (exception : Exception)
  deriving DecidableEq

structure BackupThread where
  disk : Directory
  mode : BackupMode
  /-- The changes put together so far. -/
  received : List Change

def BackupThread.idle (disk : Directory) (received : List Change) : BackupThread :=
  { disk, mode := .awaiting, received }

/-- What becomes of the loop when an exception is raised in it. -/
def BackupThread.raise (thread : BackupThread) : Exception → BackupThread
  | .runtime_error _ => { thread with mode := .stopped }
  | .logic_error what => { thread with mode := .terminated (.logic_error what) }

/-- What `receivePushsOn` does with a packet. -/
def receivePush (thread : BackupThread) (pkt : Packet) : BackupThread :=
  match thread.mode with
  | .awaiting =>
      match pkt.c_str with
      | .error exception => thread.raise exception
      | .ok file_name =>
          if pkt.type = t_WRITE.value then
            { thread with mode := .receiving file_name [] }
          else if pkt.type = t_DELETE.value then
            match deleteFile thread.disk file_name with
            | .error exception => thread.raise exception
            | .ok disk => .idle disk (thread.received ++ [.delete file_name])
          else
            thread
  | .receiving file_name data =>
      if pkt.type = t_END_OF_FILE.value then
        .idle thread.disk (thread.received ++ [.write file_name data])
      else
        match writeFile thread.disk file_name pkt.content with
        | .error exception => thread.raise exception
        | .ok disk => { thread with disk, mode := .receiving file_name (data ++ pkt.content) }
  | .stopped | .terminated _ => thread

/-- `receivePushsOn` on a sequence of packets. -/
def receivePushsOn (thread : BackupThread) (packets : List Packet) : BackupThread :=
  packets.foldl receivePush thread

/-! ### What is sent to a backup -/

/-- What a backup gets for a packet: the announcement, and the file if it is to be written. -/
def pushPackets (type : UInt16) (content : Bytes) (disk : Directory) : List Packet :=
  (Packet.build type 0 content).received ::
    if type = t_WRITE.value then body MAX_PACKET_SIZE (disk content) else []

section SendToBackup

variable {pkt : Packet} {content : Bytes} (named : pkt.c_str = .ok content) (disk : Directory)
include named

theorem sendToBackup_eq :
    sendToBackup pkt disk = (do
      sendPacket pkt.type 0 content
      if pkt.type = t_WRITE.value then sendFileInChunks content MAX_PACKET_SIZE disk
      else pure ()) := by
  simp [sendToBackup, named]

/-- Only the announcement can end the sending with an exception. -/
theorem sendToBackup_eq_ok_iff {backup : Connection} :
    ((sendToBackup pkt disk).on backup).1 = .ok () ↔
      (Packet.build pkt.type 0 content).isPacketValid = true ∧
        backup.fails backup.arrived.length = false := by
  rw [sendToBackup_eq named disk, ← sendPacket_eq_ok_iff, Send.on_bind]
  rcases (sendPacket pkt.type 0 content).on backup with ⟨exception | _, after⟩
  · rfl
  · refine iff_of_true ?_ rfl
    simp only
    split
    · simp [sendFileInChunks, Send.on_swallow]
    · rfl

theorem sendToBackup_of_healthy (valid : (Packet.build pkt.type 0 content).isPacketValid = true)
    (arrived : List Packet) :
    (sendToBackup pkt disk).on (.healthy arrived) =
      (.ok (), .healthy (arrived ++ pushPackets pkt.type content disk)) := by
  rw [sendToBackup_eq named disk, Send.on_bind, sendPacket_valid valid, pushPackets]
  simp only
  split
  · rw [sendFileInChunks_healthy le_rfl, List.append_assoc, List.singleton_append]
  · rfl

end SendToBackup

theorem sendToBackup_fileName (type seqn : UInt16) (file_name : FileName) (disk : Directory)
    (arrived : List Packet) :
    (sendToBackup (Packet.build type seqn file_name.bytes) disk).on (.healthy arrived) =
      (.ok (), .healthy (arrived ++ Packet.build type 0 file_name.bytes ::
        if type = t_WRITE.value then body MAX_PACKET_SIZE (disk file_name.bytes) else [])) := by
  have named : (Packet.build type seqn file_name.bytes).c_str = .ok file_name.bytes := by
    rw [Packet.build_c_str, FileName.cString_bytes]
  have valid := Message.packet_valid ⟨type, 0, _, file_name.ne_nil, file_name.length_le_packet⟩
  have received :=
    Message.packet_received ⟨type, 0, _, file_name.ne_nil, file_name.length_le_packet⟩
  rw [Message.packet] at valid received
  rw [sendToBackup_of_healthy named disk valid, pushPackets, Packet.build_type, received]

theorem sendToBackup_write (seqn : UInt16) (file_name : FileName) (disk : Directory)
    (arrived : List Packet) :
    (sendToBackup (Packet.build t_WRITE.value seqn file_name.bytes) disk).on (.healthy arrived) =
      (.ok (), .healthy (arrived ++ Packet.build t_WRITE.value 0 file_name.bytes ::
        body MAX_PACKET_SIZE (disk file_name.bytes))) :=
  sendToBackup_fileName t_WRITE.value seqn file_name disk arrived

theorem sendToBackup_delete (seqn : UInt16) (file_name : FileName) (disk : Directory)
    (arrived : List Packet) :
    (sendToBackup (Packet.build t_DELETE.value seqn file_name.bytes) disk).on (.healthy arrived) =
      (.ok (), .healthy (arrived ++ [Packet.build t_DELETE.value 0 file_name.bytes])) :=
  sendToBackup_fileName t_DELETE.value seqn file_name disk arrived

end ClientManager

end SyncDir
