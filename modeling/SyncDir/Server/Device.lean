import Mathlib.Logic.Function.Iterate
import SyncDir.Utils.NetworkManager

/-!
# Devices at the server

The server has one `Device` for each connected device of a user.  Its file
watcher thread receives the changes that the device reports: a `t_WRITE` packet
is followed by the file, which is built as a copy, compared with the stored file
by its hash and renamed over it if they differ.  The push thread sends on what
other devices have changed, and the command thread answers requests.

The handling of a `t_WRITE` packet is modelled as a sequence of single file
operations, since the threads of a user's devices share one directory.  The hash
test is a parameter, which `FileManager.fnvDiffers` instantiates.  The name of
the copy is longer than that of the file, so that creating it can fail for a
name that the directory can hold (`createCopy`); in `uploadStep` the creation of
the copy is a parameter, too.
-/

namespace SyncDir

/-- `NAME_MAX`, the length of the longest name of a directory entry. -/
def NAME_MAX : ℕ := 255

namespace Device

open FileManager NetworkManager PacketType

/-! ### The file watcher thread -/

/-- How `buildFile` ends: at its end packet, waiting for a packet, or with an exception. -/
inductive BuildResult
  | finished (disk : Directory) (rest : List Packet)
  | waiting (disk : Directory)
  | raised (exception : Exception) (disk : Directory)

/-- `buildFile` appends packets to a file until one of them has the payload `END_OF_FILE`. -/
def buildFile (disk : Directory) (file_name : Bytes) : List Packet → BuildResult
  | [] => .waiting disk
  | pkt_received :: packets =>
      if pkt_received.content = ascii "END_OF_FILE" then
        .finished disk packets
      else
        match writeFile disk file_name pkt_received.content with
        | .error exception => .raised exception disk
        | .ok written => buildFile written file_name packets

def createCopy (disk : Directory) (file_name : Bytes) : Except Exception Directory :=
  if NAME_MAX < (copyName file_name).length then
    .error (.runtime_error "Falha ao criar arquivo: ")
  else createFile disk (copyName file_name)

inductive UploadPoint
  | testAndCreate
  | createCopy
  /-- In `buildFile`, with the payloads that are still to be appended. -/
  | buildFile (unread : List Bytes)
  | checkFileHashchanged
  | deleteFile
  | renameFile
  | deleteCopy
  | finished (changed : Bool)
  | raised (exception : Exception)
  deriving DecidableEq

/-- Go on at `next` after a file operation, unless it throws. -/
def attempt (disk : Directory) (next : UploadPoint) :
    Except Exception Directory → UploadPoint × Directory
  | .ok changed => (next, changed)
  | .error exception => (.raised exception, disk)

/-- How a copy is created, which is `createCopy` at the server. -/
abbrev CopyCreation : Type :=
  Directory → Bytes → Except Exception Directory

/-- One step of the handling of a `t_WRITE` packet, for a file that arrives as `chunks`. -/
def uploadStep (differs : Bytes → Bytes → Bool) (create : CopyCreation) (file_name : Bytes)
    (chunks : List Bytes) : UploadPoint → Directory → UploadPoint × Directory
  | .testAndCreate, disk =>
      if isFileExists disk file_name then (.createCopy, disk)
      else attempt disk .createCopy (createFile disk file_name)
  | .createCopy, disk => attempt disk (.buildFile chunks) (create disk file_name)
  | .buildFile (data :: unread), disk =>
      attempt disk (.buildFile unread) (writeFile disk (copyName file_name) data)
  | .buildFile [], disk => (.checkFileHashchanged, disk)
  | .checkFileHashchanged, disk =>
      match compareFiles differs disk file_name (copyName file_name) with
      | .error exception => (.raised exception, disk)
      | .ok true => (.deleteFile, disk)
      | .ok false => (.deleteCopy, disk)
  | .deleteFile, disk => attempt disk .renameFile (FileManager.deleteFile disk file_name)
  | .renameFile, disk =>
      attempt disk (.finished true) (FileManager.renameFile disk (copyName file_name) file_name)
  | .deleteCopy, disk =>
      attempt disk (.finished false) (FileManager.deleteFile disk (copyName file_name))
  | .finished changed, disk => (.finished changed, disk)
  | .raised exception, disk => (.raised exception, disk)

/-- The handling of a `t_WRITE` packet from beginning to end. -/
def handleWrite (differs : Bytes → Bytes → Bool) (create : CopyCreation) (disk : Directory)
    (file_name : Bytes) (chunks : List Bytes) : UploadPoint × Directory :=
  (Function.uncurry (uploadStep differs create file_name chunks))^[chunks.length + 6]
    (.testAndCreate, disk)

/-- The handling of a `t_DELETE` packet, and whether `handle_new_push` is called. -/
def handleDelete (disk : Directory) (file_name : Bytes) : Except Exception (Directory × Bool) :=
  if isFileExists disk file_name then
    (FileManager.deleteFile disk file_name).map fun deleted => (deleted, true)
  else
    .ok (disk, false)

/-! ### The push thread -/

/-- What `sendPushTo` has left for the push thread, and the directory when it is served. -/
structure PushRequest where
  push_type : UInt16
  push_command : Bytes
  disk : Directory

/-- One round of `pushThread`. -/
def sendPush (request : PushRequest) : Send Unit :=
  if request.push_type = t_WRITE.value then do
    sendPacket t_WRITE.value 1 request.push_command
    sendFileInChunks (extractWord request.push_command) MAX_PACKET_SIZE request.disk
  else if request.push_type = t_DELETE.value then
    sendPacket t_DELETE.value 1 request.push_command
  else
    pure ()

def pushThread (requests : List PushRequest) : Send Unit :=
  Send.each sendPush requests

/-! ### The command thread -/

/-- What the command thread meets when it handles a packet: the directory when it tests for a
file, the directory when it sends the file, and the listing of the directory. -/
structure Command where
  pkt : Packet
  tested : Directory
  sent : Directory
  getFiles : Bytes

def noFiles : Bytes := ascii "NAO H" ++ [0xC3, 0x81] ++ ascii " ARQUIVOS"

/-- One round of `commandThread`. -/
def handleCommand (command : Command) : Send Unit := do
  let payload_stream ← (command.pkt.c_str : Except Exception Bytes)
  if command.pkt.type = t_UPLOAD.value then
    pure ()
  else if command.pkt.type = t_DOWNLOAD.value then
    let file_name := extractWord payload_stream
    if isFileExists command.tested file_name = false then
      sendPacketXxx t_FILE_NOT_FOUND.value 1
    else do
      sendPacketXxx t_FILE_FOUND.value 1
      sendFileInChunks file_name MAX_PACKET_SIZE command.sent
  else if command.pkt.type = t_DELETE.value then
    pure ()
  else if command.pkt.type = t_LIST.value then
    let fim := if command.getFiles = [] then noFiles else command.getFiles
    sendPacket t_DATA.value 1 fim
    sendPacketXxx t_END_OF_FILE.value 1
  else
    pure ()

def commandThread (commands : List Command) : Send Unit :=
  Send.each handleCommand commands

/-! ### What a deletion does -/

theorem handleDelete_eq {file_name : Bytes} (proper : isDirectory file_name = false)
    (disk : Directory) :
    handleDelete disk file_name =
      .ok (if (disk file_name).isSome then (Function.update disk file_name none, true)
        else (disk, false)) := by
  rw [handleDelete, isFileExists_of_proper proper, deleteFile_of_proper proper]
  split <;> rfl

/-! ### What is pushed -/

theorem sendPush_write (file_name : FileName) (disk : Directory) (arrived : List Packet) :
    (sendPush ⟨t_WRITE.value, file_name.bytes, disk⟩).on (.healthy arrived) =
      (.ok (), .healthy (arrived ++ Packet.build t_WRITE.value 1 file_name.bytes ::
        body MAX_PACKET_SIZE (disk (extractWord file_name.bytes)))) := by
  rw [sendPush, if_pos rfl]
  exact announce_healthy file_name.ne_nil file_name.length_le_packet _ _ _ _ _

theorem sendPush_delete (file_name : FileName) (disk : Directory) (arrived : List Packet) :
    (sendPush ⟨t_DELETE.value, file_name.bytes, disk⟩).on (.healthy arrived) =
      (.ok (), .healthy (arrived ++ [Packet.build t_DELETE.value 1 file_name.bytes])) := by
  have notWrite : t_DELETE.value ≠ t_WRITE.value := by decide
  rw [sendPush, if_neg notWrite, if_pos rfl]
  exact sendPacket_healthy file_name.ne_nil file_name.length_le_packet _ _ _

end Device

end SyncDir
