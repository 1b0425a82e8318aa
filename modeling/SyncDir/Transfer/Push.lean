import SyncDir.Client.Client
import SyncDir.Library.Lockstep
import SyncDir.Server.Device

/-!
# Pushes

The server pushes a change to a client by announcing it and, for a `t_WRITE`,
sending the file; the client's push thread should apply the changes one after
the other.  Its inner loop tests the packet that announced the file for the type
`t_END_OF_FILE`, and not the packet just received, so that the loop is never
left: the first `t_WRITE` swallows the rest of the connection.

What remains are deletions, of which the client reads only the first word of the
name.  A word that leads to a directory (`.` and `..`, or none at all) makes
`remove` fail, which terminates the client, or removes its empty base directory.
`Survives` says when a push is applied correctly, and a sequence of pushes is
applied correctly exactly if each of them is.
-/

namespace SyncDir

namespace Client

open FileManager NetworkManager PacketType

/-- A push that `pushThread` serves, with the directory from which a file is sent. -/
inductive ServedPush
  | write (file_name : FileName) (plain : file_name.IsWord) (content : Bytes) (disk : Directory)
      (stored : disk file_name.bytes = some content)
  | delete (file_name : FileName) (disk : Directory)

namespace ServedPush

def change : ServedPush → Change
  | write file_name _ content _ _ => .write file_name.bytes content
  | delete file_name _ => .delete file_name.bytes

def packets : ServedPush → List Packet
  | write file_name _ _ disk _ =>
      (Device.sendPush ⟨t_WRITE.value, file_name.bytes, disk⟩).packets
  | delete file_name disk => (Device.sendPush ⟨t_DELETE.value, file_name.bytes, disk⟩).packets

/-- The client applies the push to its directory: it is a deletion, and the first word of the
name is the name, or leads to no directory and neither of them is a file. -/
def Survives (sync_dir : Directory) : ServedPush → Prop
  | write .. => False
  | delete file_name _ =>
      file_name.IsWord ∨ (isDirectory (extractWord file_name.bytes) = false ∧
        sync_dir file_name.bytes = none ∧ sync_dir (extractWord file_name.bytes) = none)

def applyTo (sync_dir : Directory) (push : ServedPush) : Directory :=
  push.change.apply sync_dir

theorem packets_write (file_name : FileName) (plain : file_name.IsWord) (content : Bytes)
    (disk : Directory) (stored : disk file_name.bytes = some content) :
    (write file_name plain content disk stored).packets =
      Packet.build t_WRITE.value 1 file_name.bytes ::
        transfer 0 (chunks MAX_PACKET_SIZE content) := by
  rw [packets, Send.packets, Device.sendPush_write, plain, stored]
  rfl

theorem packets_delete (file_name : FileName) (disk : Directory) :
    (delete file_name disk).packets = [Packet.build t_DELETE.value 1 file_name.bytes] := by
  rw [packets, Send.packets, Device.sendPush_delete]
  rfl

end ServedPush

@[simp]
theorem PushThread.idle_inj {first second : Directory} :
    PushThread.idle first = .idle second ↔ first = second := by
  simp [PushThread.idle]

/-- The push thread will never wait for another announcement. -/
def PushThread.Stuck (thread : PushThread) : Prop :=
  match thread.mode with
  | .awaiting => False
  | .receiving pkt _ => pkt.type ≠ t_END_OF_FILE.value
  | .unlinked | .terminated _ => True

variable {isEmpty : Emptiness}

theorem PushThread.Stuck.handlePushPacket {thread : PushThread} (stuck : thread.Stuck)
    (pkt_received : Packet) : (handlePushPacket isEmpty thread pkt_received).Stuck := by
  unfold PushThread.Stuck at stuck
  split at stuck
  · exact absurd stuck id
  · rename_i pkt file_name receiving
    simp only [Client.handlePushPacket, receiving, if_neg stuck]
    split
    · trivial
    · simpa [PushThread.Stuck, receiving] using stuck
  · rename_i unlinked
    simp [Client.handlePushPacket, unlinked, PushThread.Stuck]
  · rename_i exception terminated
    simp [Client.handlePushPacket, terminated, PushThread.Stuck]

theorem PushThread.Stuck.handlePushThread {thread : PushThread} (stuck : thread.Stuck)
    (packets : List Packet) : (handlePushThread isEmpty thread packets).Stuck := by
  induction packets generalizing thread with
  | nil => exact stuck
  | cons pkt packets ih => exact ih (stuck.handlePushPacket pkt)

theorem handlePushPacket_write (sync_dir : Directory) (file_name : FileName) :
    handlePushPacket isEmpty (.idle sync_dir) (Packet.build t_WRITE.value 1 file_name.bytes) =
      { disk := clearFile sync_dir (extractWord file_name.bytes),
        mode := .receiving (Packet.build t_WRITE.value 1 file_name.bytes)
          (extractWord file_name.bytes),
        watcher_push_lock := true } := by
  simp [handlePushPacket, PushThread.idle]

section InnerLoop

variable {thread : PushThread} {pkt : Packet} {file_name built : Bytes}

/-- In its inner loop the push thread appends every packet to the file. -/
theorem handlePushPacket_receiving (receiving : thread.mode = .receiving pkt file_name)
    (notEnd : pkt.type ≠ t_END_OF_FILE.value) (proper : isDirectory file_name = false)
    (stored : thread.disk file_name = some built) (pkt_received : Packet) :
    handlePushPacket isEmpty thread pkt_received =
      { thread with
        disk := Function.update thread.disk file_name
          (some (built ++ pkt_received.content)) } := by
  simp only [handlePushPacket, receiving, if_neg notEnd, writeFile_of_proper proper, stored,
    Option.getD_some]

theorem handlePushThread_transfer (thread : PushThread) (built : Bytes) (pieces : List Bytes)
    (receiving : thread.mode = .receiving pkt file_name)
    (notEnd : pkt.type ≠ t_END_OF_FILE.value) (proper : isDirectory file_name = false)
    (stored : thread.disk file_name = some built)
    (fit : ∀ piece ∈ pieces, piece.length ≤ MAX_PACKET_SIZE) (sequenceNumber : UInt16) :
    handlePushThread isEmpty thread (transfer sequenceNumber pieces) =
      { thread with
        disk := Function.update thread.disk file_name
          (some (built ++ pieces.flatten ++ ascii "xxx")) } := by
  induction pieces generalizing thread built sequenceNumber with
  | nil =>
      rw [transfer, handlePushThread, List.foldl_cons, List.foldl_nil,
        handlePushPacket_receiving receiving notEnd proper stored,
        Packet.build_content (by decide), List.flatten_nil, List.append_nil]
  | cons piece pieces ih =>
      have rest := ih
        { thread with disk := Function.update thread.disk file_name (some (built ++ piece)) }
        (built ++ piece) receiving (Function.update_self ..)
        (fun later later_mem => fit later (List.mem_cons_of_mem _ later_mem)) (sequenceNumber + 1)
      rw [handlePushThread] at rest
      rw [transfer, handlePushThread, List.foldl_cons,
        handlePushPacket_receiving receiving notEnd proper stored,
        Packet.build_content (fit piece List.mem_cons_self), rest, Function.update_idem,
        List.flatten_cons, List.append_assoc built]

end InnerLoop

/-- What the client makes of a pushed file: it appends the closing packet, and goes on receiving
with the lock held. -/
theorem handlePushThread_write (sync_dir : Directory) (file_name : FileName)
    (plain : file_name.IsWord) (content : Bytes) (disk : Directory)
    (stored : disk file_name.bytes = some content) :
    handlePushThread isEmpty (.idle sync_dir)
        (ServedPush.write file_name plain content disk stored).packets =
      { disk := Function.update sync_dir file_name.bytes (some (content ++ ascii "xxx")),
        mode := .receiving (Packet.build t_WRITE.value 1 file_name.bytes) file_name.bytes,
        watcher_push_lock := true } := by
  rw [ServedPush.packets_write, handlePushThread, List.foldl_cons, handlePushPacket_write, plain,
    clearFile_of_proper file_name.proper]
  have received := @handlePushThread_transfer isEmpty _ _
    { disk := Function.update sync_dir file_name.bytes (some []),
      mode := .receiving (Packet.build t_WRITE.value 1 file_name.bytes) file_name.bytes,
      watcher_push_lock := true } [] (chunks MAX_PACKET_SIZE content) rfl (by simp)
    file_name.proper (Function.update_self ..) (fun _ => chunks_length_le) 0
  rw [handlePushThread] at received
  rw [received, chunks_flatten, Function.update_idem, List.nil_append]

/-- A deletion concerns the first word of its name. -/
theorem handlePushPacket_delete (sync_dir : Directory) (file_name : FileName)
    (proper : isDirectory (extractWord file_name.bytes) = false) :
    handlePushPacket isEmpty (.idle sync_dir) (Packet.build t_DELETE.value 1 file_name.bytes) =
      .idle (Function.update sync_dir (extractWord file_name.bytes) none) := by
  simp only [handlePushPacket, PushThread.idle, Packet.build_c_str, Packet.build_type,
    FileName.cString_bytes, PacketType.value_inj, reduceCtorEq, if_false, if_true,
    ne_nil_of_proper proper, false_and, deleteFile_of_proper proper]

/-- Where the first word leads to a directory, the client does not go on as before. -/
theorem handlePushPacket_delete_ne_idle (sync_dir other : Directory) (file_name : FileName)
    (directory : isDirectory (extractWord file_name.bytes) = true) :
    handlePushPacket isEmpty (.idle sync_dir) (Packet.build t_DELETE.value 1 file_name.bytes) ≠
      .idle other := by
  simp only [handlePushPacket, PushThread.idle, Packet.build_c_str, Packet.build_type,
    FileName.cString_bytes, PacketType.value_inj, reduceCtorEq, if_false, if_true, deleteFile,
    isFileExists, directory, Bool.true_or]
  split_ifs <;> simp

theorem handlePushThread_eq_idle_iff (sync_dir : Directory) (push : ServedPush) :
    handlePushThread isEmpty (.idle sync_dir) push.packets = .idle (push.applyTo sync_dir) ↔
      push.Survives sync_dir := by
  cases push with
  | write file_name plain content disk stored =>
      rw [ServedPush.packets_write, ServedPush.Survives, iff_false]
      intro applied
      have stuck : (handlePushPacket isEmpty (.idle sync_dir)
          (Packet.build t_WRITE.value 1 file_name.bytes)).Stuck := by
        rw [handlePushPacket_write]
        simp [PushThread.Stuck]
      have still := @PushThread.Stuck.handlePushThread isEmpty _ stuck
        (transfer 0 (chunks MAX_PACKET_SIZE content))
      rw [handlePushThread, List.foldl_cons] at applied
      rw [handlePushThread, applied] at still
      exact still
  | delete file_name disk =>
      rw [ServedPush.packets_delete]
      simp only [handlePushThread, List.foldl_cons, List.foldl_nil]
      cases directory : isDirectory (extractWord file_name.bytes) with
      | true =>
          have notWord : ¬file_name.IsWord := by
            intro whole
            rw [whole, file_name.proper] at directory
            cases directory
          refine iff_of_false (handlePushPacket_delete_ne_idle _ _ _ directory) ?_
          simp [ServedPush.Survives, notWord, directory]
      | false =>
          rw [handlePushPacket_delete _ _ directory, PushThread.idle_inj, ServedPush.applyTo,
            ServedPush.change, Mirror.Change.apply, Mirror.Change.key, Mirror.Change.result,
            update_none_eq_iff, ServedPush.Survives, FileName.IsWord, directory,
            and_comm (b := sync_dir (extractWord file_name.bytes) = none)]
          simp

/-- Every prefix of a sequence of pushes is applied to the client's directory, packet by packet,
exactly if every push survives in the directory in which it arrives. -/
theorem handlePushThread_follows_iff (isEmpty : Emptiness) (sync_dir : Directory)
    (pushes : List ServedPush) :
    (∀ count ≤ pushes.length,
        handlePushThread isEmpty (.idle sync_dir) ((pushes.take count).flatMap ServedPush.packets) =
          .idle ((pushes.take count).foldl ServedPush.applyTo sync_dir)) ↔
      Lockstep.Throughout ServedPush.applyTo ServedPush.Survives sync_dir pushes := by
  have follows := Lockstep.follows_iff_throughout
    (fun thread push => handlePushThread isEmpty thread push.packets) PushThread.idle
    handlePushThread_eq_idle_iff sync_dir pushes
  simpa only [Lockstep.Follows, handlePushThread, List.foldl_flatMap] using follows

def pushOfHi : ServedPush :=
  .write ⟨ascii "f", by decide⟩ (by decide) (ascii "hi")
    (Function.update (fun _ => none) (ascii "f") (some (ascii "hi"))) (Function.update_self ..)

/-- Whether a directory that can only hold `f` is empty. -/
def withoutF : Emptiness :=
  fun disk => (disk (ascii "f")).isNone

/-- The client takes the closing packet for data and keeps the lock. -/
theorem handlePushThread_pushOfHi :
    handlePushThread withoutF (.idle fun _ => none) pushOfHi.packets =
      { disk := Function.update (fun _ => none) (ascii "f") (some (ascii "hixxx")),
        mode := .receiving (Packet.build t_WRITE.value 1 (ascii "f")) (ascii "f"),
        watcher_push_lock := true } ∧
    handlePushThread withoutF (.idle fun _ => none) pushOfHi.packets ≠
      .idle (pushOfHi.applyTo fun _ => none) := by
  rw [pushOfHi, handlePushThread_write]
  exact ⟨rfl, by simp [PushThread.idle]⟩

end Client

end SyncDir
