import SyncDir.Library.Lockstep
import SyncDir.Server.ClientManager
import SyncDir.Server.UploadCells

/-!
# Replication

The leader sends every accepted change of its directory to the backups, which
should keep the same directory.  A backup appends the data of a `t_WRITE` to
whatever it has under that name, without clearing the file first, so that it
agrees with the leader only while no file with content is overwritten and no
absent file is created empty.

The packets of a change do not depend on the rest of the leader's directory, and
`receivePushsOn` puts them together to the change that was sent; only its effect
on the directory, `replicateTo`, can differ from the change.
-/

namespace SyncDir

namespace ClientManager

open FileManager NetworkManager PacketType

inductive AcceptedChange
  | write (file_name : FileName) (content : Bytes)
  | delete (file_name : FileName)
  deriving DecidableEq

namespace AcceptedChange

def change : AcceptedChange → Change
  | write file_name content => .write file_name.bytes content
  | delete file_name => .delete file_name.bytes

def applyTo (leader : Directory) (accepted : AcceptedChange) : Directory :=
  accepted.change.apply leader

/-- The packet with which the device has reported the change. -/
def announcement : AcceptedChange → Packet
  | write file_name _ => Packet.build t_WRITE.value 1 file_name.bytes
  | delete file_name => Packet.build t_DELETE.value 1 file_name.bytes

/-- A written file is found in the directory with the content of the change. -/
def HoldsIn (leader : Directory) : AcceptedChange → Prop
  | write file_name content => leader file_name.bytes = some content
  | delete _ => True

def packets : AcceptedChange → List Packet
  | write file_name content =>
      Packet.build t_WRITE.value 0 file_name.bytes :: transfer 0 (chunks MAX_PACKET_SIZE content)
  | delete file_name => [Packet.build t_DELETE.value 0 file_name.bytes]

/-- A backup's directory after it has received the change. -/
def replicateTo (backup : Directory) : AcceptedChange → Directory
  | write file_name content => appended backup file_name.bytes content
  | delete file_name => Function.update backup file_name.bytes none

/-- The change has the same effect at a backup: it deletes a file, or it writes one that is
empty, or one that is absent and does not stay empty. -/
def Replicates (leader : Directory) : AcceptedChange → Prop
  | write file_name content =>
      leader file_name.bytes = some [] ∨ content ≠ [] ∧ leader file_name.bytes = none
  | delete _ => True

theorem holdsIn_applyTo (leader : Directory) (accepted : AcceptedChange) :
    accepted.HoldsIn (accepted.applyTo leader) := by
  cases accepted with
  | write file_name content => exact Function.update_self ..
  | delete file_name => trivial

theorem replicateTo_eq_applyTo_iff (leader : Directory) (accepted : AcceptedChange) :
    accepted.replicateTo leader = accepted.applyTo leader ↔ accepted.Replicates leader := by
  cases accepted with
  | write file_name content => exact appended_eq_iff
  | delete file_name => exact iff_of_true rfl trivial

/-- An upload that is found to be a change leaves the leader with the change. -/
theorem handleWrite_eq_applyTo {differs : Bytes → Bytes → Bool} {leader : Directory}
    {file_name : FileName} {chunks : List Bytes}
    (changed : (Device.handleWrite differs Device.createCopy leader file_name.bytes chunks).1 =
      .finished true)
    (noCopy : leader (copyName file_name.bytes) = none) :
    (Device.handleWrite differs Device.createCopy leader file_name.bytes chunks).2 =
      (write file_name chunks.flatten).applyTo leader := by
  have written : Device.Cells.writeTo file_name.bytes leader
      { file := some chunks.flatten, copy := none } =
        (write file_name chunks.flatten).applyTo leader := by
    rw [Device.Cells.writeTo, Function.update_eq_self_iff.mpr]
    · rfl
    · rw [Function.update_of_ne (copyName_ne_self file_name.bytes), noCopy]
  by_cases fits : (copyName file_name.bytes).length ≤ NAME_MAX
  · rw [Device.handleWrite_eq differs chunks file_name.proper (Device.createCopy_yields fits)]
      at changed ⊢
    split at changed
    · rw [if_pos ‹_›, written]
    · simp at changed
  · rw [Device.handleWrite_eq_of_refused differs chunks file_name.proper
      (Device.createCopy_refuses fits)] at changed
    simp at changed

/-- A deletion of an existing file leaves the leader with the change. -/
theorem handleDelete_eq_applyTo {leader disk : Directory} {file_name : FileName}
    (handled : Device.handleDelete leader file_name.bytes = .ok (disk, true)) :
    disk = (delete file_name).applyTo leader := by
  rw [Device.handleDelete_eq file_name.proper] at handled
  split at handled
  · cases handled
    rfl
  · simp at handled

end AcceptedChange

/-- Send the accepted changes of a directory to a backup, one after the other. -/
def replicate (leader : Directory) : List AcceptedChange → Send Unit
  | [] => pure ()
  | accepted :: changes => do
      sendToBackup accepted.announcement (accepted.applyTo leader)
      replicate (accepted.applyTo leader) changes

/-! ### What is sent -/

theorem sendToBackup_healthy {leader : Directory} {accepted : AcceptedChange}
    (holds : accepted.HoldsIn leader) (arrived : List Packet) :
    (sendToBackup accepted.announcement leader).on (.healthy arrived) =
      (.ok (), .healthy (arrived ++ accepted.packets)) := by
  cases accepted with
  | write file_name content =>
      have stored : leader file_name.bytes = some content := holds
      rw [AcceptedChange.announcement, sendToBackup_write, stored]
      rfl
  | delete file_name => exact sendToBackup_delete 1 file_name leader arrived

theorem replicate_healthy (leader : Directory) (changes : List AcceptedChange)
    (arrived : List Packet) :
    (replicate leader changes).on (.healthy arrived) =
      (.ok (), .healthy (arrived ++ changes.flatMap AcceptedChange.packets)) := by
  induction changes generalizing leader arrived with
  | nil => simp [replicate]
  | cons accepted changes ih =>
      rw [replicate, Send.on_bind, sendToBackup_healthy (accepted.holdsIn_applyTo leader)]
      simp only
      rw [ih, List.flatMap_cons, List.append_assoc]

theorem packets_replicate (leader : Directory) (changes : List AcceptedChange) :
    (replicate leader changes).packets = changes.flatMap AcceptedChange.packets := by
  rw [Send.packets, replicate_healthy]
  rfl

/-! ### What is received -/

theorem receivePushsOn_transfer (disk : Directory) {file_name : Bytes}
    (proper : isDirectory file_name = false)
    (pieces : List Bytes) (nonempty : ∀ piece ∈ pieces, piece ≠ [])
    (fit : ∀ piece ∈ pieces, piece.length ≤ MAX_PACKET_SIZE) (sequenceNumber : UInt16)
    (data : Bytes) (received : List Change) :
    receivePushsOn { disk, mode := .receiving file_name data, received }
        (transfer sequenceNumber pieces) =
      .idle (appended disk file_name pieces.flatten)
        (received ++ [.write file_name (data ++ pieces.flatten)]) := by
  induction pieces generalizing disk data sequenceNumber with
  | nil =>
      simp [transfer, receivePushsOn, receivePush, appended]
  | cons piece pieces ih =>
      have rest := ih (appended disk file_name piece)
        (fun later later_mem => nonempty later (List.mem_cons_of_mem _ later_mem))
        (fun later later_mem => fit later (List.mem_cons_of_mem _ later_mem))
        (sequenceNumber + 1) (data ++ piece)
      have written := writeFile_eq_appended proper disk (nonempty piece List.mem_cons_self)
      rw [receivePushsOn] at rest
      rw [transfer, receivePushsOn, List.foldl_cons]
      simp only [receivePush, Packet.build_type, PacketType.value_inj, reduceCtorEq, if_false,
        Packet.build_content (fit piece List.mem_cons_self), written]
      rw [rest, appended_append, List.flatten_cons, List.append_assoc]

/-- A backup puts the packets of a change together to the change. -/
theorem receivePushsOn_packets (disk : Directory) (received : List Change)
    (accepted : AcceptedChange) :
    receivePushsOn (.idle disk received) accepted.packets =
      .idle (accepted.replicateTo disk) (received ++ [accepted.change]) := by
  cases accepted with
  | write file_name content =>
      have transferred := receivePushsOn_transfer disk file_name.proper
        (chunks MAX_PACKET_SIZE content) (fun _ => chunks_ne_nil) (fun _ => chunks_length_le)
        0 [] received
      rw [chunks_flatten, receivePushsOn] at transferred
      simpa [AcceptedChange.packets, AcceptedChange.replicateTo, AcceptedChange.change,
        receivePushsOn, receivePush, BackupThread.idle] using transferred
  | delete file_name =>
      simp [AcceptedChange.packets, receivePushsOn, receivePush, BackupThread.idle,
        deleteFile_of_proper file_name.proper, AcceptedChange.replicateTo, AcceptedChange.change]

theorem receivePushsOn_flatMap (disk : Directory) (received : List Change)
    (changes : List AcceptedChange) :
    receivePushsOn (.idle disk received) (changes.flatMap AcceptedChange.packets) =
      .idle (changes.foldl AcceptedChange.replicateTo disk)
        (received ++ changes.map AcceptedChange.change) := by
  induction changes generalizing disk received with
  | nil => simp [receivePushsOn]
  | cons accepted changes ih =>
      have first := receivePushsOn_packets disk received accepted
      simp only [receivePushsOn] at first ih ⊢
      rw [List.flatMap_cons, List.foldl_append, first, ih]
      simp

/-- The backup's directory equals the leader's after each of a sequence of accepted changes
exactly if each of them replicates in the leader's directory before it. -/
theorem receivePushsOn_replicate_iff (leader : Directory) (changes : List AcceptedChange) :
    (∀ count ≤ changes.length,
        (receivePushsOn (.idle leader []) (replicate leader (changes.take count)).packets).disk =
          (changes.take count).foldl AcceptedChange.applyTo leader) ↔
      Lockstep.Throughout AcceptedChange.applyTo AcceptedChange.Replicates leader changes := by
  simp only [packets_replicate, receivePushsOn_flatMap]
  exact Lockstep.follows_iff_throughout (fun backup accepted => accepted.replicateTo backup) id
    AcceptedChange.replicateTo_eq_applyTo_iff leader changes

/-- A backup that has received `a` and then `b` for a new file holds `ab`. -/
theorem receivePushsOn_overwritten :
    (receivePushsOn (.idle (fun _ => none) []) (replicate (fun _ => none)
        [.write ⟨ascii "f", by decide⟩ (ascii "a"),
          .write ⟨ascii "f", by decide⟩ (ascii "b")]).packets).disk (ascii "f") =
      some (ascii "ab") ∧
    (receivePushsOn (.idle (fun _ => none) []) (replicate (fun _ => none)
        [.write ⟨ascii "f", by decide⟩ (ascii "a"),
          .write ⟨ascii "f", by decide⟩ (ascii "b")]).packets).disk ≠
      [AcceptedChange.write ⟨ascii "f", by decide⟩ (ascii "a"),
        .write ⟨ascii "f", by decide⟩ (ascii "b")].foldl AcceptedChange.applyTo fun _ => none := by
  rw [packets_replicate, receivePushsOn_flatMap]
  refine ⟨by decide, ?_⟩
  intro same
  exact absurd (congrFun same (ascii "f")) (by decide)

end ClientManager

end SyncDir
