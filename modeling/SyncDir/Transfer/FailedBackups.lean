import Mathlib.Data.List.Forall2
import SyncDir.Transfer.Replication

/-!
# Backups that fail

`handle_new_push` hands a change to the other devices first and then sends it to
one backup after the other.  A file transfer swallows its exceptions, but the
announcement before it does not: the first backup on which it fails ends the
loop, so that the backups after it get nothing, and the exception reaches the
file watcher thread of the device that has made the change, which stops.

The announcement is the same for all backups.  It also fails everywhere if the
name does not make a valid packet.
-/

namespace SyncDir

namespace ClientManager

open FileManager NetworkManager PacketType

/-- The announcement of a change can be sent to a backup. -/
def Announced (type : UInt16) (content : Bytes) (backup : Connection) : Prop :=
  (Packet.build type 0 content).isPacketValid = true ∧
    backup.fails backup.arrived.length = false

section

variable {pkt : Packet} {content : Bytes} (named : pkt.c_str = .ok content) (disk : Directory)
include named

theorem pushToBackups_eq_ok_iff {backup_peers : List Connection} :
    (pushToBackups pkt disk backup_peers).1 = .ok () ↔
      ∀ backup ∈ backup_peers, Announced pkt.type content backup := by
  induction backup_peers with
  | nil => simp [pushToBackups]
  | cons backup backup_peers ih =>
      have announced : ((sendToBackup pkt disk).on backup).1 = .ok () ↔
          (Packet.build pkt.type 0 content).isPacketValid = true ∧
            backup.fails backup.arrived.length = false := sendToBackup_eq_ok_iff named disk
      rw [List.forall_mem_cons, ← ih, Announced, ← announced, pushToBackups]
      rcases (sendToBackup pkt disk).on backup with ⟨exception | _, after⟩
      · simp
      · simp

/-- When every announcement is sent, every healthy backup gets the whole change. -/
theorem pushToBackups_complete {backup_peers : List Connection}
    (announced : ∀ backup ∈ backup_peers, Announced pkt.type content backup) :
    List.Forall₂ (fun before after : Connection => before.Healthy →
        after.arrived = before.arrived ++ pushPackets pkt.type content disk)
      backup_peers (pushToBackups pkt disk backup_peers).2 := by
  induction backup_peers with
  | nil => exact .nil
  | cons backup backup_peers ih =>
      rcases List.forall_mem_cons.mp announced with ⟨first, later⟩
      have sent : ((sendToBackup pkt disk).on backup).1 = .ok () :=
        (sendToBackup_eq_ok_iff named disk).mpr first
      have split : pushToBackups pkt disk (backup :: backup_peers) =
          ((pushToBackups pkt disk backup_peers).1, ((sendToBackup pkt disk).on backup).2 ::
            (pushToBackups pkt disk backup_peers).2) := by
        rw [pushToBackups]
        rcases result : (sendToBackup pkt disk).on backup with ⟨exception | _, after⟩
        · rw [result] at sent
          cases sent
        · rfl
      rw [split]
      apply List.Forall₂.cons
      · intro healthy
        rw [healthy.eq, sendToBackup_of_healthy named disk first.1]
        rfl
      · exact ih later

end

/-- Every other device and every healthy backup gets the whole change, and no exception leaves
`handle_new_push`, exactly if the announcement can be sent to every backup. -/
theorem handle_new_push_complete_iff {Device : Type*} [DecidableEq Device] {pkt : Packet}
    {content : Bytes} (named : pkt.c_str = .ok content) (devices : List Device)
    (backup_peers : List Connection) (disk : Directory) (caller : Device) :
    ((∀ device ∈ devices, device ≠ caller → (device, pkt.type, content) ∈
          (handle_new_push devices backup_peers disk pkt caller).devices) ∧
        List.Forall₂ (fun before after : Connection => before.Healthy →
            after.arrived = before.arrived ++ pushPackets pkt.type content disk)
          backup_peers (handle_new_push devices backup_peers disk pkt caller).backup_peers ∧
        (handle_new_push devices backup_peers disk pkt caller).result = .ok ()) ↔
      ∀ backup ∈ backup_peers, Announced pkt.type content backup := by
  simp only [handle_new_push, named]
  constructor
  · rintro ⟨-, -, ended⟩
    exact (pushToBackups_eq_ok_iff named disk).mp ended
  · intro announced
    refine ⟨?_, pushToBackups_complete named disk announced,
      (pushToBackups_eq_ok_iff named disk).mpr announced⟩
    intro device device_mem other
    apply List.mem_map_of_mem
    simpa using ⟨device_mem, other⟩

def letterInF : Directory :=
  Function.update (fun _ => none) (ascii "f") (some (ascii "a"))

def writeOfF : Packet :=
  Packet.build t_WRITE.value 1 (ascii "f")

theorem writeOfF_c_str : writeOfF.c_str = .ok (ascii "f") :=
  rfl

theorem handle_new_push_complete_two :
    List.Forall₂ (fun before after : Connection => before.Healthy →
        after.arrived = before.arrived ++ pushPackets t_WRITE.value (ascii "f") letterInF)
      [.healthy [], .healthy []] (handle_new_push [1, 2] [.healthy [], .healthy []] letterInF
        writeOfF 1).backup_peers ∧
      (handle_new_push [1, 2] [.healthy [], .healthy []] letterInF
        writeOfF 1).result = .ok () := by
  have announced : Announced writeOfF.type (ascii "f") (.healthy []) := by
    exact ⟨by decide, rfl⟩
  have complete := handle_new_push_complete_iff writeOfF_c_str [1, 2]
    [.healthy [], .healthy []] letterInF 1
  refine (complete.mpr ?_).2
  intro backup backup_mem
  rcases List.mem_pair.mp backup_mem with rfl | rfl
  · exact announced
  · exact announced

def brokenConnection : Connection :=
  { arrived := [], fails := fun _ => true }

/-- The backup after the broken one gets nothing, and the exception leaves `handle_new_push`. -/
theorem handle_new_push_broken :
    (handle_new_push [1, 2] [brokenConnection, .healthy []] letterInF
        writeOfF 1).result =
      .error (.runtime_error "Failed to send packet on ") ∧
    (handle_new_push [1, 2] [brokenConnection, .healthy []] letterInF
        writeOfF 1).backup_peers.map Connection.arrived =
      [[], []] ∧
    pushPackets t_WRITE.value (ascii "f") letterInF ≠ [] := by
  refine ⟨rfl, rfl, ?_⟩
  simp [pushPackets]

end ClientManager

end SyncDir
