import SyncDir.Library.Interleaving
import SyncDir.Transfer.Replication

/-!
# Concurrent pushes to a backup

Each file watcher thread of a user's devices calls `handle_new_push`, and all of
them send on the same connection to a backup.  Single packets are sent as a
whole, but nothing keeps the packets of one change together.

A deletion is a single packet, so that two of them cannot be mixed.  The packets
of a written file can: the announcement of another change that comes after the
announcement of the file is taken for data of the file.
-/

namespace SyncDir

namespace ClientManager

open FileManager NetworkManager PacketType

/-- A change that `handle_new_push` sends to a backup, with the leader's directory from which it
reads the file. -/
structure BackupPush where
  accepted : AcceptedChange
  disk : Directory
  stored : accepted.HoldsIn disk

namespace BackupPush

def packets (push : BackupPush) : List Packet :=
  (sendToBackup push.accepted.announcement push.disk).packets

theorem packets_eq (push : BackupPush) : push.packets = push.accepted.packets := by
  rw [packets, Send.packets, sendToBackup_healthy push.stored]
  rfl

end BackupPush

/-- A backup takes packets for one change and then another, and for nothing else. -/
def ReceivedAs (thread : BackupThread) (merged : List Packet) (first second : AcceptedChange) :
    Prop :=
  receivePushsOn thread merged =
    .idle (second.replicateTo (first.replicateTo thread.disk))
      (thread.received ++ [first.change, second.change])

namespace AcceptedChange

/-- The change is sent as a single packet. -/
def IsDelete : AcceptedChange → Prop
  | write _ _ => False
  | delete _ => True

end AcceptedChange

theorem receivedAs_append (disk : Directory) (earlier : List Change)
    (first second : AcceptedChange) :
    ReceivedAs (.idle disk earlier) (first.packets ++ second.packets) first second := by
  have received := receivePushsOn_flatMap disk earlier [first, second]
  simpa [ReceivedAs, BackupThread.idle] using received

/-- The data of a file whose announcement is missing is left out. -/
theorem receivePushsOn_unannounced (disk : Directory) (received : List Change)
    (sequenceNumber : UInt16) (pieces : List Bytes) :
    receivePushsOn (.idle disk received) (transfer sequenceNumber pieces) =
      .idle disk received := by
  induction pieces generalizing sequenceNumber with
  | nil => simp [transfer, receivePushsOn, receivePush, BackupThread.idle]
  | cons piece pieces ih =>
      have ignored : receivePush (.idle disk received)
          (Packet.build t_DATA.value sequenceNumber piece) = .idle disk received := by
        simp [receivePush, BackupThread.idle]
      simp only [receivePushsOn] at ih ⊢
      rw [transfer, List.foldl_cons, ignored, ih]

/-- A change begins with a packet that does not close a transfer, and what comes after this packet
has no effect without it. -/
theorem AcceptedChange.exists_packets_eq_cons (accepted : AcceptedChange) :
    ∃ opening rest, accepted.packets = opening :: rest ∧
      opening.type ≠ t_END_OF_FILE.value ∧
      ∀ disk received, receivePushsOn (.idle disk received) rest = .idle disk received := by
  cases accepted with
  | write file_name content =>
      refine ⟨_, _, rfl, by simp, ?_⟩
      intro disk received
      apply receivePushsOn_unannounced
  | delete file_name =>
      refine ⟨_, _, rfl, by simp, ?_⟩
      intro disk received
      rfl

/-- A packet that overtakes the data of a file becomes a part of the file. -/
theorem receivePushsOn_overtaken (disk : Directory) (earlier : List Change)
    (file_name : FileName) (content : Bytes) {opening : Packet} {rest : List Packet}
    (notEnd : opening.type ≠ t_END_OF_FILE.value)
    (ignored : ∀ disk received, receivePushsOn (.idle disk received) rest = .idle disk received) :
    (receivePushsOn (.idle disk earlier)
      (Packet.build t_WRITE.value 0 file_name.bytes :: opening ::
        (transfer 0 (chunks MAX_PACKET_SIZE content) ++ rest))).received =
      earlier ++ [.write file_name.bytes (opening.content ++ content)] := by
  have proper := file_name.proper
  have taken : receivePush (receivePush (.idle disk earlier)
      (Packet.build t_WRITE.value 0 file_name.bytes)) opening =
        { disk := Function.update disk file_name.bytes
            (some ((disk file_name.bytes).getD [] ++ opening.content))
          mode := .receiving file_name.bytes opening.content
          received := earlier } := by
    simp [receivePush, BackupThread.idle, notEnd, writeFile_of_proper proper]
  have transferred := receivePushsOn_transfer (Function.update disk file_name.bytes
      (some ((disk file_name.bytes).getD [] ++ opening.content))) proper
    (chunks MAX_PACKET_SIZE content) (fun _ => chunks_ne_nil) (fun _ => chunks_length_le) 0
    opening.content earlier
  simp only [receivePushsOn] at transferred ignored ⊢
  rw [List.foldl_cons, List.foldl_cons, taken, List.foldl_append, transferred, ignored,
    chunks_flatten]
  rfl

theorem AcceptedChange.isDelete_of_received (disk : Directory) (earlier : List Change)
    {accepted : AcceptedChange} (other : AcceptedChange)
    (unmixed : ∀ merged, Interleaving accepted.packets other.packets merged →
      ∃ first second, ReceivedAs (.idle disk earlier) merged first second) :
    accepted.IsDelete := by
  cases accepted with
  | delete file_name => trivial
  | write file_name content =>
      rcases other.exists_packets_eq_cons with ⟨opening, rest, split, notEnd, ignored⟩
      rw [split] at unmixed
      rcases unmixed _ (.overtake _ _ _ _) with ⟨first, second, received⟩
      have overtaken := receivePushsOn_overtaken disk earlier file_name content notEnd ignored
      rw [received] at overtaken
      simpa [BackupThread.idle] using congrArg List.length overtaken

theorem AcceptedChange.IsDelete.packets_eq {accepted : AcceptedChange}
    (deletes : accepted.IsDelete) : ∃ pkt, accepted.packets = [pkt] := by
  cases accepted with
  | write => exact deletes.elim
  | delete file_name => exact ⟨_, rfl⟩

/-- Two changes that are pushed to a backup at the same time are received as the two changes, for
every interleaving of their packets, exactly if both of them are deletions. -/
theorem receivePushsOn_interleaving_iff (disk : Directory) (earlier : List Change)
    (first second : BackupPush) :
    (∀ merged, Interleaving first.packets second.packets merged →
      ReceivedAs (.idle disk earlier) merged first.accepted second.accepted ∨
        ReceivedAs (.idle disk earlier) merged second.accepted first.accepted) ↔
      first.accepted.IsDelete ∧ second.accepted.IsDelete := by
  rw [first.packets_eq, second.packets_eq]
  constructor
  · intro unmixed
    constructor
    · apply AcceptedChange.isDelete_of_received disk earlier second.accepted
      intro merged interleaving
      rcases unmixed merged interleaving with received | received
      · exact ⟨_, _, received⟩
      · exact ⟨_, _, received⟩
    · apply AcceptedChange.isDelete_of_received disk earlier first.accepted
      intro merged interleaving
      rcases unmixed merged interleaving.symm with received | received
      · exact ⟨_, _, received⟩
      · exact ⟨_, _, received⟩
  · rintro ⟨firstDeletes, secondDeletes⟩ merged interleaving
    have firstThenSecond := receivedAs_append disk earlier first.accepted second.accepted
    have secondThenFirst := receivedAs_append disk earlier second.accepted first.accepted
    rcases firstDeletes.packets_eq with ⟨firstPkt, firstSingle⟩
    rcases secondDeletes.packets_eq with ⟨secondPkt, secondSingle⟩
    rw [firstSingle, secondSingle] at interleaving firstThenSecond secondThenFirst
    rcases interleaving.eq_of_singletons with rfl | rfl
    · exact Or.inl firstThenSecond
    · exact Or.inr secondThenFirst

/-- The push of a file with the name and the content of one letter each. -/
def pushOfLetter (file_name : FileName) (content : Bytes) : BackupPush where
  accepted := .write file_name content
  disk := Function.update (fun _ => none) file_name.bytes (some content)
  stored := Function.update_self ..

/-- The announcement of `g` comes before the data of `f` and is written to `f`; the data of `g`
comes when no transfer is open, and is lost. -/
theorem receivePushsOn_mixed :
    ∃ merged, Interleaving (pushOfLetter ⟨ascii "f", by decide⟩ (ascii "a")).packets
        (pushOfLetter ⟨ascii "g", by decide⟩ (ascii "b")).packets merged ∧
      (receivePushsOn (.idle (fun _ => none) []) merged).received =
        [.write (ascii "f") (ascii "ga")] ∧
      (receivePushsOn (.idle (fun _ => none) []) merged).disk (ascii "f") = some (ascii "ga") ∧
      (receivePushsOn (.idle (fun _ => none) []) merged).disk (ascii "g") = none ∧
      ∀ first second, ¬ReceivedAs (.idle (fun _ => none) []) merged first second := by
  rw [BackupPush.packets_eq, BackupPush.packets_eq]
  refine ⟨_, .overtake _ _ _ _, ?_⟩
  rw [chunks_of_length_le (by decide) (by decide), chunks_of_length_le (by decide) (by decide)]
  refine ⟨rfl, by decide, by decide, ?_⟩
  intro first second received
  have twoChanges := congrArg (fun thread => thread.received.length) received
  cases twoChanges

end ClientManager

end SyncDir
