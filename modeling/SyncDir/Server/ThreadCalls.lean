import SyncDir.Server.ThreadsOnHost

/-!
# The calls of the threads

A command or a push thread never changes a file.  A file watcher thread sends to
backups only.  And none of them sends anything that would depend on what has been
sent before, so the connections stay as they are as long as no socket fails.
-/

namespace SyncDir

open FileTree Routine PacketType Device

variable {cwd : Path Bytes} {getFiles : Directory → Bytes} {base_directory username : Bytes}
  {host : Host} {systemCall : SystemCall}

/-! ### Kinds of calls -/

namespace Send

/-- How the action ends and what it sends do not depend on what has been sent before, as long as
the connection does not fail. -/
def Steady (action : Send Unit) : Prop :=
  ∃ result sent, ∀ arrived, action.on (.healthy arrived) = (result, .healthy (arrived ++ sent))

theorem steady_sendPacket (type seqn : UInt16) (payload : Bytes) :
    Steady (NetworkManager.sendPacket type seqn payload) := by
  cases valid : (Packet.build type seqn payload).isPacketValid with
  | false =>
      refine ⟨.error (.runtime_error "Invalid packet"), [], ?_⟩
      intro arrived
      rw [NetworkManager.sendPacket_invalid valid, List.append_nil]
  | true => exact ⟨_, _, NetworkManager.sendPacket_valid valid⟩

theorem steady_sendPacketXxx (type seqn : UInt16) :
    Steady (NetworkManager.sendPacketXxx type seqn) :=
  steady_sendPacket type seqn _

theorem steady_sendFileInChunks (filepath : Bytes) (disk : Directory) :
    Steady (NetworkManager.sendFileInChunks filepath MAX_PACKET_SIZE disk) :=
  ⟨_, _, NetworkManager.sendFileInChunks_healthy le_rfl filepath disk⟩

end Send

namespace SystemCall

def Steady : SystemCall → Prop
  | transmit _ action => action.Steady
  | _ => True

def ToBackups : SystemCall → Prop
  | transmit (.backup _) _ => True
  | transmit _ _ => False
  | _ => True

def Reads : SystemCall → Prop
  | create _ | append _ _ | remove _ | rename _ _ => False
  | _ => True

end SystemCall

/-- No backup fails. -/
def Host.Connected (host : Host) : Prop :=
  ∀ index, (host.connections (.backup index)).Healthy

theorem Host.Connected.performCall (connected : host.Connected) (steady : systemCall.Steady) :
    (performCall cwd getFiles host systemCall).2.Connected := by
  cases systemCall with
  | openFile | create | append | remove | rename | list | sendPushTo => exact connected
  | transmit channel action =>
      rcases steady with ⟨result, sent, sends⟩
      intro index
      simp only [SyncDir.performCall]
      by_cases same : channel = .backup index
      · subst channel
        rw [Function.update_self, (connected index).eq, sends]
        exact fun _ => rfl
      · rw [Function.update_of_ne (Ne.symm same)]
        exact connected index

theorem files_performCall (reads : systemCall.Reads) :
    (performCall cwd getFiles host systemCall).2.files = host.files := by
  cases systemCall with
  | openFile | list | transmit | sendPushTo => rfl
  | create | append | remove | rename => exact reads.elim

namespace Thread

/-! ### What the threads perform -/

section Performed

open SystemCall Send

variable (device backup_peers : ℕ)

theorem performs_handleCommand (pkt : Packet) :
    Performs (fun systemCall => systemCall.Steady ∧ systemCall.Reads)
      (handleCommand base_directory device () pkt) := by
  cases named : pkt.c_str with
  | error exception =>
      simp only [handleCommand, named]
      trivial
  | ok payload_stream =>
      simp only [handleCommand, named]
      change Performs _ (ite _ _ _)
      split_ifs
      · simp
      · rw [performs_isFileExists_bind_iff, if_pos rfl, if_neg (by decide),
          (returns_transmit _ _).performs_iff]
        simp [steady_sendPacketXxx, steady_sendFileInChunks, SystemCall.Steady, Reads]
      · simp
      · simp [performs_bind_iff, steady_sendPacket, steady_sendPacketXxx, SystemCall.Steady, Reads]
      · simp

theorem performs_handlePush (push : PushCommand) :
    Performs (fun systemCall => systemCall.Steady ∧ systemCall.Reads)
      (handlePush base_directory device () push) := by
  rw [handlePush]
  split_ifs
  · simp [steady_sendPacket, steady_sendFileInChunks, SystemCall.Steady, Reads]
  · simp [steady_sendPacket, SystemCall.Steady, Reads]
  · simp

theorem performs_pushToBackups (type : UInt16) (content : Bytes) :
    Performs (fun systemCall => systemCall.Steady ∧ systemCall.ToBackups)
      (pushToBackups base_directory type content backup_peers) := by
  induction backup_peers with
  | zero => trivial
  | succ backup_peers ih =>
      rw [pushToBackups, (returns_pushToBackups _ _ _ _).performs_iff,
        (returns_transmit _ _).performs_iff]
      refine ⟨ih, ?_, ?_⟩
      · simp [steady_sendPacket, SystemCall.Steady, ToBackups]
      · split_ifs
        · simp [steady_sendFileInChunks, SystemCall.Steady, ToBackups]
        · simp

theorem performs_handleWatched (mode : WatcherMode) (pkt : Packet) :
    Performs (fun systemCall => systemCall.Steady ∧ systemCall.ToBackups)
      (handleWatched username backup_peers mode pkt) := by
  have pushes (announced : Announced) : Performs
      (fun systemCall => systemCall.Steady ∧ systemCall.ToBackups)
      (handle_new_push (directoryOf username) announced.pkt backup_peers) := by
    rw [handle_new_push, announced.named]
    change Performs _ (Routine.call _ >>= fun _ => _)
    rw [performs_bind_iff]
    exact ⟨⟨⟨trivial, trivial⟩, fun _ => trivial⟩, fun _ _ => performs_pushToBackups _ _ _⟩
  cases mode with
  | awaiting =>
      cases named : pkt.c_str with
      | error exception =>
          simp only [handleWatched, announcedBy_of_error named]
          trivial
      | ok file_name =>
          simp only [handleWatched, announcedBy_of_ok named]
          change Performs _ (ite _ _ _)
          split_ifs
          · simp [beginWrite, SystemCall.Steady, ToBackups]
          · have deletes := pushes { pkt, file_name, named }
            rw [(returns_handleDelete _ _ _).performs_iff, handleDelete,
              performs_isFileExists_bind_iff, if_neg (by decide), if_pos rfl,
              (returns_deleteFile _ _).performs_iff]
            simp only [deletes]
            simp [SystemCall.Steady, ToBackups]
          · simp
  | buildFile announced =>
      simp only [handleWatched]
      split_ifs
      · rw [(returns_finishWrite _ _ _).performs_iff, finishWrite,
          performs_checkFileHashchanged_bind_iff, if_pos rfl, if_neg (by decide),
          (returns_deleteFile _ _).performs_iff, (returns_renameFile _ _).performs_iff]
        simp only [pushes]
        simp [SystemCall.Steady, ToBackups]
      · simp [SystemCall.Steady, ToBackups]

theorem performs_loop {Mode Item : Type} {round : Mode → Item → Routine Mode}
    {atEnd : ThreadEnd} {allowed : SystemCall → Prop}
    (rounds : ∀ mode item, Performs allowed (round mode item)) (mode : Mode) (items : List Item) :
    (loop round atEnd mode items).Performs allowed := by
  induction items generalizing mode with
  | nil => trivial
  | cons item items ih => exact performs_loop_cons_iff.mpr ⟨rounds mode item, fun next _ => ih next⟩

end Performed

end Thread

end SyncDir
