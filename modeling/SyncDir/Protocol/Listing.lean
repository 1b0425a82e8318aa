import SyncDir.Protocol.CommandSession
import SyncDir.Transfer.Closing

/-!
# Listing the files of the server

`getFiles` prints a line for each regular file of a directory.  The command thread sends all lines
in one packet, which they do not fit into if there are too many of them, and the client reads
packets until one of them ends the list.
-/

namespace SyncDir

open Client NetworkManager PacketType

/-- What `directory_iterator` and `stat` say about an entry of a directory, with times as they are
printed; the access time and the change time are missing if `stat` fails. -/
structure DirectoryEntry where
  file_name : Bytes
  is_regular_file : Bool
  mtime : Bytes
  stat : Option (Bytes × Bytes)

namespace DirectoryEntry

def line (entry : DirectoryEntry) : Bytes :=
  match entry.stat with
  | some (atime, ctime) =>
      entry.file_name ++ ascii " (mtime: " ++ entry.mtime ++ ascii ", atime: " ++ atime ++
        ascii ", ctime: " ++ ctime ++ ascii ")\n"
  | none => entry.file_name ++ ascii " (erro ao obter stat)\n"

def lineLength (entry : DirectoryEntry) : ℕ :=
  match entry.stat with
  | some (atime, ctime) =>
      entry.file_name.length + entry.mtime.length + atime.length + ctime.length + 29
  | none => entry.file_name.length + 22

theorem length_line (entry : DirectoryEntry) : entry.line.length = entry.lineLength := by
  have mtime : (ascii " (mtime: ").length = 9 := by decide
  have atime : (ascii ", atime: ").length = 9 := by decide
  have ctime : (ascii ", ctime: ").length = 9 := by decide
  have closing : (ascii ")\n").length = 2 := by decide
  have failed : (ascii " (erro ao obter stat)\n").length = 22 := by decide
  rw [line, lineLength]
  split
  · simp only [List.length_append, mtime, atime, ctime, closing]
    omega
  · rw [List.length_append, failed]

end DirectoryEntry

def FileManager.getFiles (entries : List DirectoryEntry) : Bytes :=
  ((entries.filter DirectoryEntry.is_regular_file).map DirectoryEntry.line).flatten

theorem FileManager.length_getFiles (entries : List DirectoryEntry) :
    (getFiles entries).length =
      ((entries.filter DirectoryEntry.is_regular_file).map DirectoryEntry.lineLength).sum := by
  rw [getFiles, List.length_flatten, List.map_map]
  exact congrArg List.sum (List.map_congr_left fun entry _ => entry.length_line)

namespace Device

/-- What the command thread sends for a `t_LIST` packet. -/
def listing (getFiles : Bytes) : Bytes :=
  if getFiles = [] then noFiles else getFiles

/-- The answer to a `t_LIST` packet: the whole listing and an end packet.  The client gets out of
its loop, and the command thread goes on to later commands. -/
structure Answered (command : Command) (data : List Packet) (last : Packet) : Prop where
  types : (∀ pkt ∈ data, pkt.type = t_DATA.value) ∧ last.type = t_END_OF_FILE.value
  whole : (data.map Packet.content).flatten = listing command.getFiles
  sent : ∀ arrived, (handleCommand command).on (.healthy arrived) =
    (.ok (), .healthy (arrived ++ (data ++ [last])))
  ends : ∀ thread : IoThread, thread.mode = .receivingList →
    (data ++ [last]).foldl handleIoPacket thread = { thread with mode := .getline }
  goesOn : ∀ later arrived, (commandThread (command :: later)).on (.healthy arrived) =
    (commandThread later).on (.healthy (arrived ++ (data ++ [last])))

section

variable {command : Command}

theorem foldl_handleIoPacket_data {data : List Packet}
    (types : ∀ pkt ∈ data, pkt.type = t_DATA.value) {thread : IoThread}
    (receiving : thread.mode = .receivingList) :
    data.foldl handleIoPacket thread = thread := by
  have notEnd : ¬t_DATA.value = t_END_OF_FILE.value := by decide
  induction data with
  | nil => rfl
  | cons pkt data ih =>
      have kept : handleIoPacket thread pkt = thread := by
        simp only [handleIoPacket, receiving, types pkt List.mem_cons_self, if_neg notEnd]
      rw [List.foldl_cons, kept]
      exact ih fun later later_mem => types later (List.mem_cons_of_mem _ later_mem)

/-- If the packets have the right types and make up the listing, the rest follows. -/
theorem Answered.of_sent {data : List Packet} {last : Packet}
    (types : (∀ pkt ∈ data, pkt.type = t_DATA.value) ∧ last.type = t_END_OF_FILE.value)
    (whole : (data.map Packet.content).flatten = listing command.getFiles)
    (sent : ∀ arrived, (handleCommand command).on (.healthy arrived) =
      (.ok (), .healthy (arrived ++ (data ++ [last])))) : Answered command data last := by
  refine ⟨types, whole, sent, ?_, ?_⟩
  · intro thread receiving
    rw [List.foldl_append, foldl_handleIoPacket_data types.1 receiving, List.foldl_cons,
      List.foldl_nil, handleIoPacket, receiving]
    exact if_pos types.2
  · intro later arrived
    rw [commandThread, Send.each, Send.on_bind, sent]
    rfl

end

theorem length_listing_le_iff (getFiles : Bytes) :
    (listing getFiles).length ≤ MAX_PACKET_SIZE ↔ getFiles.length ≤ MAX_PACKET_SIZE := by
  rw [listing]
  split
  · subst getFiles
    decide
  · rfl

theorem listing_ne_nil (getFiles : Bytes) : listing getFiles ≠ [] := by
  rw [listing]
  split
  · decide
  · assumption

section

variable {command : Command}

theorem commandFails_list (isList : command.pkt.type = t_LIST.value) :
    commandFails command = false ↔
      command.pkt.payload.isSome = true ∧ (listingPacket command).isPacketValid = true := by
  simp [commandFails, isList]

theorem answer_list (isList : command.pkt.type = t_LIST.value)
    (handled : commandFails command = false) (arrived : List Packet) :
    (handleCommand command).on (.healthy arrived) = (.ok (), .healthy (arrived ++
      [(listingPacket command).received, Packet.build t_END_OF_FILE.value 1 (ascii "xxx")])) := by
  have notDownload : ¬t_LIST.value = t_DOWNLOAD.value := by decide
  rw [handleCommand_healthy handled, commandSegment, isList, if_neg notDownload, if_pos rfl]
  rfl

theorem Answered.handled {data : List Packet} {last : Packet}
    (answered : Answered command data last) : commandFails command = false := by
  cases fails : commandFails command with
  | false => rfl
  | true =>
      rcases handleCommand_fails fails [] with ⟨exception, failed⟩
      rw [answered.sent] at failed
      cases failed

/-- The only data packet of an answer has the listing as its content. -/
theorem Answered.length_listing_le (isList : command.pkt.type = t_LIST.value) {data : List Packet}
    {last : Packet} (answered : Answered command data last) :
    (listing command.getFiles).length ≤ MAX_PACKET_SIZE := by
  have valid := ((commandFails_list isList).mp answered.handled).2
  have sent := answered.sent []
  rw [answer_list isList answered.handled] at sent
  have arrived : [(listingPacket command).received] ++ [_] = data ++ [last] :=
    congrArg (fun result => result.2.arrived) sent
  have single := List.append_inj_left' arrived rfl
  calc (listing command.getFiles).length
      = (listingPacket command).received.content.length := by
        rw [← answered.whole, ← single, List.map_singleton, List.flatten_singleton]
    _ ≤ (listingPacket command).length.toNat := Packet.length_content_le _
    _ ≤ MAX_PACKET_SIZE := Packet.length_le_of_isPacketValid valid

theorem Answered.of_fits (isList : command.pkt.type = t_LIST.value)
    (present : command.pkt.payload.isSome = true)
    (fits : (listing command.getFiles).length ≤ MAX_PACKET_SIZE) :
    ∃ data last, Answered command data last := by
  have valid : (listingPacket command).isPacketValid = true :=
    Message.packet_valid ⟨t_DATA.value, 1, listing command.getFiles, listing_ne_nil _, fits⟩
  have received : (listingPacket command).received = listingPacket command :=
    Message.packet_received ⟨t_DATA.value, 1, listing command.getFiles, listing_ne_nil _, fits⟩
  have sent := answer_list isList ((commandFails_list isList).mpr ⟨present, valid⟩)
  rw [received] at sent
  refine ⟨[listingPacket command], _, .of_sent ⟨?_, rfl⟩ ?_ sent⟩
  · intro data data_mem
    rw [List.mem_singleton.mp data_mem]
    rfl
  · rw [List.map_singleton, List.flatten_singleton]
    exact Packet.build_content fits _ _

end

/-- A `t_LIST` packet is answered exactly if it has a payload and the lines fit into one packet. -/
theorem answered_iff (entries : List DirectoryEntry) (tested sent : Directory) {pkt : Packet}
    (isList : pkt.type = t_LIST.value) :
    (∃ data last, Answered ⟨pkt, tested, sent, FileManager.getFiles entries⟩ data last) ↔
      pkt.payload.isSome = true ∧
        ((entries.filter DirectoryEntry.is_regular_file).map
          DirectoryEntry.lineLength).sum ≤ MAX_PACKET_SIZE := by
  rw [← FileManager.length_getFiles, ← length_listing_le_iff]
  constructor
  · rintro ⟨data, last, answered⟩
    exact ⟨((commandFails_list isList).mp answered.handled).1, answered.length_listing_le isList⟩
  · rintro ⟨present, fits⟩
    exact Answered.of_fits isList present fits

def fileNamed (file_name : Bytes) : DirectoryEntry where
  file_name := file_name
  is_regular_file := true
  mtime := ascii "2025-01-01 00:00:00"
  stat := some (ascii "2025-01-01 00:00:00", ascii "2025-01-01 00:00:00")

theorem answered_iff_a :
    ∃ data last, Answered ⟨Packet.build t_LIST.value 1 (ascii "xxx"), fun _ => none,
      fun _ => none, FileManager.getFiles [fileNamed (ascii "a")]⟩ data last :=
  (answered_iff [fileNamed (ascii "a")] _ _ rfl).mpr (by decide)

def files24 : List DirectoryEntry :=
  (ascii "abcdefghijklmnopqrstuvwx").map fun letter => fileNamed [letter]

/-- Their lines do not fit into one packet, so that the command thread throws without an answer. -/
theorem not_answered_of_files24 :
    (handleCommand ⟨Packet.build t_LIST.value 1 (ascii "xxx"), fun _ => none, fun _ => none,
        FileManager.getFiles files24⟩).on (.healthy []) =
      (.error (.runtime_error "Invalid packet"), .healthy []) := by
  have long : (FileManager.getFiles files24).length = 2088 := by
    rw [FileManager.length_getFiles]
    decide
  have nonempty : FileManager.getFiles files24 ≠ [] := by
    rw [← List.length_pos_iff]
    omega
  have listed : listing (FileManager.getFiles files24) = FileManager.getFiles files24 :=
    if_neg nonempty
  have invalid : (Packet.build t_DATA.value 1
      (listing (FileManager.getFiles files24))).isPacketValid = false := by
    apply Bool.eq_false_of_not_eq_true
    intro valid
    have bounded : (Packet.build t_DATA.value 1
        (listing (FileManager.getFiles files24))).length.toNat ≤ 2048 :=
      Packet.length_le_of_isPacketValid valid
    rw [listed, Packet.build, UInt16.toNat_ofNat', long] at bounded
    omega
  rw [handleCommand_list rfl rfl, ← listing, Send.on_bind, sendPacket_invalid invalid]

end Device

end SyncDir
