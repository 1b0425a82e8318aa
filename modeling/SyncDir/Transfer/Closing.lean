import SyncDir.Client.Client
import SyncDir.Server.ClientManager
import SyncDir.Server.Device

/-!
# Closing of announced transfers

A packet that announces a file should be followed by the data of the file and
one closing packet.  The announcement and the file are sent by different
functions, and `sendFileInChunks` swallows the exception of a file that cannot
be read, without sending the closing packet.  The receiver then takes the next
packets of the connection for data.

The packets of a thread are a sequence of segments, one for each input that the
thread handles.  An announcement without a file is closed only if the next
segment with packets is the listing of a directory, which looks like a transfer;
so on the connections that carry no listing it is never closed.
-/

namespace SyncDir

open NetworkManager PacketType

/-! ### Closed announcements -/

def IsAnnouncement (pkt : Packet) : Prop :=
  pkt.type = t_WRITE.value ∨ pkt.type = t_FILE_FOUND.value

/-- First come data packets and then exactly one closing packet. -/
def ClosedFirst : List Packet → Prop
  | [] => False
  | pkt :: rest =>
      pkt.type = t_DATA.value ∧ ClosedFirst rest ∨
        pkt.type = t_END_OF_FILE.value ∧ ∀ next ∈ rest.head?, next.type ≠ t_END_OF_FILE.value

/-- Every announcement is followed by data packets and exactly one closing packet. -/
def AnnouncementsClosed : List Packet → Prop
  | [] => True
  | pkt :: rest => (IsAnnouncement pkt → ClosedFirst rest) ∧ AnnouncementsClosed rest

theorem closedFirst_transfer (sequenceNumber : UInt16) (pieces : List Bytes)
    (rest : List Packet) :
    ClosedFirst (transfer sequenceNumber pieces ++ rest) ↔
      ∀ next ∈ rest.head?, next.type ≠ t_END_OF_FILE.value := by
  induction pieces generalizing sequenceNumber with
  | nil => simp [transfer, ClosedFirst]
  | cons piece pieces ih => simp [transfer, ClosedFirst, ih]

theorem announcementsClosed_transfer (sequenceNumber : UInt16) (pieces : List Bytes)
    (rest : List Packet) :
    AnnouncementsClosed (transfer sequenceNumber pieces ++ rest) ↔ AnnouncementsClosed rest := by
  induction pieces generalizing sequenceNumber with
  | nil => simp [transfer, AnnouncementsClosed, IsAnnouncement]
  | cons piece pieces ih => simp [transfer, AnnouncementsClosed, IsAnnouncement, ih]

/-! ### Segments -/

/-- What a thread sends for one of its inputs. -/
inductive Segment
  | silent
  /-- A packet that neither announces a file nor is a part of one. -/
  | command (pkt : Packet) (plain : pkt.type = t_DELETE.value ∨ pkt.type = t_FILE_NOT_FOUND.value)
  /-- An announcement, and what was then read of the file. -/
  | announced (pkt : Packet) (announces : IsAnnouncement pkt) (read : Option Bytes)
  /-- The listing of a directory, which has the form of a transfer. -/
  | listing (data closing : Packet) (isData : data.type = t_DATA.value)
      (isClosing : closing.type = t_END_OF_FILE.value)

namespace Segment

def packets : Segment → List Packet
  | silent => []
  | command pkt _ => [pkt]
  | announced pkt _ read => pkt :: body MAX_PACKET_SIZE read
  | listing data closing _ _ => [data, closing]

def Readable : Segment → Prop
  | announced _ _ none => False
  | _ => True

def ListingNext : List Segment → Prop
  | silent :: segments => ListingNext segments
  | listing .. :: _ => True
  | _ => False

/-- Every announced file could be read, or a listing takes its place. -/
def AllClosed : List Segment → Prop
  | [] => True
  | segment :: segments => (segment.Readable ∨ ListingNext segments) ∧ AllClosed segments

theorem head_type_ne (segments : List Segment) :
    ∀ next ∈ (segments.flatMap packets).head?, next.type ≠ t_END_OF_FILE.value := by
  induction segments with
  | nil => simp
  | cons segment segments ih =>
      cases segment with
      | silent => simpa [packets] using ih
      | command pkt plain => rcases plain with type | type <;> simp [packets, type]
      | announced pkt announces read => rcases announces with type | type <;> simp [packets, type]
      | listing data closing isData isClosing => simp [packets, isData]

theorem closedFirst_flatMap (segments : List Segment) :
    ClosedFirst (segments.flatMap packets) ↔ ListingNext segments := by
  induction segments with
  | nil => simp [ClosedFirst, ListingNext]
  | cons segment segments ih =>
      cases segment with
      | silent => simpa [packets, ListingNext] using ih
      | command pkt plain =>
          rcases plain with type | type <;> simp [packets, ClosedFirst, ListingNext, type]
      | announced pkt announces read =>
          rcases announces with type | type <;> simp [packets, ClosedFirst, ListingNext, type]
      | listing data closing isData isClosing =>
          simpa [packets, ClosedFirst, ListingNext, isData, isClosing] using
            head_type_ne segments

/-- The announcements of a thread are closed exactly if each announced file could be read or is
followed by a listing. -/
theorem announcementsClosed_flatMap (segments : List Segment) :
    AnnouncementsClosed (segments.flatMap packets) ↔ AllClosed segments := by
  induction segments with
  | nil => exact Iff.rfl
  | cons segment segments ih =>
      rw [List.flatMap_cons, AllClosed, ← ih]
      cases segment with
      | silent => simp [packets, Readable]
      | command pkt plain =>
          rcases plain with type | type <;>
            simp [packets, AnnouncementsClosed, IsAnnouncement, Readable, type]
      | announced pkt announces read =>
          cases read with
          | none =>
              simp [packets, body, AnnouncementsClosed, announces, Readable, closedFirst_flatMap]
          | some content =>
              simp only [packets, body, List.cons_append, AnnouncementsClosed, announces,
                closedFirst_transfer, announcementsClosed_transfer, Readable]
              simpa using fun _ => head_type_ne segments
      | listing data closing isData isClosing =>
          simp [packets, AnnouncementsClosed, IsAnnouncement, Readable, isData, isClosing]

def IsListing : Segment → Prop
  | listing .. => True
  | _ => False

theorem not_listingNext {segments : List Segment}
    (noListing : ∀ segment ∈ segments, ¬segment.IsListing) : ¬ListingNext segments := by
  induction segments with
  | nil => exact id
  | cons segment segments ih =>
      cases segment with
      | silent => exact ih fun later later_mem => noListing later (List.mem_cons_of_mem _ later_mem)
      | command => exact id
      | announced => exact id
      | listing => exact absurd trivial (noListing _ List.mem_cons_self)

/-- Without listings, every announced file has to be readable. -/
theorem allClosed_iff_readable {segments : List Segment}
    (noListing : ∀ segment ∈ segments, ¬segment.IsListing) :
    AllClosed segments ↔ ∀ segment ∈ segments, segment.Readable := by
  induction segments with
  | nil => simp [AllClosed]
  | cons segment segments ih =>
      have later : ∀ other ∈ segments, ¬other.IsListing :=
        fun other other_mem => noListing other (List.mem_cons_of_mem _ other_mem)
      rw [AllClosed, ih later, List.forall_mem_cons, or_iff_left (not_listingNext later)]

section Loops

variable {Input : Type} {handle : Input → Send Unit} {segment : Input → Segment}
  (sends : ∀ input arrived, (handle input).on (.healthy arrived) =
    (.ok (), .healthy (arrived ++ (segment input).packets)))
include sends

theorem packets_each (inputs : List Input) :
    (Send.each handle inputs).packets = (inputs.map segment).flatMap packets := by
  rw [Send.packets, Send.each_healthy (fun input => (segment input).packets) sends,
    List.flatMap_map]
  rfl

theorem announcementsClosed_each (noListing : ∀ input, ¬(segment input).IsListing)
    (inputs : List Input) :
    AnnouncementsClosed (Send.each handle inputs).packets ↔
      ∀ input ∈ inputs, (segment input).Readable := by
  rw [packets_each sends, announcementsClosed_flatMap, allClosed_iff_readable (by simp [noListing])]
  simp

end Loops

end Segment

/-! ### The file thread of the client -/

section FileThread

open Client

def eventSegment : InotifyEvent × Directory → Segment
  | (event, disk) =>
      match event.name with
      | none => .silent
      | some file_name =>
          if event.mask &&& IN_CLOSE_WRITE ≠ 0 then
            .announced (Packet.build t_WRITE.value 1 file_name.bytes) (Or.inl rfl)
              (disk file_name.bytes)
          else if event.mask &&& IN_DELETE ≠ 0 then
            .command (Packet.build t_DELETE.value 1 file_name.bytes) (Or.inl rfl)
          else
            .silent

theorem handleEvent_healthy (input : InotifyEvent × Directory) (arrived : List Packet) :
    (handleEvent input.1 input.2).on (.healthy arrived) =
      (.ok (), .healthy (arrived ++ (eventSegment input).packets)) := by
  rcases input with ⟨event, disk⟩
  cases named : event.name with
  | none => simp [handleEvent, eventSegment, named, Segment.packets]
  | some file_name =>
      simp only [handleEvent, eventSegment, named]
      split_ifs
      · exact announce_healthy file_name.ne_nil file_name.length_le_packet _ _ _ _ _
      · exact sendPacket_healthy file_name.ne_nil file_name.length_le_packet _ _ _
      · simp [Segment.packets]

theorem not_isListing_eventSegment (input : InotifyEvent × Directory) :
    ¬(eventSegment input).IsListing := by
  rcases input with ⟨event, disk⟩
  cases named : event.name with
  | none => simp [eventSegment, named, Segment.IsListing]
  | some file_name =>
      simp only [eventSegment, named]
      split_ifs <;> exact id

theorem readable_eventSegment (event : InotifyEvent) (disk : Directory) :
    (eventSegment (event, disk)).Readable ↔ ∀ file_name, event.name = some file_name →
      event.mask &&& IN_CLOSE_WRITE ≠ 0 → disk file_name.bytes ≠ none := by
  cases named : event.name with
  | none => simp [eventSegment, named, Segment.Readable]
  | some file_name =>
      simp only [eventSegment, named]
      split_ifs with closed deleted
      · cases stored : disk file_name.bytes <;> simp [Segment.Readable, closed, stored]
      · simp [Segment.Readable, closed]
      · simp [Segment.Readable, closed]

theorem announcementsClosed_handleFileThread (events : List (InotifyEvent × Directory)) :
    AnnouncementsClosed (handleFileThread events).packets ↔
      ∀ event disk, (event, disk) ∈ events → ∀ file_name, event.name = some file_name →
        event.mask &&& IN_CLOSE_WRITE ≠ 0 → disk file_name.bytes ≠ none := by
  rw [handleFileThread, Segment.announcementsClosed_each handleEvent_healthy
    not_isListing_eventSegment, Prod.forall]
  simp only [readable_eventSegment]

end FileThread

/-! ### Reported changes -/

/-- A change that a device has reported, and the directory when the file is read. -/
structure Report where
  removed : Bool
  file_name : FileName
  disk : Directory

namespace Report

def type (report : Report) : UInt16 :=
  if report.removed then t_DELETE.value else t_WRITE.value

/-- What is left for the push threads of the other devices. -/
def request (report : Report) : Device.PushRequest :=
  ⟨report.type, report.file_name.bytes, report.disk⟩

def announcement (report : Report) : Packet :=
  Packet.build report.type 1 report.file_name.bytes

/-- What is sent for a report, when the file is read under the name `read_name`. -/
def segment (seqn : UInt16) (read_name : Bytes) (report : Report) : Segment :=
  if report.removed then
    .command (Packet.build t_DELETE.value seqn report.file_name.bytes) (Or.inl rfl)
  else
    .announced (Packet.build t_WRITE.value seqn report.file_name.bytes) (Or.inl rfl)
      (report.disk read_name)

theorem not_isListing_segment (seqn : UInt16) (read_name : Report → Bytes) (report : Report) :
    ¬(report.segment seqn (read_name report)).IsListing := by
  unfold segment
  split <;> exact id

theorem readable_segment (seqn : UInt16) (read_name : Bytes) (report : Report) :
    (report.segment seqn read_name).Readable ↔
      (report.removed = false → report.disk read_name ≠ none) := by
  cases removed : report.removed <;> cases stored : report.disk read_name <;>
    simp [segment, removed, stored, Segment.Readable]

theorem sendPush_healthy (report : Report) (arrived : List Packet) :
    (Device.sendPush report.request).on (.healthy arrived) = (.ok (), .healthy (arrived ++
      (report.segment 1 (extractWord report.file_name.bytes)).packets)) := by
  cases removed : report.removed
  · simp [request, type, removed, segment, Segment.packets, Device.sendPush_write]
  · simp [request, type, removed, segment, Segment.packets, Device.sendPush_delete]

theorem sendToBackup_healthy (report : Report) (arrived : List Packet) :
    (ClientManager.sendToBackup report.announcement report.disk).on (.healthy arrived) =
      (.ok (), .healthy (arrived ++ (report.segment 0 report.file_name.bytes).packets)) := by
  cases removed : report.removed
  · simp [announcement, type, removed, segment, Segment.packets, ClientManager.sendToBackup_write]
  · simp [announcement, type, removed, segment, Segment.packets, ClientManager.sendToBackup_delete]

end Report

theorem announcementsClosed_pushThread (reports : List Report) :
    AnnouncementsClosed (Device.pushThread (reports.map Report.request)).packets ↔
      ∀ report ∈ reports, report.removed = false →
        report.disk (extractWord report.file_name.bytes) ≠ none := by
  rw [Device.pushThread, Send.each_map,
    Segment.announcementsClosed_each Report.sendPush_healthy (Report.not_isListing_segment 1 _)]
  simp only [Report.readable_segment]

theorem announcementsClosed_sendToBackup (reports : List Report) :
    AnnouncementsClosed (Send.each (fun report : Report =>
        ClientManager.sendToBackup report.announcement report.disk) reports).packets ↔
      ∀ report ∈ reports, report.removed = false → report.disk report.file_name.bytes ≠ none := by
  rw [Segment.announcementsClosed_each Report.sendToBackup_healthy
    (Report.not_isListing_segment 0 _)]
  simp only [Report.readable_segment]

/-! ### The command thread of the server -/

section CommandThread

open Device

def listingPacket (command : Command) : Packet :=
  Packet.build t_DATA.value 1 (if command.getFiles = [] then noFiles else command.getFiles)

/-- The command cannot be handled: it has no payload, or asks for a listing that makes no valid
packet. -/
def commandFails (command : Command) : Bool :=
  command.pkt.payload.isNone ||
    command.pkt.type == t_LIST.value && !(listingPacket command).isPacketValid

/-- The name of the file that the answer to a command announces. -/
def announcedFile (command : Command) : Option Bytes :=
  match command.pkt.c_str with
  | .error _ => none
  | .ok payload_stream =>
      if command.pkt.type = t_DOWNLOAD.value ∧
          FileManager.isFileExists command.tested (extractWord payload_stream) then
        some (extractWord payload_stream)
      else none

def ListingAsked (commands : List Command) : Prop :=
  ∃ next, commands.find? (fun command =>
      command.pkt.type == t_DOWNLOAD.value || command.pkt.type == t_LIST.value) = some next ∧
    next.pkt.type = t_LIST.value

/-- Every announced file can be read when it is sent, or a listing is asked for next. -/
def AnswersClosed : List Command → Prop
  | [] => True
  | command :: commands =>
      (∀ file_name, announcedFile command = some file_name →
        command.sent file_name ≠ none ∨ ListingAsked commands) ∧ AnswersClosed commands

/-- What the command thread sends for a command that it can handle. -/
def commandSegment (command : Command) : Segment :=
  if command.pkt.type = t_DOWNLOAD.value then
    match announcedFile command with
    | none => .command (Packet.build t_FILE_NOT_FOUND.value 1 (ascii "xxx")) (Or.inr rfl)
    | some file_name =>
        .announced (Packet.build t_FILE_FOUND.value 1 (ascii "xxx")) (Or.inr rfl)
          (command.sent file_name)
  else if command.pkt.type = t_LIST.value then
    .listing (listingPacket command).received
      (Packet.build t_END_OF_FILE.value 1 (ascii "xxx")) rfl rfl
  else
    .silent

theorem handleCommand_list {command : Command} (isList : command.pkt.type = t_LIST.value)
    (present : command.pkt.payload.isSome = true) :
    handleCommand command =
      (do sendPacket t_DATA.value 1 (if command.getFiles = [] then noFiles else command.getFiles)
          sendPacketXxx t_END_OF_FILE.value 1) := by
  have notUpload : ¬t_LIST.value = t_UPLOAD.value := by decide
  have notDownload : ¬t_LIST.value = t_DOWNLOAD.value := by decide
  have notDelete : ¬t_LIST.value = t_DELETE.value := by decide
  rcases Option.isSome_iff_exists.mp present with ⟨payload, payload_eq⟩
  simp only [handleCommand, Packet.c_str, payload_eq, isList, if_neg notUpload,
    if_neg notDownload, if_neg notDelete, if_true]
  rfl

theorem handleCommand_healthy {command : Command} (handled : commandFails command = false)
    (arrived : List Packet) :
    (handleCommand command).on (.healthy arrived) =
      (.ok (), .healthy (arrived ++ (commandSegment command).packets)) := by
  cases present : command.pkt.payload with
  | none => simp [commandFails, present] at handled
  | some payload =>
      have stream : command.pkt.c_str = .ok (cString payload) := by simp [Packet.c_str, present]
      by_cases download : command.pkt.type = t_DOWNLOAD.value
      · by_cases found : FileManager.isFileExists command.tested (extractWord (cString payload))
        · have announced := announce_healthy (show ascii "xxx" ≠ [] by decide) (by decide)
            t_FILE_FOUND.value 1 (extractWord (cString payload)) command.sent arrived
          simpa [handleCommand, stream, download, found, commandSegment, announcedFile,
            Segment.packets, sendPacketXxx] using announced
        · simp [handleCommand, stream, download, found, commandSegment, announcedFile,
            Segment.packets, sendPacketXxx_healthy]
      · by_cases list : command.pkt.type = t_LIST.value
        · have valid : (listingPacket command).isPacketValid = true := by
            simpa [commandFails, present, list] using handled
          have notDownload : ¬t_LIST.value = t_DOWNLOAD.value := by decide
          rw [listingPacket] at valid
          rw [handleCommand_list list (by rw [present, Option.isSome_some]), Send.on_bind,
            sendPacket_valid valid]
          simp only [sendPacketXxx_healthy, commandSegment, list, if_neg notDownload, if_true,
            Segment.packets, listingPacket, List.append_assoc, List.singleton_append]
        · simp [handleCommand, stream, download, list, commandSegment, Segment.packets]

theorem handleCommand_fails {command : Command} (fails : commandFails command = true)
    (arrived : List Packet) :
    ∃ exception, (handleCommand command).on (.healthy arrived) =
      (.error exception, .healthy arrived) := by
  cases present : command.pkt.payload with
  | none => exact ⟨_, by simp [handleCommand, Packet.c_str, present]; rfl⟩
  | some payload =>
      obtain ⟨list, invalid⟩ : command.pkt.type = t_LIST.value ∧
          (listingPacket command).isPacketValid = false := by
        simpa [commandFails, present] using fails
      rw [listingPacket] at invalid
      refine ⟨.runtime_error "Invalid packet", ?_⟩
      rw [handleCommand_list list (by rw [present, Option.isSome_some]), Send.on_bind,
        sendPacket_invalid invalid]

theorem listingNext_map_iff (commands : List Command) :
    Segment.ListingNext (commands.map commandSegment) ↔ ListingAsked commands := by
  induction commands with
  | nil => simp [Segment.ListingNext, ListingAsked]
  | cons command commands ih =>
      rw [List.map_cons, commandSegment]
      split_ifs with download list
      · cases announcedFile command <;> simp [Segment.ListingNext, ListingAsked, download]
      · simp [Segment.ListingNext, ListingAsked, list]
      · simpa [Segment.ListingNext, ListingAsked, download, list] using ih

theorem announcedFile_of_ne {command : Command} (other : command.pkt.type ≠ t_DOWNLOAD.value) :
    announcedFile command = none := by
  unfold announcedFile
  split
  · rfl
  · exact if_neg fun download => other download.1

theorem readable_commandSegment (command : Command) :
    (commandSegment command).Readable ↔
      ∀ file_name, announcedFile command = some file_name → command.sent file_name ≠ none := by
  rw [commandSegment]
  split_ifs with download list
  · cases announced : announcedFile command with
    | none => simp [Segment.Readable]
    | some file_name => cases stored : command.sent file_name <;> simp [Segment.Readable, stored]
  · simp [Segment.Readable, announcedFile_of_ne download]
  · simp [Segment.Readable, announcedFile_of_ne download]

theorem allClosed_map_iff (commands : List Command) :
    Segment.AllClosed (commands.map commandSegment) ↔ AnswersClosed commands := by
  induction commands with
  | nil => exact Iff.rfl
  | cons command commands ih =>
      rw [List.map_cons, Segment.AllClosed, AnswersClosed, ih, listingNext_map_iff,
        readable_commandSegment]
      cases announcedFile command <;> simp

theorem announcementsClosed_commandThread (commands : List Command) :
    AnnouncementsClosed (commandThread commands).packets ↔
      AnswersClosed (commands.takeWhile fun command => !commandFails command) := by
  have sent := Send.packets_each commandFails
    (fun command => (commandSegment command).packets)
    (fun command arrived handled => handleCommand_healthy handled arrived)
    (fun command arrived fails => handleCommand_fails fails arrived) commands
  rw [commandThread, sent, ← List.flatMap_map, Segment.announcementsClosed_flatMap,
    allClosed_map_iff]

end CommandThread

/-! ### All connections -/

/-- The announcements on each kind of connection are closed exactly if every announced file can
be read when it is sent; on the command connection a listing may also take the place of a file. -/
theorem announcementsClosed_iff (events : List (Client.InotifyEvent × Directory))
    (pushes reports : List Report) (commands : List Device.Command) :
    (AnnouncementsClosed (Client.handleFileThread events).packets ↔
      ∀ event disk, (event, disk) ∈ events → ∀ file_name, event.name = some file_name →
        event.mask &&& Client.IN_CLOSE_WRITE ≠ 0 → disk file_name.bytes ≠ none) ∧
    (AnnouncementsClosed (Device.pushThread (pushes.map Report.request)).packets ↔
      ∀ report ∈ pushes, report.removed = false →
        report.disk (extractWord report.file_name.bytes) ≠ none) ∧
    (AnnouncementsClosed (Send.each (fun report : Report =>
        ClientManager.sendToBackup report.announcement report.disk) reports).packets ↔
      ∀ report ∈ reports, report.removed = false → report.disk report.file_name.bytes ≠ none) ∧
    (AnnouncementsClosed (Device.commandThread commands).packets ↔
      AnswersClosed (commands.takeWhile fun command => !commandFails command)) :=
  ⟨announcementsClosed_handleFileThread events, announcementsClosed_pushThread pushes,
    announcementsClosed_sendToBackup reports, announcementsClosed_commandThread commands⟩

/-- A file that is gone when it should be sent leaves its announcement open, and the report of its
removal is what comes next. -/
theorem not_announcementsClosed_of_removed :
    (Client.handleFileThread
        [(⟨Client.IN_CLOSE_WRITE, some ⟨ascii "f", by decide⟩⟩, fun _ => none),
          (⟨Client.IN_DELETE, some ⟨ascii "f", by decide⟩⟩, fun _ => none)]).packets =
      [Packet.build t_WRITE.value 1 (ascii "f"), Packet.build t_DELETE.value 1 (ascii "f")] ∧
    ¬AnnouncementsClosed (Client.handleFileThread
        [(⟨Client.IN_CLOSE_WRITE, some ⟨ascii "f", by decide⟩⟩, fun _ => none),
          (⟨Client.IN_DELETE, some ⟨ascii "f", by decide⟩⟩, fun _ => none)]).packets := by
  rw [Client.handleFileThread, Segment.packets_each handleEvent_healthy]
  have written : Client.IN_CLOSE_WRITE ≠ 0 := by decide
  have notWritten : Client.IN_DELETE &&& Client.IN_CLOSE_WRITE = 0 := by decide
  have removed : Client.IN_DELETE ≠ 0 := by decide
  simp [eventSegment, written, notWritten, removed, Segment.packets, body, AnnouncementsClosed,
    IsAnnouncement, ClosedFirst]

end SyncDir
