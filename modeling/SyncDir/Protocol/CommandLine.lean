import SyncDir.Protocol.Download
import SyncDir.Protocol.Listing
import SyncDir.Utils.Frames

/-!
# Sessions at the command line

A user who types at the client sees one command after the other take effect,
although each `download` and each `list_server` is a conversation of two threads
over a connection.  Here the conversations are compared with an interpreter that
knows no packets: whatever is typed, and however the threads take turns, a
session does what the interpreter does.

The interpreter stops early when the user types `exit`, and in two other ways.
An exception terminates the client: a name makes no valid packet, a file that
the server has cannot be created, or a name leads to a directory.  Or the client
waits for ever: the listing makes no valid packet, which ends the command thread,
or what the server has found under the name as it has arrived is a directory.
-/

namespace SyncDir

open Client FileManager NetworkManager PacketType Transition

namespace NetworkManager

/-- What of a payload is sent, as the `length` of a packet has sixteen bits. -/
def transmitted (payload : Bytes) : Bytes :=
  payload.take (lengthField payload)

def Transmittable (payload : Bytes) : Prop :=
  0 < lengthField payload ∧ lengthField payload ≤ MAX_PACKET_SIZE

instance (payload : Bytes) : Decidable (Transmittable payload) :=
  inferInstanceAs (Decidable (_ ∧ _))

variable {payload : Bytes}

theorem transmitted_ne_nil (sent : Transmittable payload) : transmitted payload ≠ [] :=
  (sentPart t_DATA.value 0 sent.1 sent.2).nonempty

theorem length_transmitted_le (sent : Transmittable payload) :
    (transmitted payload).length ≤ MAX_PACKET_SIZE :=
  (sentPart t_DATA.value 0 sent.1 sent.2).fits

theorem received_build (sent : Transmittable payload) (type seqn : UInt16) :
    (Packet.build type seqn payload).received =
      Packet.build type seqn (transmitted payload) := by
  have field := build_length type seqn payload
  have sameLength : (Packet.build type seqn (transmitted payload)).length =
      (Packet.build type seqn payload).length := by
    rw [← UInt16.toNat_inj, field]
    exact ((sentPart type seqn sent.1 sent.2).packet_length).trans
      (sentPart_length type seqn sent.1 sent.2)
  have nonzero : (Packet.build type seqn payload).length ≠ 0 := by
    intro zero
    rw [zero] at field
    exact sent.1.ne field
  calc (Packet.build type seqn payload).received
      = { Packet.build type seqn payload with payload := some (transmitted payload) } := by
        rw [Packet.received, if_neg nonzero, field]
        rfl
    _ = Packet.build type seqn (transmitted payload) := by
        simp only [Packet.build] at sameLength ⊢
        rw [sameLength]

theorem sendPacket_transmittable (sent : Transmittable payload) (type seqn : UInt16)
    (arrived : List Packet) :
    (sendPacket type seqn payload).on (.healthy arrived) =
      (.ok (), .healthy (arrived ++ [Packet.build type seqn (transmitted payload)])) := by
  rw [sendPacket_valid ((isPacketValid_build_iff type seqn payload).mpr sent),
    received_build sent]

theorem sendPacket_not_transmittable (unsent : ¬Transmittable payload) (type seqn : UInt16)
    (connection : Connection) :
    (sendPacket type seqn payload).on connection =
      (.error (.runtime_error "Invalid packet"), connection) := by
  apply sendPacket_invalid
  rw [← Bool.not_eq_true, isPacketValid_build_iff]
  exact unsent

end NetworkManager

namespace Client

variable (server : Directory) (getFiles : Bytes)

/-- The thread when it has created a file and the server has sent what it could read: a directory
is not sent. -/
def IoThread.receiveFile (thread : IoThread) (file_name : Bytes) (created : Directory) :
    Option Bytes → IoThread
  | none => { thread with curr_directory := created, mode := .receivingFile file_name }
  | some content =>
      { thread with curr_directory := Function.update created file_name (some content) }

/-- What a line does when the server has the directory `server`. -/
def IoThread.command (thread : IoThread) (line : Line) : IoThread :=
  match upl line.cmdline with
  | some file_path => thread.upload file_path line.copied
  | none =>
  match dow line.cmdline with
  | some file_name =>
      if Transmittable file_name then
        if isFileExists server (transmitted file_name) then
          match thread.create file_name line.creatable with
          | .error exception => { thread with mode := .terminated exception }
          | .ok created => thread.receiveFile file_name created (server (transmitted file_name))
        else thread
      else
        { thread with mode := .terminated (.runtime_error "Invalid packet") }
  | none =>
  match del line.cmdline with
  | some file_name =>
      match deleteFile thread.sync_dir file_name with
      | .error exception => { thread with mode := .terminated exception }
      | .ok sync_dir => { thread with sync_dir }
  | none =>
      if line.cmdline = ascii "list_server" then
        if Transmittable (Device.listing getFiles) then thread
        else { thread with mode := .receivingList }
      else if line.cmdline = ascii "exit" then
        { thread with mode := .finished }
      else
        thread

/-- The thread after an input, and the lines that it has not read. -/
def IoThread.execute : IoThread → List Line → IoThread × List Line
  | thread, [] => (if thread.mode = .getline then { thread with mode := .finished } else thread, [])
  | thread, line :: input =>
      if thread.mode = .getline then
        IoThread.execute (thread.command server getFiles line) input
      else
        (thread, line :: input)

end Client

namespace CommandSession

/-! ### Conversations -/

def IsTerminated : IoMode → Prop
  | .terminated _ => True
  | _ => False

/-- The thread takes the packets and is then `target`; what arrives after it has been terminated
is not taken any more. -/
def Takes (target : IoThread) : IoThread → List Packet → Prop
  | thread, [] => thread = target
  | thread, pkt :: packets =>
      awaitsPacket thread.mode = true ∧ Takes target (handleIoPacket thread pkt) packets ∨
        IsTerminated thread.mode ∧ thread = target

/-- What the command thread sends for a packet. -/
def response (server : Directory) (getFiles : Bytes) (pkt : Packet) : List Packet :=
  ((Device.handleCommand ⟨pkt, server, server, getFiles⟩).on (.healthy [])).2.arrived

section

variable {thread target : IoThread} {packets : List Packet}

theorem Takes.eq_of_getline (takes : Takes target thread packets)
    (waiting : thread.mode = .getline) : packets = [] ∧ thread = target := by
  cases packets with
  | nil => exact ⟨rfl, takes⟩
  | cons pkt packets =>
      rcases takes with ⟨awaits, -⟩ | ⟨terminated, -⟩
      · rw [waiting] at awaits
        cases awaits
      · rw [waiting] at terminated
        exact terminated.elim

theorem takes_terminated (terminated : IsTerminated thread.mode) (packets : List Packet) :
    Takes thread thread packets := by
  cases packets with
  | nil => rfl
  | cons pkt packets => exact Or.inr ⟨terminated, rfl⟩

/-- A packet that the thread waits for. -/
theorem Takes.cons (awaits : awaitsPacket thread.mode = true) {pkt : Packet}
    (takes : Takes target (handleIoPacket thread pkt) packets) :
    Takes target thread (pkt :: packets) :=
  Or.inl ⟨awaits, takes⟩

theorem Takes.of_awaits {pkt : Packet} (takes : Takes target thread (pkt :: packets))
    (awaits : awaitsPacket thread.mode = true) :
    Takes target (handleIoPacket thread pkt) packets := by
  rcases takes with ⟨-, later⟩ | ⟨terminated, -⟩
  · exact later
  · cases mode : thread.mode with
    | terminated exception =>
        rw [mode] at awaits
        cases awaits
    | _ =>
        rw [mode] at terminated
        exact terminated.elim

/-- A transfer is appended to the file that is received. -/
theorem takes_transfer {file_name : Bytes} (proper : isDirectory file_name = false)
    (curr_directory sync_dir : Directory) (written : Bytes) (sequenceNumber : UInt16)
    (pieces : List Bytes)
    (fits : ∀ piece ∈ pieces, piece.length ≤ MAX_PACKET_SIZE) :
    Takes
      { curr_directory := Function.update curr_directory file_name
          (some (written ++ pieces.flatten))
        sync_dir, mode := .getline }
      { curr_directory := Function.update curr_directory file_name (some written)
        sync_dir, mode := .receivingFile file_name }
      (transfer sequenceNumber pieces) := by
  induction pieces generalizing written sequenceNumber with
  | nil =>
      apply Takes.cons rfl
      rw [List.flatten_nil, List.append_nil]
      rfl
  | cons piece pieces ih =>
      have data : t_DATA.value ≠ t_END_OF_FILE.value := by decide
      rcases List.forall_mem_cons.mp fits with ⟨first, later⟩
      apply Takes.cons rfl
      have rest := ih (written ++ piece) (sequenceNumber + 1) later
      rw [List.append_assoc, ← List.flatten_cons] at rest
      simpa only [handleIoPacket, Packet.build_type, if_neg data, writeFile_of_proper proper,
        Packet.build_content first, Function.update_self, Function.update_idem,
        Option.getD_some] using rest

end

/-! ### One line -/

theorem matchName_eq_some {keyword cmdline name : Bytes}
    (matched : matchName keyword cmdline = some name) :
    name ≠ [] ∧ name.all isNameByte = true := by
  simp only [matchName] at matched
  split_ifs at matched with isPrefix isName
  rw [← Option.some.inj matched]
  exact isName

/-- What the IO thread is after `readLine`, and what it has sent. -/
def lineRead (thread : IoThread) (line : Line) : IoThread × List Packet :=
  match (handleLine thread line).on (.healthy []) with
  | (.ok client, connection) => (client, connection.arrived)
  | (.error exception, connection) =>
      ({ thread with mode := .terminated exception }, connection.arrived)

/-- Either nothing is asked for, or the thread waits for the answer to its only request. -/
inductive Asks : IoThread × List Packet → Prop
  | nothing (thread : IoThread) : Asks (thread, [])
  | request {thread : IoThread} (pkt : Packet) (awaits : awaitsPacket thread.mode = true) :
      Asks (thread, [pkt])

variable (server : Directory) (getFiles : Bytes)

theorem handleCommand_list_transmittable (sent : Transmittable (Device.listing getFiles)) :
    (Device.handleCommand ⟨Packet.build t_LIST.value 1 (ascii "xxx"), server, server,
      getFiles⟩).on (.healthy []) =
      (.ok (), .healthy
        [Packet.build t_DATA.value 1 (transmitted (Device.listing getFiles)),
          Packet.build t_END_OF_FILE.value 1 (ascii "xxx")]) := by
  rw [handleCommand_list rfl rfl, Send.on_bind]
  have listed := sendPacket_transmittable sent t_DATA.value 1 []
  rw [Device.listing] at listed ⊢
  rw [listed]
  exact sendPacketXxx_healthy _ _ _

theorem handleCommand_list_not_transmittable
    (unsent : ¬Transmittable (Device.listing getFiles)) :
    (Device.handleCommand ⟨Packet.build t_LIST.value 1 (ascii "xxx"), server, server,
      getFiles⟩).on (.healthy []) =
      (.error (.runtime_error "Invalid packet"), .healthy []) := by
  rw [handleCommand_list rfl rfl, Send.on_bind]
  have refused := sendPacket_not_transmittable unsent t_DATA.value 1 (.healthy [])
  rw [Device.listing] at refused
  rw [refused]

theorem createDownloaded_eq_ok {thread : IoThread} {file_name : Bytes} {creatable : Bool}
    {created : Directory} (succeeded : thread.create file_name creatable = .ok created) :
    isDirectory file_name = false ∧
      created = Function.update thread.curr_directory file_name (some []) := by
  simp only [IoThread.create, createFile] at succeeded
  split_ifs at succeeded with permitted isDir
  exact ⟨Bool.eq_false_iff.mpr isDir, (Except.ok.inj succeeded).symm⟩

/-- Everything but `t_FILE_NOT_FOUND` makes the thread create the file. -/
theorem handleIoPacket_found {thread : IoThread} {file_name : Bytes} {creatable : Bool}
    {pkt : Packet} (waiting : thread.mode = .response file_name creatable)
    (found : pkt.type ≠ t_FILE_NOT_FOUND.value) :
    handleIoPacket thread pkt =
      match thread.create file_name creatable with
      | .error exception => { thread with mode := .terminated exception }
      | .ok curr_directory =>
          { thread with curr_directory, mode := .receivingFile file_name } := by
  cases created : thread.create file_name creatable with
  | error exception => simp only [handleIoPacket, waiting, if_neg found, created]
  | ok curr_directory => simp only [handleIoPacket, waiting, if_neg found, created]

/-- The answer to a `download` leaves the server's file, or nothing. -/
theorem takes_download (curr_directory sync_dir : Directory) (file_name : Bytes)
    (creatable : Bool) (name : RequestedName) :
    Takes
      (if isFileExists server name.bytes then
        match IoThread.create { curr_directory, sync_dir, mode := .getline } file_name
            creatable with
        | .error exception => { curr_directory, sync_dir, mode := .terminated exception }
        | .ok created =>
            IoThread.receiveFile { curr_directory, sync_dir, mode := .getline } file_name created
              (server name.bytes)
      else { curr_directory, sync_dir, mode := .getline })
      { curr_directory, sync_dir, mode := .response file_name creatable }
      (response server getFiles (request name)) := by
  rw [response, handleCommand_request]
  simp only [Connection.healthy, answer]
  split_ifs with found
  · have isFound : t_FILE_FOUND.value ≠ t_FILE_NOT_FOUND.value := by decide
    apply Takes.cons rfl
    rw [handleIoPacket_found rfl isFound]
    cases created : IoThread.create { curr_directory, sync_dir, mode := .getline } file_name
        creatable with
    | error exception =>
        have same : IoThread.create
            { curr_directory, sync_dir, mode := .response file_name creatable } file_name
              creatable = .error exception := created
        simp only [same]
        apply takes_terminated
        trivial
    | ok target =>
        have same : IoThread.create
            { curr_directory, sync_dir, mode := .response file_name creatable } file_name
              creatable = .ok target := created
        rcases createDownloaded_eq_ok created with ⟨proper, rfl⟩
        simp only [same]
        cases stored : server name.bytes with
        | none => rfl
        | some content =>
            have taken := takes_transfer proper curr_directory sync_dir [] 0
              (chunks MAX_PACKET_SIZE content) fun piece => chunks_length_le
            rw [List.nil_append, chunks_flatten] at taken
            simpa only [body, IoThread.receiveFile, Function.update_idem] using taken
  · exact Takes.cons rfl rfl

variable {server getFiles}

section

variable {thread : IoThread} {line : Line} {file_name : Bytes}

theorem lineRead_download (upload : upl line.cmdline = none)
    (download : dow line.cmdline = some file_name) (sent : Transmittable file_name) :
    lineRead thread line =
      ({ thread with mode := .response file_name line.creatable },
        [Packet.build t_DOWNLOAD.value 1 (transmitted file_name)]) := by
  rw [lineRead, handleLine, upload]
  simp only [download, Send.on_bind, sendPacket_transmittable sent]
  rfl

theorem lineRead_list (upload : upl line.cmdline = none) (download : dow line.cmdline = none)
    (delete : del line.cmdline = none) (list : line.cmdline = ascii "list_server") :
    lineRead thread line =
      ({ thread with mode := .receivingList },
        [Packet.build t_LIST.value 1 (ascii "xxx")]) := by
  rw [lineRead, handleLine, upload]
  simp only [download, delete, if_pos list, Send.on_bind, sendPacketXxx_healthy]
  rfl

/-- The thread ends a conversation as the interpreter ends the command. -/
theorem takes_lineRead (waiting : thread.mode = .getline) (line : Line) :
    Asks (lineRead thread line) ∧
      Takes (thread.command server getFiles line) (lineRead thread line).1
        ((lineRead thread line).2.flatMap (response server getFiles)) := by
  rcases thread with ⟨curr_directory, sync_dir, mode⟩
  obtain rfl : mode = .getline := waiting
  rw [IoThread.command]
  cases upload : upl line.cmdline with
  | some file_path =>
      rw [lineRead, handleLine, upload]
      exact ⟨.nothing _, rfl⟩
  | none =>
  cases download : dow line.cmdline with
  | some file_name =>
      rcases matchName_eq_some download with ⟨proper, isName⟩
      by_cases sent : Transmittable file_name
      · have isRequested : IsRequested (transmitted file_name) := by
          refine ⟨transmitted_ne_nil sent, ?_, length_transmitted_le sent⟩
          rw [List.all_eq_true] at isName ⊢
          intro byte byte_mem
          exact isName byte (List.mem_of_mem_take byte_mem)
        have taken := takes_download server getFiles curr_directory sync_dir file_name
          line.creatable ⟨transmitted file_name, isRequested⟩
        simp only [lineRead_download upload download sent, if_pos sent, List.flatMap_singleton]
        exact ⟨.request _ rfl, taken⟩
      · rw [lineRead, handleLine, upload]
        simp only [download, Send.on_bind, sendPacket_not_transmittable sent, if_neg sent]
        exact ⟨.nothing _, rfl⟩
  | none =>
  cases delete : del line.cmdline with
  | some file_name =>
      rw [lineRead, handleLine, upload]
      simp only [download, delete]
      cases found : isFileExists sync_dir file_name with
      | false =>
          simp only [deleteFile, found]
          exact ⟨.nothing _, rfl⟩
      | true =>
          simp only [if_true]
          cases deleteFile sync_dir file_name with
          | error exception => exact ⟨.nothing _, rfl⟩
          | ok deleted => exact ⟨.nothing _, rfl⟩
  | none =>
  by_cases list : line.cmdline = ascii "list_server"
  · simp only [lineRead_list upload download delete list, if_pos list, List.flatMap_singleton]
    refine ⟨.request _ rfl, ?_⟩
    by_cases sent : Transmittable (Device.listing getFiles)
    · rw [response, handleCommand_list_transmittable server getFiles sent, if_pos sent]
      exact Takes.cons rfl (Takes.cons rfl rfl)
    · rw [response, handleCommand_list_not_transmittable server getFiles sent, if_neg sent]
      rfl
  · rw [lineRead, handleLine, upload]
    simp only [download, delete, if_neg list]
    by_cases leave : line.cmdline = ascii "exit"
    · simp only [if_pos leave]
      exact ⟨.nothing _, rfl⟩
    · simp only [if_neg leave]
      exact ⟨.nothing _, rfl⟩

end

/-! ### Whole sessions -/

variable {session next : CommandSession} {thread target : IoThread} {input : List Line}

/-- Everything that is on its way to the client, with the answers to what is on its way to the
server. -/
def pending (server : Directory) (getFiles : Bytes) (session : CommandSession) : List Packet :=
  session.toClient ++ session.sending ++ session.toServer.flatMap (response server getFiles)

/-- A session that began with `thread` and `input`, while its client is becoming `target`. -/
structure Becoming (server : Directory) (getFiles : Bytes) (thread : IoThread)
    (input : List Line) (session : CommandSession) (target : IoThread) : Prop where
  takes : Takes target session.client (session.pending server getFiles)
  request : session.toServer = [] ∨
    (∃ pkt, session.toServer = [pkt]) ∧ session.sending = [] ∧ session.toClient = [] ∧
      session.stopped = false ∧ awaitsPacket session.client.mode = true
  stopped : session.stopped = true → target.mode ≠ .getline
  executes : target.execute server getFiles session.input = thread.execute server getFiles input
  read : target.mode = .getline → ∃ done, input = done ++ session.input ∧
    target = done.foldl (IoThread.command server getFiles) thread

theorem Becoming.start (curr_directory sync_dir : Directory) (input : List Line) :
    Becoming server getFiles { curr_directory, sync_dir, mode := .getline } input
      (start curr_directory sync_dir input) { curr_directory, sync_dir, mode := .getline } where
  takes := rfl
  request := Or.inl rfl
  stopped stop := Bool.noConfusion stop
  executes := rfl
  read _ := ⟨[], rfl, rfl⟩

/-- A client that waits for a line has nothing pending. -/
theorem Becoming.idle (becoming : Becoming server getFiles thread input session target)
    (waiting : session.client.mode = .getline) :
    session.Quiet ∧ session.client = target := by
  rcases becoming.takes.eq_of_getline waiting with ⟨nothing, same⟩
  have noRequest : session.toServer = [] := by
    rcases becoming.request with none_left | ⟨-, -, -, -, awaits⟩
    · exact none_left
    · rw [waiting] at awaits
      cases awaits
  have running : session.stopped = false := by
    rw [← Bool.not_eq_true]
    intro stop
    rw [← same] at becoming
    exact becoming.stopped stop waiting
  simp only [pending, List.append_eq_nil_iff] at nothing
  exact ⟨⟨noRequest, nothing.1.2, nothing.1.1, running⟩, same⟩

theorem Becoming.readLine (becoming : Becoming server getFiles thread input session target)
    (performed : readLine session = some next) :
    ∃ target, Becoming server getFiles thread input next target := by
  unfold CommandSession.readLine at performed
  split at performed
  case isFalse => cases performed
  case isTrue waiting =>
    rcases becoming.idle waiting with ⟨⟨noRequest, noSending, noAnswer, running⟩, rfl⟩
    split at performed
    case h_1 ended =>
      cases performed
      refine ⟨{ session.client with mode := .finished }, ?_, Or.inl noRequest, ?_, ?_, ?_⟩
      · simp only [pending, noRequest, noSending, noAnswer]
        rfl
      · rw [running]
        exact fun stop => Bool.noConfusion stop
      · have executes := becoming.executes
        simp only [ended, IoThread.execute, if_pos waiting] at executes ⊢
        rw [← executes]
        simp
      · exact fun finished => IoMode.noConfusion finished
    case h_2 line rest lines =>
      have begun : next = { session with
          client := (lineRead session.client line).1, input := rest
          toServer := (lineRead session.client line).2 } := by
        rw [noRequest] at performed
        rw [lineRead]
        rcases handled : (handleLine session.client line).on (.healthy []) with
          ⟨exception | client, connection⟩
        · rw [handled] at performed
          exact (Option.some.inj performed).symm
        · rw [handled] at performed
          exact (Option.some.inj performed).symm
      have conversation := @takes_lineRead server getFiles session.client waiting line
      subst begun
      refine ⟨session.client.command server getFiles line, ?_, ?_, ?_, ?_, ?_⟩
      · simpa only [pending, noSending, noAnswer, List.nil_append] using conversation.2
      · have asks := conversation.1
        generalize lineRead session.client line = read at asks ⊢
        cases asks with
        | nothing => exact Or.inl rfl
        | request pkt awaits => exact Or.inr ⟨⟨pkt, rfl⟩, noSending, noAnswer, running, awaits⟩
      · rw [running]
        exact fun stop => Bool.noConfusion stop
      · have executes := becoming.executes
        rw [lines, IoThread.execute, if_pos waiting] at executes
        exact executes
      · intro _
        rcases becoming.read waiting with ⟨done, all, same⟩
        refine ⟨done ++ [line], ?_, ?_⟩
        · rw [all, lines, List.append_assoc]
          rfl
        · rw [List.foldl_append, ← same]
          rfl

/-- An unhandled packet is not answered, and ends the command thread. -/
theorem response_eq_nil_of_not_isOk {pkt : Packet}
    (failed : ((Device.handleCommand ⟨pkt, server, server, getFiles⟩).on
      (.healthy [])).1.isOk = false) : response server getFiles pkt = [] := by
  cases fails : commandFails ⟨pkt, server, server, getFiles⟩ with
  | false =>
      rw [handleCommand_healthy fails] at failed
      cases failed
  | true =>
      rcases handleCommand_fails fails [] with ⟨exception, nothing⟩
      rw [response, nothing]
      rfl

theorem Becoming.serve (becoming : Becoming server getFiles thread input session target)
    (performed : serve server getFiles session = some next) :
    Becoming server getFiles thread input next target := by
  unfold CommandSession.serve at performed
  split at performed
  case h_2 => cases performed
  case h_1 pkt toServer _ _ asked =>
    cases performed
    rcases becoming.request with none_left | ⟨⟨only, single⟩, noSending, noAnswer, -, awaits⟩
    · rw [asked] at none_left
      cases none_left
    · obtain ⟨rfl, rfl⟩ : pkt = only ∧ toServer = [] := by
        rw [asked] at single
        exact List.cons.inj single
      refine ⟨?_, Or.inl rfl, ?_, becoming.executes, becoming.read⟩
      · have takes := becoming.takes
        simp only [pending, asked, noSending, noAnswer, List.flatMap_singleton,
          List.nil_append] at takes
        simp only [pending, noAnswer, List.flatMap_nil, List.append_nil, List.nil_append]
        exact takes
      · intro failed
        have nothing := response_eq_nil_of_not_isOk (by simpa using failed)
        have takes := becoming.takes
        simp only [pending, asked, noSending, noAnswer, List.flatMap_singleton, nothing,
          List.nil_append] at takes
        intro waiting
        have same : session.client = target := takes
        rw [same, waiting] at awaits
        cases awaits

theorem Becoming.send (becoming : Becoming server getFiles thread input session target)
    (performed : send session = some next) :
    Becoming server getFiles thread input next target := by
  unfold CommandSession.send at performed
  split at performed
  case h_1 => cases performed
  case h_2 pkt sending unsent =>
    cases performed
    rcases becoming.request with none_left | ⟨-, noSending, -⟩
    · refine ⟨?_, Or.inl none_left, becoming.stopped, becoming.executes, becoming.read⟩
      have takes := becoming.takes
      simp only [pending, unsent] at takes
      simpa only [pending, List.append_assoc, List.singleton_append] using takes
    · rw [unsent] at noSending
      cases noSending

theorem Becoming.receive (becoming : Becoming server getFiles thread input session target)
    (performed : receive session = some next) :
    Becoming server getFiles thread input next target := by
  unfold CommandSession.receive at performed
  split at performed
  case h_2 => cases performed
  case h_1 pkt toClient awaits arrived =>
    cases performed
    rcases becoming.request with none_left | ⟨-, -, noAnswer, -⟩
    · have takes := becoming.takes
      simp only [pending, arrived, List.cons_append] at takes
      exact ⟨takes.of_awaits awaits, Or.inl none_left, becoming.stopped, becoming.executes,
        becoming.read⟩
    · rw [arrived] at noAnswer
      cases noAnswer

theorem Becoming.step {event : Event}
    (becoming : Becoming server getFiles thread input session target)
    (performed : step server getFiles session event = some next) :
    ∃ target, Becoming server getFiles thread input next target := by
  cases event with
  | readLine => exact becoming.readLine performed
  | serve => exact ⟨target, becoming.serve performed⟩
  | send => exact ⟨target, becoming.send performed⟩
  | receive => exact ⟨target, becoming.receive performed⟩

/-- When nothing can happen any more, the interpreter has come to its end. -/
theorem Becoming.of_stuck (becoming : Becoming server getFiles thread input session target)
    (stuck : ∀ event, CommandSession.step server getFiles session event = none) :
    session.client.mode ≠ .getline ∧
      (session.client, session.input) = thread.execute server getFiles input := by
  have notWaiting : session.client.mode ≠ .getline := by
    intro waiting
    have blocked := stuck .readLine
    simp only [CommandSession.step, CommandSession.readLine, if_pos waiting] at blocked
    cases lines : session.input with
    | nil =>
        rw [lines] at blocked
        cases blocked
    | cons line rest =>
        simp only [lines] at blocked
        split at blocked <;> cases blocked
  have noRequest : session.toServer = [] := by
    rcases becoming.request with none_left | ⟨⟨pkt, single⟩, noSending, -, running, -⟩
    · exact none_left
    · have blocked := stuck .serve
      simp only [CommandSession.step, CommandSession.serve, single, noSending, running] at blocked
      cases blocked
  have noSending : session.sending = [] := by
    cases unsent : session.sending with
    | nil => rfl
    | cons pkt sending =>
        have blocked := stuck .send
        simp only [CommandSession.step, CommandSession.send, unsent] at blocked
        cases blocked
  have takes := becoming.takes
  simp only [pending, noRequest, noSending, List.flatMap_nil, List.append_nil] at takes
  have same : session.client = target := by
    cases arrived : session.toClient with
    | nil =>
        rw [arrived] at takes
        exact takes
    | cons pkt toClient =>
        rw [arrived] at takes
        rcases takes with ⟨awaits, -⟩ | ⟨-, same⟩
        · have blocked := stuck .receive
          simp only [CommandSession.step, CommandSession.receive, arrived, awaits] at blocked
          cases blocked
        · exact same
  refine ⟨notWaiting, ?_⟩
  rw [← becoming.executes, ← same]
  cases session.input with
  | nil => rw [IoThread.execute, if_neg notWaiting]
  | cons line rest => rw [IoThread.execute, if_neg notWaiting]

/-- Whatever is typed and however the threads take turns, the client that waits for a line has
nothing in flight and has performed the commands that it has read, one after the other; and every
session ends, with what the interpreter leaves of the client and of the input. -/
theorem session_executes (server : Directory) (getFiles : Bytes)
    (curr_directory sync_dir : Directory) (input : List Line)
    (reached : Reachable (step server getFiles) (fun _ _ => True)
      (start curr_directory sync_dir input) session) :
    (session.client.mode = .getline → session.Quiet ∧ ∃ done, input = done ++ session.input ∧
        session.client = done.foldl (IoThread.command server getFiles)
          { curr_directory, sync_dir, mode := .getline }) ∧
      ((∀ event, step server getFiles session event = none) →
        session.client.mode ≠ .getline ∧ (session.client, session.input) =
          IoThread.execute server getFiles { curr_directory, sync_dir, mode := .getline } input) ∧
      ¬Endless (step server getFiles) (fun _ _ => True) session := by
  obtain ⟨target, becoming⟩ : ∃ target, Becoming server getFiles
      { curr_directory, sync_dir, mode := .getline } input session target := by
    apply reached.invariant
    · exact ⟨_, .start curr_directory sync_dir input⟩
    · rintro session event next ⟨target, becoming⟩ _ performed
      exact becoming.step performed
  refine ⟨?_, becoming.of_stuck, not_endless session⟩
  intro waiting
  rcases becoming.idle waiting with ⟨quiet, same⟩
  rw [same] at waiting ⊢
  exact ⟨quiet, becoming.read waiting⟩

/-- A path is uploaded, `a` is downloaded and deleted, and the files are listed; nothing is read
after `exit`. -/
def linesAfterExit : List Line :=
  [⟨ascii "upload /tmp/a", some (ascii "y"), true⟩, ⟨ascii "download a", none, true⟩,
    ⟨ascii "delete a", none, true⟩, ⟨ascii "list_server", none, true⟩,
    ⟨ascii "exit", none, true⟩, ⟨ascii "download b", none, true⟩]

def linesAfterExitEvents : List Event :=
  [.readLine, .readLine, .serve, .send, .receive, .send, .send, .receive, .receive, .readLine,
    .readLine, .serve, .send, .send, .receive, .receive, .readLine]

theorem session_executes_linesAfterExit :
    ∃ session : CommandSession, session.client.curr_directory (ascii "a") = some (ascii "x") ∧
      session.input.length = 1 ∧
      (session.client, session.input) =
        IoThread.execute onlyA (ascii "a") ⟨fun _ => none, fun _ => none, .getline⟩
          linesAfterExit := by
  have performed : (run (step onlyA (ascii "a")) (start (fun _ => none) (fun _ => none)
      linesAfterExit) linesAfterExitEvents).map (fun session =>
        (session.client.mode, session.client.curr_directory (ascii "a"), session.toServer,
          session.sending, session.input.length)) =
      some (.finished, some (ascii "x"), [], [], 1) := by
    decide +kernel
  rcases Option.map_eq_some_iff.mp performed with ⟨session, reached, fields⟩
  simp only [Prod.mk.injEq] at fields
  rcases fields with ⟨finished, found, noRequest, noSending, unread⟩
  have stuck : ∀ event, step onlyA (ascii "a") session event = none := by
    intro event
    cases event with
    | readLine => simp [step, readLine, finished]
    | serve => simp [step, serve, noRequest]
    | send => simp [step, send, noSending]
    | receive => simp [step, receive, finished, awaitsPacket]
  have executed := session_executes onlyA (ascii "a") (fun _ => none) (fun _ => none)
    linesAfterExit (Reachable.of_run (fun _ _ _ => trivial) .start reached)
  exact ⟨session, found, unread, (executed.2.1 stuck).2⟩

end CommandSession

end SyncDir
