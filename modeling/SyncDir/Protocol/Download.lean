import SyncDir.Protocol.CommandSession
import SyncDir.Transfer.Closing

/-!
# Downloads

In a session of `download` commands the two threads stay in lockstep.  The
client asks for one file at a time and reads everything that the server sends
for it, so that nothing is in flight when it reads its next line.  What it
creates is then the server's file; a file that the server does not have is not
created.
-/

namespace SyncDir

open Client FileManager NetworkManager PacketType Transition

namespace CommandSession

/-- What a download does to the directory in which the client runs. -/
def downloaded (server disk : Directory) (name : Argument) : Directory :=
  match server name.bytes with
  | none => disk
  | some content => Function.update disk name.bytes (some content)

def downloads (server disk : Directory) (names : List Argument) : Directory :=
  names.foldl (downloaded server) disk

@[simp]
theorem downloads_concat (server disk : Directory) (names : List Argument) (name : Argument) :
    downloads server disk (names ++ [name]) =
      downloaded server (downloads server disk names) name := by
  simp [downloads]

def request (name : RequestedName) : Packet :=
  Packet.build t_DOWNLOAD.value 1 name.bytes

def answer (server : Directory) (name : RequestedName) : List Packet :=
  if isFileExists server name.bytes then
    Packet.build t_FILE_FOUND.value 1 (ascii "xxx") ::
      body MAX_PACKET_SIZE (server name.bytes)
  else [Packet.build t_FILE_NOT_FOUND.value 1 (ascii "xxx")]

theorem answer_of_some {server : Directory} {name : RequestedName} {content : Bytes}
    (stored : server name.bytes = some content) :
    answer server name = Packet.build t_FILE_FOUND.value 1 (ascii "xxx") ::
      transfer 0 (chunks MAX_PACKET_SIZE content) := by
  simp [answer, isFileExists, stored, body]

theorem answer_of_none {server : Directory} {name : RequestedName}
    (proper : isDirectory name.bytes = false) (absent : server name.bytes = none) :
    answer server name = [Packet.build t_FILE_NOT_FOUND.value 1 (ascii "xxx")] := by
  simp [answer, isFileExists, proper, absent]

theorem handleCommand_request (server : Directory) (getFiles : Bytes) (name : RequestedName) :
    (Device.handleCommand ⟨request name, server, server, getFiles⟩).on (.healthy []) =
      (.ok (), .healthy (answer server name)) := by
  have notList : t_DOWNLOAD ≠ t_LIST := by decide
  have handled : commandFails ⟨request name, server, server, getFiles⟩ = false := by
    simp [commandFails, request, Packet.build, notList]
  rw [handleCommand_healthy handled]
  cases found : isFileExists server name.bytes with
  | false => simp [commandSegment, announcedFile, request, found, answer, Segment.packets]
  | true => simp [commandSegment, announcedFile, request, found, answer, Segment.packets]

/-! ### Lockstep -/

/-- A session in which `names` are still to be asked for. -/
def during (sync_dir curr_directory : Directory) (mode : IoMode) (names : List Argument)
    (toServer sending toClient : List Packet) : CommandSession :=
  { client := { curr_directory, sync_dir, mode }, input := names.map Argument.download, toServer,
    sending, toClient, stopped := false }

/-- The states of a session in lockstep; in all but the first and the last, `name` is being
downloaded after `done`. -/
inductive Lockstep (server disk sync_dir : Directory) (names : List Argument) :
    CommandSession → Prop
  | between {done rest : List Argument} (all : names = done ++ rest) :
      Lockstep server disk sync_dir names
        (during sync_dir (downloads server disk done) .getline rest [] [] [])
  | requested {done rest : List Argument} {name : Argument} (all : names = done ++ name :: rest) :
      Lockstep server disk sync_dir names
        (during sync_dir (downloads server disk done) (.response name.bytes true) rest
          [request name.toRequestedName] [] [])
  | answered {done rest : List Argument} {name : Argument} {sending toClient : List Packet}
      (all : names = done ++ name :: rest)
      (packets : toClient ++ sending = answer server name.toRequestedName) :
      Lockstep server disk sync_dir names
        (during sync_dir (downloads server disk done) (.response name.bytes true) rest []
          sending toClient)
  | receiving {done rest : List Argument} {name : Argument} {sending toClient : List Packet}
      {content written : Bytes} {sequenceNumber : UInt16} {pieces : List Bytes}
      (all : names = done ++ name :: rest) (stored : server name.bytes = some content)
      (packets : toClient ++ sending = transfer sequenceNumber pieces)
      (fits : ∀ piece ∈ pieces, piece.length ≤ MAX_PACKET_SIZE)
      (parts : written ++ pieces.flatten = content) :
      Lockstep server disk sync_dir names
        (during sync_dir (Function.update (downloads server disk done) name.bytes (some written))
          (.receivingFile name.bytes) rest [] sending toClient)
  | finished :
      Lockstep server disk sync_dir names
        (during sync_dir (downloads server disk names) .finished [] [] [] [])

section

variable {server disk sync_dir : Directory} {getFiles : Bytes} {names : List Argument}
  {session next : CommandSession}

theorem Lockstep.readLine (lockstep : Lockstep server disk sync_dir names session)
    (performed : readLine session = some next) : Lockstep server disk sync_dir names next := by
  cases lockstep with
  | @between done rest all =>
      cases rest with
      | nil =>
          obtain rfl : names = done := by simpa using all
          cases performed
          exact .finished
      | cons name rest =>
          have sent := handleLine_download
            { curr_directory := downloads server disk done, sync_dir, mode := .getline } name []
          simp only [readLine, during, List.map_cons, if_true, sent] at performed
          cases performed
          exact .requested all
  | requested all => cases performed
  | answered all packets => cases performed
  | receiving all stored packets fits parts => cases performed
  | finished => cases performed

theorem Lockstep.serve (lockstep : Lockstep server disk sync_dir names session)
    (performed : serve server getFiles session = some next) :
    Lockstep server disk sync_dir names next := by
  cases lockstep with
  | between all => cases performed
  | requested all =>
      simp only [CommandSession.serve, during, handleCommand_request] at performed
      cases performed
      exact .answered all rfl
  | @answered _ _ _ sending _ all packets => cases sending <;> cases performed
  | @receiving _ _ _ sending _ _ _ _ _ all stored packets fits parts =>
      cases sending <;> cases performed
  | finished => cases performed

theorem Lockstep.send (lockstep : Lockstep server disk sync_dir names session)
    (performed : send session = some next) : Lockstep server disk sync_dir names next := by
  cases lockstep with
  | between all => cases performed
  | requested all => cases performed
  | @answered done rest name sending toClient all packets =>
      cases sending with
      | nil => cases performed
      | cons pkt sending =>
          cases performed
          have moved : toClient ++ [pkt] ++ sending = answer server name.toRequestedName := by
            simpa using packets
          exact .answered all moved
  | @receiving done rest name sending toClient content written sequenceNumber pieces all stored
      packets fits parts =>
      cases sending with
      | nil => cases performed
      | cons pkt sending =>
          cases performed
          have moved : toClient ++ [pkt] ++ sending = transfer sequenceNumber pieces := by
            simpa using packets
          exact .receiving all stored moved fits parts
  | finished => cases performed

/-- The answer decides whether the file is created. -/
theorem Lockstep.response {done rest : List Argument} {name : Argument} {pkt : Packet}
    {sending toClient : List Packet} (all : names = done ++ name :: rest)
    (packets : pkt :: toClient ++ sending = answer server name.toRequestedName) :
    Lockstep server disk sync_dir names
      { during sync_dir (downloads server disk done) (.response name.bytes true) rest []
          sending toClient with
        client := handleIoPacket
          { curr_directory := downloads server disk done, sync_dir,
            mode := .response name.bytes true } pkt } := by
  cases stored : server name.bytes with
  | none =>
      rw [answer_of_none name.proper stored] at packets
      simp only [List.cons_append, List.cons.injEq, List.append_eq_nil_iff] at packets
      rcases packets with ⟨rfl, rfl, rfl⟩
      have unchanged : downloads server disk (done ++ [name]) = downloads server disk done := by
        simp [downloaded, stored]
      have idle : Lockstep server disk sync_dir names (during sync_dir
          (downloads server disk (done ++ [name])) .getline rest [] [] []) := by
        apply Lockstep.between
        simpa using all
      rw [unchanged] at idle
      exact idle
  | some content =>
      rw [answer_of_some stored] at packets
      simp only [List.cons_append, List.cons.injEq] at packets
      rcases packets with ⟨rfl, packets⟩
      have found : t_FILE_FOUND.value ≠ t_FILE_NOT_FOUND.value := by decide
      simp only [handleIoPacket, Packet.build_type, if_neg found, IoThread.create, if_true,
        createFile_of_proper name.proper]
      apply Lockstep.receiving all stored packets
      · intro piece piece_mem
        exact chunks_length_le piece_mem
      · simpa using chunks_flatten MAX_PACKET_SIZE content

/-- A data packet is appended to the file, and the last packet leaves it complete. -/
theorem Lockstep.piece {done rest : List Argument} {name : Argument} {pkt : Packet}
    {sending toClient : List Packet} {content written : Bytes} {sequenceNumber : UInt16}
    {pieces : List Bytes} (all : names = done ++ name :: rest)
    (stored : server name.bytes = some content)
    (packets : pkt :: toClient ++ sending = transfer sequenceNumber pieces)
    (fits : ∀ piece ∈ pieces, piece.length ≤ MAX_PACKET_SIZE)
    (parts : written ++ pieces.flatten = content) :
    Lockstep server disk sync_dir names
      { during sync_dir (Function.update (downloads server disk done) name.bytes (some written))
          (.receivingFile name.bytes) rest [] sending toClient with
        client := handleIoPacket
          { curr_directory :=
              Function.update (downloads server disk done) name.bytes (some written)
            sync_dir, mode := .receivingFile name.bytes } pkt } := by
  cases pieces with
  | nil =>
      simp only [transfer, List.cons_append, List.cons.injEq, List.append_eq_nil_iff] at packets
      rcases packets with ⟨rfl, rfl, rfl⟩
      obtain rfl : written = content := by simpa using parts
      have complete : downloads server disk (done ++ [name]) =
          Function.update (downloads server disk done) name.bytes (some written) := by
        simp [downloaded, stored]
      have idle : Lockstep server disk sync_dir names (during sync_dir
          (downloads server disk (done ++ [name])) .getline rest [] [] []) := by
        apply Lockstep.between
        simpa using all
      rw [complete] at idle
      exact idle
  | cons piece pieces =>
      simp only [transfer, List.cons_append, List.cons.injEq] at packets
      rcases packets with ⟨rfl, packets⟩
      have data : t_DATA.value ≠ t_END_OF_FILE.value := by decide
      rcases List.forall_mem_cons.mp fits with ⟨first, later⟩
      simp only [handleIoPacket, Packet.build_type, if_neg data, writeFile_of_proper name.proper,
        Packet.build_content first, Function.update_self, Function.update_idem, Option.getD_some]
      apply Lockstep.receiving all stored packets later
      simpa using parts

theorem Lockstep.receive (lockstep : Lockstep server disk sync_dir names session)
    (performed : receive session = some next) : Lockstep server disk sync_dir names next := by
  cases lockstep with
  | between all => cases performed
  | requested all => cases performed
  | @answered done rest name sending toClient all packets =>
      cases toClient with
      | nil => cases performed
      | cons pkt toClient =>
          cases performed
          exact .response all packets
  | @receiving done rest name sending toClient content written sequenceNumber pieces all stored
      packets fits parts =>
      cases toClient with
      | nil => cases performed
      | cons pkt toClient =>
          cases performed
          exact .piece all stored packets fits parts
  | finished => cases performed

theorem Lockstep.step {event : Event} (lockstep : Lockstep server disk sync_dir names session)
    (performed : step server getFiles session event = some next) :
    Lockstep server disk sync_dir names next := by
  cases event with
  | readLine => exact lockstep.readLine performed
  | serve => exact lockstep.serve performed
  | send => exact lockstep.send performed
  | receive => exact lockstep.receive performed

theorem Lockstep.reachable
    (reached : Reachable (CommandSession.step server getFiles) (fun _ _ => True)
      (start disk sync_dir (names.map Argument.download)) session) :
    Lockstep server disk sync_dir names session := by
  apply reached.invariant
  · exact .between (List.nil_append names).symm
  · intro session event next lockstep _ performed
    exact lockstep.step performed

/-- While packets are on their way to the client, it can take one or the server can send one. -/
theorem not_stuck_of_packets {curr_directory : Directory} {mode : IoMode} {rest : List Argument}
    {sending toClient : List Packet} (waiting : awaitsPacket mode = true)
    (packets : toClient ++ sending ≠ []) :
    ¬∀ event, CommandSession.step server getFiles
      (during sync_dir curr_directory mode rest [] sending toClient) event = none := by
  intro stuck
  cases toClient with
  | nil =>
      cases sending with
      | nil => exact packets rfl
      | cons pkt sending => cases stuck .send
  | cons pkt toClient =>
      have blocked := stuck .receive
      simp [CommandSession.step, CommandSession.receive, during, waiting] at blocked

theorem answer_ne_nil (server : Directory) (name : RequestedName) :
    answer server name ≠ [] := by
  unfold answer
  split <;> simp

theorem transfer_ne_nil (sequenceNumber : UInt16) (pieces : List Bytes) :
    transfer sequenceNumber pieces ≠ [] := by
  cases pieces <;> simp [transfer]

/-- A session in lockstep can only stop at the end of the input. -/
theorem Lockstep.finished_of_stuck (lockstep : Lockstep server disk sync_dir names session)
    (stuck : ∀ event, CommandSession.step server getFiles session event = none) :
    session = during sync_dir (downloads server disk names) .finished [] [] [] [] := by
  cases lockstep with
  | @between done rest all =>
      cases rest with
      | nil => cases stuck .readLine
      | cons name rest =>
          have sent := handleLine_download
            { curr_directory := downloads server disk done, sync_dir, mode := .getline } name []
          have blocked := stuck .readLine
          simp [CommandSession.step, CommandSession.readLine, during, sent] at blocked
  | requested all => cases stuck .serve
  | @answered _ _ name _ _ all packets =>
      have some_left := answer_ne_nil server name.toRequestedName
      rw [← packets] at some_left
      exact absurd stuck (not_stuck_of_packets rfl some_left)
  | @receiving _ _ _ _ _ _ _ sequenceNumber pieces all stored packets fits parts =>
      have some_left := transfer_ne_nil sequenceNumber pieces
      rw [← packets] at some_left
      exact absurd stuck (not_stuck_of_packets rfl some_left)
  | finished => rfl

end

/-- No packet is in flight and the server waits for the next one. -/
def Quiet (session : CommandSession) : Prop :=
  session.toServer = [] ∧ session.sending = [] ∧ session.toClient = [] ∧ session.stopped = false

/-- Whenever the client reads a line, nothing is in flight and its directory is the result of the
downloads so far; and every session comes to the end of its input. -/
theorem downloads_in_lockstep (server disk sync_dir : Directory) (getFiles : Bytes)
    (names : List Argument) {session : CommandSession}
    (reached : Reachable (step server getFiles) (fun _ _ => True)
      (start disk sync_dir (names.map Argument.download)) session) :
    (session.client.mode = .getline → session.Quiet ∧ ∃ done rest, names = done ++ rest ∧
        session.input = rest.map Argument.download ∧
        session.client.curr_directory = downloads server disk done) ∧
      ((∀ event, step server getFiles session event = none) →
        session.client.mode = .finished ∧ session.Quiet ∧ session.input = [] ∧
          session.client.curr_directory = downloads server disk names) ∧
      ¬Endless (step server getFiles) (fun _ _ => True) session := by
  have lockstep := Lockstep.reachable reached
  refine ⟨?_, ?_, not_endless session⟩
  · intro waiting
    cases lockstep with
    | @between done rest all => exact ⟨⟨rfl, rfl, rfl, rfl⟩, done, rest, all, rfl, rfl⟩
    | requested all => cases waiting
    | answered all packets => cases waiting
    | receiving all stored packets fits parts => cases waiting
    | finished => cases waiting
  · intro stuck
    rw [lockstep.finished_of_stuck stuck]
    exact ⟨rfl, ⟨rfl, rfl, rfl, rfl⟩, rfl, rfl⟩

/-- The server's directory has the file `a` with the content of one letter. -/
def onlyA : Directory :=
  Function.update (fun _ => none) (ascii "a") (some (ascii "x"))

/-- The names `b`, which the server does not have, and `a`. -/
def missingAndFound : List Argument :=
  [⟨⟨ascii "b", by decide⟩, by decide⟩, ⟨⟨ascii "a", by decide⟩, by decide⟩]

def missingAndFoundEvents : List Event :=
  [.readLine, .serve, .send, .receive, .readLine, .serve, .send, .send, .send, .receive, .receive,
    .receive]

theorem downloads_in_lockstep_missingAndFound :
    ∃ session : CommandSession, session.client.curr_directory (ascii "a") = some (ascii "x") ∧
      session.Quiet ∧ ∃ done rest, missingAndFound = done ++ rest ∧
        session.input = rest.map Argument.download ∧
        session.client.curr_directory = downloads onlyA (fun _ => none) done := by
  have performed : (run (step onlyA []) (start (fun _ => none) (fun _ => none)
      (missingAndFound.map Argument.download)) missingAndFoundEvents).map (fun session =>
        (session.client.mode, session.client.curr_directory (ascii "a"))) =
      some (.getline, some (ascii "x")) := by decide +kernel
  rcases Option.map_eq_some_iff.mp performed with ⟨session, reached, fields⟩
  rcases Prod.mk.inj fields with ⟨waiting, found⟩
  have permitted : ∀ event ∈ missingAndFoundEvents, ∀ _ : CommandSession, True :=
    fun _ _ _ => trivial
  have lockstep := downloads_in_lockstep onlyA (fun _ => none) (fun _ => none) [] missingAndFound
    (Reachable.of_run permitted .start reached)
  exact ⟨session, found, lockstep.1 waiting⟩

end CommandSession

end SyncDir
