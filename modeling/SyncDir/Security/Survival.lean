import SyncDir.Protocol.Pairing
import SyncDir.Server.Threads

/-!
# What ends the server

An exception that leaves `Server::run` or a thread function ends the process.
`handlePeerThread` catches all exceptions; `run` has no `catch`, and the other
loops catch only a `runtime_error`, which the construction of a string from a
null pointer is not.  So a connection that closes too early, a user without a
directory, or a packet without a payload is the end of the server.

Two ends need no odd packet.  `run` exits when `accept` fails, which it does
when all descriptors are in use, and nothing closes the connections of peers and
those that begin with an unknown packet.  And `handle_new_push` takes its packet
by value: the copy and the packet of the file watcher thread both release the
payload, so a change that is propagated is the end of the server as well.

Connections arrive one after the other, and the rounds of the peer threads come
between them in any order.  The threads of the devices and of the pushes are
judged by all that can happen to them, whatever the operating system answers.
-/

namespace SyncDir

open NetworkManager PacketType Routine Thread Transition

/-- A connection that `accept` returns: what arrives on it before it is closed, and what the
iteration meets.  If it is from a client, `device` is the number of the device that is made of it,
if one is made, and `watcher` is what arrives on its second connection. -/
structure Visitor where
  stream : Bytes
  environment : Environment
  device : Option ℕ
  watcher : Bytes

/-- A thread of `handlePeerThread`, by what it has still to receive. -/
inductive PeerThread
  | receiving (packets : List Packet) (tail : Tail)
  | returned
  | spinning

inductive RunState
  | accepting
  | escaped (exception : Exception)
  /-- It has ended the process without a connection to handle, or without a thread or a socket for
  one. -/
  | exited
  /-- It never leaves the loop of `receivePayload`. -/
  | spinning
  /-- It never leaves `acceptConnection`. -/
  | waiting

/-- `free` is the number of descriptors that are not taken for ever. -/
structure Process where
  server : Server
  main : RunState
  peers : List PeerThread
  threads : List Program
  free : ℕ

inductive Event
  | connect (visitor : Visitor)
  /-- `accept` fails for another reason than the connections that are never closed, or the accept
  loop cannot create a thread or a listening socket. -/
  | failure
  /-- A peer thread comes to the end of its stream or to a packet.  If it opens a connection for the
  pushes of a user, these bytes arrive on it. -/
  | peer (number : ℕ) (environment : Server.PeerEnvironment) (pushes : Bytes)

namespace Process

/-- The threads that `handle_new_connection` starts for a device. -/
def deviceThreads (visitor : Visitor) (backup_peers : ℕ) (username commands : Bytes) :
    List Program :=
  match visitor.device with
  | none => []
  | some device =>
      [commandThread (directoryOf username) device (packetsOf commands).2 (packetsOf commands).1,
        fileWatcherThread username backup_peers (packetsOf visitor.watcher).2
          (packetsOf visitor.watcher).1]

def backupsOf (server : Server) (username : Bytes) : ℕ :=
  ((server.clientExists username).map fun manager => manager.backup_peers.length).getD 0

/-- An iteration of `Server::run`, which closes neither the connections of peers nor those of
others that are no clients. -/
def connect (process : Process) (visitor : Visitor) : Process :=
  match process.main, process.free with
  | .accepting, 0 => { process with main := .exited }
  | .accepting, free + 1 =>
      match nextPacket visitor.stream with
      | .closed =>
          { process with main := .escaped (.runtime_error "Connection closed by peer\n") }
      | .truncated => { process with main := .spinning }
      | .packet pkt rest =>
          match process.server.handleConnection visitor.environment pkt with
          | .escaped exception => { process with main := .escaped exception }
          | .waiting => { process with main := .waiting }
          | .accepting server none => { process with server, free }
          | .accepting server (some (.client username)) =>
              { process with
                server
                threads := process.threads ++
                  deviceThreads visitor (backupsOf server username) username rest }
          | .accepting server (some (.peer _)) =>
              { process with
                server
                free
                peers := process.peers ++ [.receiving (packetsOf rest).1 (packetsOf rest).2] }
  | _, _ => process

/-- A round of `handlePeerThread`, whose `catch` is for `std::exception`. -/
def peerRound (process : Process) (number : ℕ) (environment : Server.PeerEnvironment)
    (pushes : Bytes) : Process :=
  match process.peers[number]? with
  | some (.receiving [] .closed) => { process with peers := process.peers.set number .returned }
  | some (.receiving [] .truncated) =>
      { process with peers := process.peers.set number .spinning }
  | some (.receiving (pkt :: packets) tail) =>
      let round := process.server.handlePeerPacket environment pkt
      match round.result with
      | .error _ =>
          { process with server := round.server, peers := process.peers.set number .returned }
      | .ok () =>
          { process with
            server := round.server
            peers := process.peers.set number (.receiving packets tail)
            threads := process.threads ++ round.receiver.toList.map fun receiver =>
              receivePushsOn (directoryOf receiver.1) (packetsOf pushes).2 (packetsOf pushes).1 }
  | _ => process

/-- A failing call in the accept loop. -/
def fail (process : Process) : Process :=
  match process.main with
  | .accepting => { process with main := .exited }
  | _ => process

/-- What an event does; an exception that has left `run` has ended the process. -/
def after (process : Process) (event : Event) : Process :=
  match process.main, event with
  | .escaped _, _ | .exited, _ => process
  | _, .connect visitor => process.connect visitor
  | _, .failure => process.fail
  | _, .peer number environment pushes => process.peerRound number environment pushes

/-- Every event is possible at every time. -/
def step (process : Process) (event : Event) : Option Process :=
  some (process.after event)

/-- A server that has accepted nothing; a backup is connected to its leader. -/
def starting (server : Server) (leader : Option Bytes) (free : ℕ) : Process where
  server
  main := .accepting
  peers := leader.toList.map fun stream => .receiving (packetsOf stream).1 (packetsOf stream).2
  threads := []
  free

/-- No packet is copied: `handle_new_push`, which begins with the pushes to the other devices, is
given a copy of its packet, and the destructors of both release the payload. -/
def KeepsPacket : SystemCall → Prop
  | .sendPushTo _ _ => False
  | _ => True

/-- Whatever the operating system answers, the thread ends without an exception after its peer has
closed the connection, and releases no payload twice. -/
structure Regular (thread : Program) : Prop where
  ended : ∀ result, thread.Ends result → result = .ended
  keeps : thread.Performs KeepsPacket

/-- The accept loop goes on, and no thread ends the process or hangs. -/
structure Survives (process : Process) : Prop where
  accepting : process.main = .accepting
  threads : ∀ thread ∈ process.threads, Regular thread
  peers : ∀ peer ∈ process.peers, peer ≠ .spinning

/-! ### What the loops can bear -/

/-- A directory that is there or can be made. -/
def Usable (status : PathStatus) : Prop :=
  status = .directory ∨ status = .missing true

/-- Every peer takes the announcement of a user and connects back. -/
def Announces (environment : Environment) (username : Bytes) (peers : List ℕ) : Prop :=
  ∀ announced ∈ peers.zip (Server.peerMessages (Server.peerMessage username)
      (peers.map fun peer => (environment.answer peer).port)),
    (Packet.build t_CLIENT_CONNECTION.value 0 announced.2).isPacketValid = true ∧
      (environment.answer announced.1).fails = false ∧
      (environment.answer announced.1).connects = true

/-- If the first packet of a connection is from a client, it has a payload, and a new user has a
name and a directory and can be announced. -/
def Admissible (server : Server) (environment : Environment) (pkt : Packet) : Prop :=
  pkt.type = t_CLIENT.value → ∃ username, pkt.c_str = .ok username ∧
    (server.clientExists username = none → username ≠ [] ∧
      Usable (environment.stat (ascii "sync_dir_" ++ username)) ∧
      Announces environment username server.peer_connections)

/-- The stream does not end inside a payload, and wherever a payload is needed there is one. -/
def Wellformed {Mode : Type} (expectation : Expectation Mode Packet) (mode : Mode)
    (stream : Bytes) : Prop :=
  (packetsOf stream).2 = .closed ∧
    expectation.Along (fun mode pkt => expectation.accepts mode pkt = true) mode
      (packetsOf stream).1

/-- The packets after which a change may be propagated: a deletion, and the end of a file. -/
def Propagates : WatcherMode → Packet → Prop
  | .awaiting, pkt => pkt.payload.isSome = true ∧ pkt.type = t_DELETE.value
  | .buildFile _, pkt_received => pkt_received.content = ascii "END_OF_FILE"

/-- Nothing on the connection of a file watcher is propagated. -/
def Unpropagated (stream : Bytes) : Prop :=
  watched.Along (fun mode pkt => ¬Propagates mode pkt) .awaiting (packetsOf stream).1

/-- A new user is announced to this server, and it gets a directory and a connection. -/
def BecomesBackup (server : Server) (environment : Server.PeerEnvironment) (pkt : Packet) :
    Prop :=
  ∃ message, pkt.c_str = .ok message ∧ pkt.type = t_CLIENT_CONNECTION.value ∧
    server.clientExists (Server.parseClientConnection message).1 = none ∧
    (Server.parseClientConnection message).1 ≠ [] ∧
    Usable (environment.stat (directoryOf (Server.parseClientConnection message).1)) ∧
    environment.connects (Server.parseClientConnection message).2 = true

def Harmless (process : Process) : Event → Prop
  | .connect visitor => process.free ≠ 0 ∧
      ∃ pkt rest, nextPacket visitor.stream = .packet pkt rest ∧
        Admissible process.server visitor.environment pkt ∧
        (pkt.type = t_CLIENT.value → visitor.device.isSome = true →
          Wellformed commands () rest ∧ Wellformed watched .awaiting visitor.watcher ∧
            Unpropagated visitor.watcher)
  | .failure => False
  | .peer number environment pushes =>
      match process.peers[number]? with
      | some (.receiving [] tail) => tail = .closed
      | some (.receiving (pkt :: _) _) => BecomesBackup process.server environment pkt →
          Wellformed pushReceived .awaiting pushes
      | _ => True

/-! ### The accept loop -/

section AcceptLoop

theorem openDirectory_eq_ok_iff {status : PathStatus} :
    FileManager.openDirectory status = .ok () ↔ Usable status := by
  rcases status with (_ | _) | _ | _ <;> simp [FileManager.openDirectory, Usable]

theorem construct_eq_ok_iff (stat : Bytes → PathStatus) (state : ServerState)
    (username : Bytes) :
    (∃ manager, Manager.construct stat state username = .ok manager) ↔
      username ≠ [] ∧ Usable (stat (ascii "sync_dir_" ++ username)) := by
  rw [Manager.construct, ← openDirectory_eq_ok_iff]
  split_ifs with empty
  · simp [empty]
  · cases FileManager.openDirectory (stat (ascii "sync_dir_" ++ username)) with
    | error exception => simp [Except.map]
    | ok => simp [Except.map, empty]

theorem announce_finished_iff (answer : ℕ → PeerAnswer) (peers : List ℕ) (peer_msg : Bytes)
    (earlier : List ℕ) (before : List (ℕ × Bytes)) :
    (∃ backup_peers sent,
      Server.announce answer peer_msg earlier before peers = .finished backup_peers sent) ↔
      ∀ announced ∈ peers.zip (Server.peerMessages peer_msg (peers.map fun peer =>
          (answer peer).port)),
        (Packet.build t_CLIENT_CONNECTION.value 0 announced.2).isPacketValid = true ∧
          (answer announced.1).fails = false ∧ (answer announced.1).connects = true := by
  induction peers generalizing peer_msg earlier before with
  | nil => simp [Server.announce]
  | cons peer peers ih =>
      rw [Server.announce, List.map_cons, Server.peerMessages, List.zip_cons_cons,
        List.forall_mem_cons, ← ih (Server.addPort peer_msg (answer peer).port)
          (earlier ++ [peer]) (before ++ [(peer, Server.addPort peer_msg (answer peer).port)])]
      split_ifs with invalid fails connects
      · simp [invalid]
      · simp [fails]
      · simp [invalid, fails, connects]
      · simp [connects]

theorem addClient_accepting_iff {server : Server} {environment : Environment} {username : Bytes} :
    (∃ next started, server.addClient environment username = .accepting next started) ↔
      username ≠ [] ∧ Usable (environment.stat (ascii "sync_dir_" ++ username)) ∧
        Announces environment username server.peer_connections := by
  rw [← and_assoc, ← construct_eq_ok_iff _ .LEADER, Server.addClient, Announces,
    ← announce_finished_iff _ _ _ [] []]
  cases Manager.construct environment.stat .LEADER username with
  | error exception => simp
  | ok manager =>
      cases Server.announce environment.answer (Server.peerMessage username) [] []
        server.peer_connections with
      | finished backup_peers sent => simp
      | escaped exception => simp
      | waiting => simp

theorem started_of_addClient {server next : Server} {environment : Environment}
    {username : Bytes} {started : Option Server.Started}
    (accepting : server.addClient environment username = .accepting next started) :
    started = some (.client username) := by
  rw [Server.addClient] at accepting
  split at accepting
  · cases accepting
  · split at accepting
    · cases accepting
      rfl
    · cases accepting
    · cases accepting

/-- An iteration that gets back to `accept` has started a thread for a client exactly if the packet
is from one. -/
theorem started_of_handleConnection {server next : Server} {environment : Environment}
    {pkt : Packet} {started : Option Server.Started}
    (accepting : server.handleConnection environment pkt = .accepting next started) :
    (∃ username, started = some (.client username)) ↔ pkt.type = t_CLIENT.value := by
  rw [Server.handleConnection] at accepting
  split_ifs at accepting with client peer
  · apply iff_of_true _ client
    split at accepting
    · cases accepting
    · split_ifs at accepting with known
      · cases accepting
        exact ⟨_, rfl⟩
      · exact ⟨_, started_of_addClient accepting⟩
  · apply iff_of_false _ client
    cases accepting
    simp
  · apply iff_of_false _ client
    cases accepting
    simp

theorem handleConnection_accepting_iff {server : Server} {environment : Environment}
    {pkt : Packet} :
    (∃ next started, server.handleConnection environment pkt = .accepting next started) ↔
      Admissible server environment pkt := by
  rw [Server.handleConnection, Admissible]
  split_ifs with client peer
  · simp only [client, forall_const]
    cases pkt.c_str with
    | error exception => simp
    | ok username =>
        cases known : server.clientExists username with
        | none => simp [known, addClient_accepting_iff]
        | some manager => simp [known]
  · simp [client]
  · simp [client]

end AcceptLoop

/-! ### The packets that are kept -/

section Packets

theorem performs_keepsPacket_handleCommand (base_directory : Bytes) (device : ℕ) (pkt : Packet) :
    Performs KeepsPacket (handleCommand base_directory device () pkt) := by
  cases named : pkt.c_str with
  | error exception =>
      simp only [handleCommand, named]
      trivial
  | ok payload_stream =>
      simp only [handleCommand, named]
      change Performs KeepsPacket (ite _ _ _)
      split_ifs
      · simp
      · rw [performs_isFileExists_bind_iff, if_pos rfl, if_neg (by decide),
          (returns_transmit _ _).performs_iff]
        simp [KeepsPacket]
      · simp
      · simp [(returns_transmit _ _).performs_iff, performs_bind_iff, KeepsPacket]
      · simp

theorem performs_keepsPacket_handlePushed (base_directory : Bytes) (mode : PushMode)
    (pkt : Packet) : Performs KeepsPacket (handlePushed base_directory mode pkt) := by
  cases mode with
  | awaiting =>
      cases named : pkt.c_str with
      | error exception =>
          simp only [handlePushed, named]
          trivial
      | ok file_name =>
          simp only [handlePushed, named]
          change Performs KeepsPacket (ite _ _ _)
          split_ifs <;> simp [KeepsPacket]
  | receiving file_name =>
      simp only [handlePushed]
      split_ifs <;> simp [KeepsPacket]

theorem not_performs_handle_new_push (base_directory : Bytes) (announced : Announced)
    (backup_peers : ℕ) :
    ¬Performs KeepsPacket (handle_new_push base_directory announced.pkt backup_peers) := by
  rw [handle_new_push, announced.named]
  change ¬Performs KeepsPacket (Routine.call _ >>= fun _ => _)
  rw [performs_bind_iff, performs_call_iff]
  rintro ⟨kept, -⟩
  exact kept

theorem performs_keepsPacket_handleWatched_iff (username : Bytes) (backup_peers : ℕ)
    (mode : WatcherMode) (pkt : Packet) :
    Performs KeepsPacket (handleWatched username backup_peers mode pkt) ↔
      ¬Propagates mode pkt := by
  have different : t_WRITE.value ≠ t_DELETE.value := by decide
  cases mode with
  | awaiting =>
      cases present : pkt.payload.isSome with
      | false =>
          rcases c_str_of_isSome_eq_false present with ⟨what, failed⟩
          simp only [handleWatched, Propagates, announcedBy_of_error failed, present]
          exact iff_of_true trivial (by simp)
      | true =>
          rcases c_str_of_isSome present with ⟨file_name, named⟩
          simp only [handleWatched, Propagates, announcedBy_of_ok named, present, true_and]
          change Performs KeepsPacket (ite _ _ _) ↔ _
          split_ifs with write delete
          · simp [beginWrite, (returns_createFile _ _).performs_iff, KeepsPacket, write, different]
          · apply iff_of_false _ (not_not.mpr delete)
            rw [(returns_handleDelete _ _ _).performs_iff, handleDelete,
              performs_isFileExists_bind_iff, if_pos rfl, (returns_deleteFile _ _).performs_iff]
            rintro ⟨⟨-, -, -, pushed⟩, -⟩
            exact not_performs_handle_new_push _ _ _ pushed
          · exact iff_of_true (performs_pure _) delete
  | buildFile announced =>
      simp only [handleWatched, Propagates]
      split_ifs with ends
      · apply iff_of_false _ (not_not.mpr ends)
        rw [(returns_finishWrite _ _ _).performs_iff, finishWrite,
          performs_checkFileHashchanged_bind_iff, if_pos rfl,
          (returns_deleteFile _ _).performs_iff, (returns_renameFile _ _).performs_iff]
        rintro ⟨⟨-, -, -, -, pushed⟩, -⟩
        exact not_performs_handle_new_push _ _ _ pushed
      · simp [(returns_writeFile _ _ _).performs_iff, KeepsPacket, ends]

variable {Mode Item : Type} {round : Mode → Item → Routine Mode} {atEnd : ThreadEnd} {mode : Mode}
  {items : List Item} {expectation : Expectation Mode Item}

theorem regular_loop_iff (describes : expectation.Describes round) :
    Regular (loop round atEnd mode items) ↔
      (atEnd = .ended ∧
        expectation.Along (fun mode item => expectation.accepts mode item = true) mode items) ∧
      expectation.Along (fun mode item => Performs KeepsPacket (round mode item)) mode items := by
  rw [← ended_iff describes, ← performs_loop_iff describes]
  exact ⟨fun regular => ⟨regular.ended, regular.keeps⟩, fun both => ⟨both.1, both.2⟩⟩

/-- A thread whose rounds keep all packets. -/
theorem regular_loop_iff_of_keeps (describes : expectation.Describes round)
    (keeps : ∀ mode item, Performs KeepsPacket (round mode item)) :
    Regular (loop round atEnd mode items) ↔
      atEnd = .ended ∧
        expectation.Along (fun mode item => expectation.accepts mode item = true) mode items := by
  rw [regular_loop_iff describes]
  exact and_iff_left (expectation.along_of_forall keeps mode items)

end Packets

/-! ### What one event can do -/

section Step

variable {process : Process}

theorem Survives.iff_of_started (survives : process.Survives) {server : Server}
    {main : RunState} {peers : List PeerThread} (accepting : main = .accepting)
    (notSpinning : ∀ peer ∈ peers, peer ≠ .spinning) (started : List Program) (free : ℕ) :
    Survives { server, main, peers, threads := process.threads ++ started, free } ↔
      ∀ thread ∈ started, Regular thread := by
  constructor
  · intro after thread thread_mem
    exact after.threads thread (List.mem_append_right _ thread_mem)
  · intro regular
    refine ⟨accepting, ?_, notSpinning⟩
    intro thread thread_mem
    rcases List.mem_append.mp thread_mem with earlier | new
    · exact survives.threads thread earlier
    · exact regular thread new

theorem regular_receivePushsOn_iff (base_directory stream : Bytes) :
    Regular (receivePushsOn base_directory (packetsOf stream).2 (packetsOf stream).1) ↔
      Wellformed pushReceived .awaiting stream := by
  rw [Wellformed, ← threadEnd_eq_ended_iff]
  exact regular_loop_iff_of_keeps (describes_handlePushed base_directory)
    (performs_keepsPacket_handlePushed base_directory)

theorem regular_commandThread_iff (base_directory : Bytes) (device : ℕ) (stream : Bytes) :
    Regular (commandThread base_directory device (packetsOf stream).2 (packetsOf stream).1) ↔
      Wellformed commands () stream := by
  rw [Wellformed, ← threadEnd_eq_ended_iff]
  exact regular_loop_iff_of_keeps (describes_handleCommand base_directory device)
    fun _ => performs_keepsPacket_handleCommand base_directory device

theorem regular_fileWatcherThread_iff (username : Bytes) (backup_peers : ℕ) (stream : Bytes) :
    Regular (fileWatcherThread username backup_peers (packetsOf stream).2 (packetsOf stream).1) ↔
      Wellformed watched .awaiting stream ∧ Unpropagated stream := by
  rw [Wellformed, ← threadEnd_eq_ended_iff, Unpropagated,
    ← watched.along_congr (performs_keepsPacket_handleWatched_iff username backup_peers)]
  exact regular_loop_iff (describes_handleWatched username backup_peers)

theorem regular_deviceThreads_iff (visitor : Visitor) (backup_peers : ℕ)
    (username stream : Bytes) :
    (∀ thread ∈ deviceThreads visitor backup_peers username stream, Regular thread) ↔
      (visitor.device.isSome = true →
        Wellformed commands () stream ∧ Wellformed watched .awaiting visitor.watcher ∧
          Unpropagated visitor.watcher) := by
  rw [deviceThreads]
  cases visitor.device with
  | none => simp
  | some device =>
      rw [List.forall_mem_cons, List.forall_mem_singleton, regular_commandThread_iff,
        regular_fileWatcherThread_iff]
      simp

theorem survives_connect_iff (survives : process.Survives) (visitor : Visitor) :
    (process.connect visitor).Survives ↔ process.Harmless (.connect visitor) := by
  rw [connect, survives.accepting, Harmless]
  cases process.free with
  | zero =>
      apply iff_of_false
      · intro after
        cases after.accepting
      · rintro ⟨some_free, -⟩
        exact some_free rfl
  | succ free =>
      rw [and_iff_right (Nat.succ_ne_zero free)]
      simp only
      cases found : nextPacket visitor.stream with
      | closed | truncated =>
          apply iff_of_false
          · intro after
            cases after.accepting
          · rintro ⟨pkt, rest, ⟨⟩, _⟩
      | packet pkt rest =>
          simp only [Received.packet.injEq, and_assoc, exists_and_left, exists_eq_left']
          rw [← handleConnection_accepting_iff]
          cases iteration : process.server.handleConnection visitor.environment pkt with
          | escaped | waiting =>
              apply iff_of_false
              · intro after
                cases after.accepting
              · rintro ⟨⟨next, started, ⟨⟩⟩, _⟩
          | accepting next started =>
              rw [and_iff_right ⟨next, started, rfl⟩, ← started_of_handleConnection iteration]
              rcases started with _ | username | number
              · apply iff_of_true
                · exact ⟨rfl, survives.threads, survives.peers⟩
                · rintro ⟨username, ⟨⟩⟩
              · rw [forall_prop_of_true ⟨username, rfl⟩]
                refine (survives.iff_of_started rfl survives.peers _ _).trans ?_
                exact regular_deviceThreads_iff _ _ _ _
              · apply iff_of_true
                · refine ⟨rfl, survives.threads, ?_⟩
                  intro peer peer_mem
                  rcases List.mem_append.mp peer_mem with earlier | new
                  · exact survives.peers peer earlier
                  · rw [List.mem_singleton.mp new]
                    simp
                · rintro ⟨username, ⟨⟩⟩

/-- The rounds of the peer threads end or go on, except at a stream that ends in a payload. -/
theorem set_ne_spinning (survives : process.Survives) (number : ℕ) {after : PeerThread}
    (notSpinning : after ≠ .spinning) :
    ∀ peer ∈ process.peers.set number after, peer ≠ .spinning := by
  intro peer peer_mem
  rcases List.mem_or_eq_of_mem_set peer_mem with earlier | rfl
  · exact survives.peers peer earlier
  · exact notSpinning

theorem addBackup_receiver_iff {server : Server} {environment : Server.PeerEnvironment}
    {received_message : Bytes} :
    ((server.addBackup environment received_message).result = .ok () ∧
      (server.addBackup environment received_message).receiver.isSome = true) ↔
      server.clientExists (Server.parseClientConnection received_message).1 = none ∧
        (Server.parseClientConnection received_message).1 ≠ [] ∧
        Usable (environment.stat (directoryOf (Server.parseClientConnection received_message).1)) ∧
        environment.connects (Server.parseClientConnection received_message).2 = true := by
  rw [directoryOf, ← and_assoc (b := Usable _), ← construct_eq_ok_iff _ .BACKUP,
    Server.addBackup]
  cases known : server.clientExists (Server.parseClientConnection received_message).1 with
  | some manager => simp
  | none =>
      cases Manager.construct environment.stat .BACKUP
        (Server.parseClientConnection received_message).1 with
      | error exception => simp
      | ok manager =>
          cases environment.connects
            (Server.parseClientConnection received_message).2 <;> simp

/-- A thread for the pushes of a user is started exactly if the server becomes its backup. -/
theorem receiver_iff {server : Server} {environment : Server.PeerEnvironment} {pkt : Packet} :
    ((server.handlePeerPacket environment pkt).result = .ok () ∧
      (server.handlePeerPacket environment pkt).receiver.isSome = true) ↔
      BecomesBackup server environment pkt := by
  have different : t_WHO_IS_LEADER.value ≠ t_CLIENT_CONNECTION.value ∧
      t_GET_CLIENTS.value ≠ t_CLIENT_CONNECTION.value := by decide
  rcases different with ⟨notLeader, notClients⟩
  rw [Server.handlePeerPacket, BecomesBackup]
  cases pkt.c_str with
  | error exception => simp
  | ok message =>
      simp only [Except.ok.injEq, exists_eq_left']
      split_ifs with leader first clients backup
      · simp [leader, notLeader]
      · simp [leader, notLeader]
      · cases server.getClients with
        | error exception => simp [clients, notClients]
        | ok entries => simp [clients, notClients]
      · simp [backup, addBackup_receiver_iff]
      · simp [backup]

theorem survives_peerRound_iff (survives : process.Survives) (number : ℕ)
    (environment : Server.PeerEnvironment) (pushes : Bytes) :
    (process.peerRound number environment pushes).Survives ↔
      process.Harmless (.peer number environment pushes) := by
  rw [peerRound, Harmless]
  cases found : process.peers[number]? with
  | none => exact iff_of_true survives trivial
  | some peer =>
      rcases peer with ⟨_ | ⟨pkt, packets⟩, tail⟩ | _ | _
      · cases tail with
        | closed =>
            apply iff_of_true _ rfl
            exact ⟨survives.accepting, survives.threads,
              set_ne_spinning survives number (by simp)⟩
        | truncated =>
            apply iff_of_false
            · intro after
              rcases List.getElem?_eq_some_iff.mp found with ⟨within, -⟩
              exact after.peers .spinning (List.mem_set within _) rfl
            · rintro ⟨⟩
      · simp only [← receiver_iff]
        cases result : (process.server.handlePeerPacket environment pkt).result with
        | error exception =>
            apply iff_of_true
            · exact ⟨survives.accepting, survives.threads,
                set_ne_spinning survives number (by simp)⟩
            · rintro ⟨⟨⟩, _⟩
        | ok =>
            simp only [true_and]
            rw [survives.iff_of_started survives.accepting
              (set_ne_spinning survives number (by simp))]
            cases (process.server.handlePeerPacket environment pkt).receiver with
            | none => simp
            | some receiver => simp [regular_receivePushsOn_iff]
      · exact iff_of_true survives trivial
      · exact iff_of_true survives trivial

end Step

/-- An event does no harm exactly if the server can bear it. -/
theorem survives_after_iff {process : Process} (survives : process.Survives) (event : Event) :
    (process.after event).Survives ↔ process.Harmless event := by
  cases event with
  | connect visitor =>
      simp only [after, survives.accepting]
      exact survives_connect_iff survives visitor
  | failure =>
      apply iff_of_false _ not_false
      simp only [after, fail, survives.accepting]
      intro after
      cases after.accepting
  | peer number environment pushes =>
      simp only [after, survives.accepting]
      exact survives_peerRound_iff survives number environment pushes

theorem survives_starting (server : Server) (leader : Option Bytes) (free : ℕ) :
    (starting server leader free).Survives := by
  refine ⟨rfl, ?_, ?_⟩
  · intro thread thread_mem
    cases thread_mem
  · intro peer peer_mem
    rcases List.mem_map.mp peer_mem with ⟨stream, _, rfl⟩
    simp

theorem exists_run (process : Process) (events : List Event) :
    ∃ last, run step process events = some last := by
  induction events generalizing process with
  | nil => exact ⟨process, rfl⟩
  | cons event events ih => exact ih (process.after event)

/-- A connection that is closed before anything has been sent. -/
def silent : Visitor :=
  { stream := [], environment := Server.cooperative, device := none, watcher := [] }

end Process

end SyncDir
