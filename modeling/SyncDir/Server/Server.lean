import SyncDir.Server.ClientManager

/-!
# The server

`Server::run` accepts one connection after the other and looks at the first
packet of each.  A client is handed to the manager of its user, which is created
if it does not exist; the new user is then announced to all peers, each of which
should connect back to a port that is opened for it.  A peer is registered, and
served by `handlePeerThread` in a thread of its own.

What the operating system and the peers do is the environment of an iteration:
whether the directory of a user can be had, which port is opened for a peer,
whether the announcement can be sent to it, and whether it connects back.
Failures of the system on local sockets are left out.
-/

namespace SyncDir

open NetworkManager PacketType

/-- What `stat` finds at a path, and whether `mkdir` succeeds where it finds nothing. -/
inductive PathStatus
  | missing (creatable : Bool)
  | directory
  | other
  deriving DecidableEq

/-- The constructor of a `FileManager`. -/
def FileManager.openDirectory : PathStatus → Except Exception Unit
  | .missing true => .ok ()
  | .missing false => .error (.runtime_error "Falha ao criar diretório ")
  | .directory => .ok ()
  | .other => .error (.runtime_error "Base directory is not a directory")

/-- `State` of a server or a manager. -/
inductive ServerState
  | LEADER
  | BACKUP
  deriving DecidableEq

/-- A `ClientManager` in the list of a server, with the peers that its `backup_peers` lead to. -/
structure Manager where
  state : ServerState
  username : Bytes
  backup_peers : List ℕ
  deriving DecidableEq

/-- The constructor of a `ClientManager`. -/
def Manager.construct (stat : Bytes → PathStatus) (state : ServerState) (username : Bytes) :
    Except Exception Manager :=
  if username = [] then .error (.runtime_error "Username cannot be empty")
  else
    (FileManager.openDirectory (stat (ascii "sync_dir_" ++ username))).map fun _ =>
      { state, username, backup_peers := [] }

theorem Manager.construct_username {stat : Bytes → PathStatus} {state : ServerState}
    {username : Bytes} {manager : Manager}
    (constructed : Manager.construct stat state username = .ok manager) :
    username ≠ [] ∧ manager.username = username := by
  rw [Manager.construct] at constructed
  split_ifs at constructed with empty
  cases opened : FileManager.openDirectory (stat (ascii "sync_dir_" ++ username)) with
  | error exception =>
      rw [opened] at constructed
      cases constructed
  | ok _ =>
      rw [opened] at constructed
      cases constructed
      exact ⟨empty, rfl⟩

/-- A server; its peers are numbered in the order of their arrival. -/
structure Server where
  state : ServerState
  ip : Bytes
  clients : List Manager
  peer_connections : List ℕ
  deriving DecidableEq

/-- A port that a socket listens on. -/
structure Port where
  number : ℕ
  positive : 0 < number
  bounded : number < 65536

/-- The first port that needs no privileges. -/
def Port.first : Port :=
  { number := 1024, positive := by decide, bounded := by decide }

/-- How a peer takes part in the announcement of a user. -/
structure PeerAnswer where
  port : Port
  fails : Bool
  connects : Bool

structure Environment where
  stat : Bytes → PathStatus
  answer : ℕ → PeerAnswer

namespace Server

def clientExists (server : Server) (username : Bytes) : Option Manager :=
  server.clients.find? fun manager => manager.username = username

theorem clientExists_eq_none_iff {server : Server} {username : Bytes} :
    server.clientExists username = none ↔ username ∉ server.clients.map Manager.username := by
  rw [Server.clientExists, List.find?_eq_none]
  simp

/-! ### The accept loop -/

/-- The message that the loop over the peers begins with. -/
def peerMessage (username : Bytes) : Bytes :=
  ascii "CLIENT_CONNECTION " ++ username

/-- Each round of the loop appends a port to the message of the round before. -/
def addPort (peer_msg : Bytes) (port : Port) : Bytes :=
  peer_msg ++ ascii " " ++ to_string port.number

/-- The messages to the peers, by the ports that are opened for them. -/
def peerMessages (peer_msg : Bytes) : List Port → List Bytes
  | [] => []
  | port :: ports => addPort peer_msg port :: peerMessages (addPort peer_msg port) ports

/-- How the loop over the peers ends: with a backup connection for each of them, with an exception,
or in `acceptConnection`. -/
inductive Announcement
  | finished (backup_peers : List ℕ) (sent : List (ℕ × Bytes))
  | escaped (exception : Exception)
  | waiting

/-- The loop over the peers, with the messages sent so far. -/
def announce (answer : ℕ → PeerAnswer) (peer_msg : Bytes) (backup_peers : List ℕ)
    (sent : List (ℕ × Bytes)) : List ℕ → Announcement
  | [] => .finished backup_peers sent
  | peer :: peers =>
      let message := addPort peer_msg (answer peer).port
      if (Packet.build t_CLIENT_CONNECTION.value 0 message).isPacketValid = false then
        .escaped (.runtime_error "Invalid packet")
      else if (answer peer).fails then
        .escaped (.runtime_error "Failed to send packet on ")
      else if (answer peer).connects then
        announce answer message (backup_peers ++ [peer]) (sent ++ [(peer, message)]) peers
      else
        .waiting

inductive Started
  | client (username : Bytes)
  | peer (number : ℕ)
  deriving DecidableEq

inductive Iteration
  | accepting (server : Server) (started : Option Started)
  | escaped (exception : Exception)
  | waiting

/-- Give the manager that has been created last its backup connections. -/
def pairLast (server : Server) (manager : Manager) (backup_peers : List ℕ) : Server :=
  { server with clients := server.clients ++ [{ manager with backup_peers }] }

/-- The handling of a client with a new username. -/
def addClient (server : Server) (environment : Environment) (username : Bytes) : Iteration :=
  match Manager.construct environment.stat .LEADER username with
  | .error exception => .escaped exception
  | .ok manager =>
      match announce environment.answer (peerMessage username) [] [] server.peer_connections with
      | .finished backup_peers _ =>
          .accepting (server.pairLast manager backup_peers) (some (.client username))
      | .escaped exception => .escaped exception
      | .waiting => .waiting

/-- An iteration of `Server::run` for the first packet of a connection. -/
def handleConnection (server : Server) (environment : Environment) (pkt : Packet) : Iteration :=
  if pkt.type = t_CLIENT.value then
    match pkt.c_str with
    | .error exception => .escaped exception
    | .ok username =>
        if (server.clientExists username).isSome then
          .accepting server (some (.client username))
        else
          server.addClient environment username
  else if pkt.type = t_PEER.value then
    .accepting
      { server with
        peer_connections := server.peer_connections ++ [server.peer_connections.length] }
      (some (.peer server.peer_connections.length))
  else
    .accepting server none

theorem announce_finished {answer : ℕ → PeerAnswer} {peers : List ℕ} {peer_msg : Bytes}
    {earlier backup_peers : List ℕ} {before sent : List (ℕ × Bytes)}
    (finished : announce answer peer_msg earlier before peers = .finished backup_peers sent) :
    backup_peers = earlier ++ peers ∧
      sent = before ++ peers.zip (peerMessages peer_msg
        (peers.map fun peer => (answer peer).port)) := by
  induction peers generalizing peer_msg earlier before with
  | nil =>
      simp only [announce, Announcement.finished.injEq] at finished
      simpa [eq_comm] using finished
  | cons peer peers ih =>
      simp only [announce] at finished
      split at finished
      · cases finished
      · split at finished
        · cases finished
        · split at finished
          · rcases ih finished with ⟨paired, messages⟩
            constructor
            · rw [paired, List.append_assoc, List.singleton_append]
            · rw [messages, List.append_assoc, List.singleton_append, List.map_cons,
                peerMessages, List.zip_cons_cons]
          · cases finished

/-! ### The peer thread -/

/-- `getIp` of a manager, whose `network_manager` is never set. -/
def getIp (_manager : Manager) : Except Exception Bytes :=
  .error (.runtime_error "GetIP without networkManager!")

/-- `getPort` of a manager, whose `network_manager` is never set. -/
def getPort (_manager : Manager) : Except Exception ℕ :=
  .error (.runtime_error "GetPort without networkManager!")

/-- The port may as well be asked for before the address, since C++ does not order the calls; either
throws. -/
def getClients (server : Server) : Except Exception (List Bytes) :=
  server.clients.mapM fun manager => do
    let ip ← getIp manager
    let port ← getPort manager
    return manager.username ++ ascii " " ++ ip ++ ascii ":" ++ to_string port

def list_to_packet_content (vec : List Bytes) : Bytes :=
  ascii "[" ++ (vec.map fun entry => entry ++ ascii ";").flatten ++ ascii "]"

/-- What `iss >> username >> porta` reads; the port stays unset at the end of the message. -/
def parseClientConnection (received_message : Bytes) : Bytes × Option ℤ :=
  (extractWord received_message, extractInt (afterWord received_message))

/-- What a round of `handlePeerThread` meets: the directories, whether its answer can be sent, and
whether it can connect to a port of the peer. -/
structure PeerEnvironment where
  stat : Bytes → PathStatus
  sends : Bool
  connects : Option ℤ → Bool

/-- What a round of `handlePeerThread` leaves: the server, the answer, the user and the port whose
pushes are to be received, and how the round has ended. -/
structure PeerRound where
  server : Server
  answer : Option Packet
  receiver : Option (Bytes × Option ℤ)
  result : Except Exception Unit

def answerPeer (server : Server) (environment : PeerEnvironment) (type : UInt16)
    (payload : Bytes) : PeerRound :=
  if (Packet.build type 0 payload).isPacketValid = false then
    { server, answer := none, receiver := none, result := .error (.runtime_error "Invalid packet") }
  else if environment.sends then
    { server, answer := some (Packet.build type 0 payload), receiver := none, result := .ok () }
  else
    { server, answer := none, receiver := none,
      result := .error (.runtime_error "Failed to send packet on ") }

@[simp]
theorem answerPeer_server (server : Server) (environment : PeerEnvironment) (type : UInt16)
    (payload : Bytes) : (server.answerPeer environment type payload).server = server := by
  rw [answerPeer]
  split_ifs <;> rfl

@[simp]
theorem answerPeer_receiver (server : Server) (environment : PeerEnvironment) (type : UInt16)
    (payload : Bytes) : (server.answerPeer environment type payload).receiver = none := by
  rw [answerPeer]
  split_ifs <;> rfl

/-- The handling of `t_CLIENT_CONNECTION`: a new user gets a manager, and a connection to the port
that the leader has opened. -/
def addBackup (server : Server) (environment : PeerEnvironment) (received_message : Bytes) :
    PeerRound :=
  let username := (parseClientConnection received_message).1
  let porta := (parseClientConnection received_message).2
  if (server.clientExists username).isSome then
    { server, answer := none, receiver := none, result := .ok () }
  else
    match Manager.construct environment.stat .BACKUP username with
    | .error exception => { server, answer := none, receiver := none, result := .error exception }
    | .ok manager =>
        { server := { server with clients := server.clients ++ [manager] }
          answer := none
          receiver := some (username, porta)
          result := if environment.connects porta then .ok ()
            else .error (.runtime_error "Failed to connect to server") }

/-- A round of `handlePeerThread`, whose `catch` ends the thread for every exception. -/
def handlePeerPacket (server : Server) (environment : PeerEnvironment) (pkt : Packet) :
    PeerRound :=
  match pkt.c_str with
  | .error exception => { server, answer := none, receiver := none, result := .error exception }
  | .ok received_message =>
      if pkt.type = t_WHO_IS_LEADER.value then
        if server.state = .LEADER then
          server.answerPeer environment t_LEADER.value server.ip
        else
          { server, answer := none, receiver := none, result := .ok () }
      else if pkt.type = t_GET_CLIENTS.value then
        match server.getClients with
        | .error exception =>
            { server, answer := none, receiver := none, result := .error exception }
        | .ok clients =>
            server.answerPeer environment t_CLIENTS.value (list_to_packet_content clients)
      else if pkt.type = t_CLIENT_CONNECTION.value then
        server.addBackup environment received_message
      else
        { server, answer := none, receiver := none, result := .ok () }

end Server

end SyncDir
