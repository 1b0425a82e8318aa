import SyncDir.Protocol.Announcement
import SyncDir.Protocol.ClientList
import SyncDir.Protocol.Handshake

/-!
# A leader and its backups

A backup starts with the constructor of a `Server` that connects to the leader:
it asks who is the leader and which clients there are, and takes the next packet
for the answer each time.  Then its `handlePeerThread` waits for announcements
of new users.  At the leader, `Server::run` announces a new user to one peer
after the other, and waits each time in `acceptConnection` until somebody
connects to the port that it has opened for the peer; the questions of the peers
are answered by threads of their own.

Here the leader and all its backups run together, with the packets in flight
between them.  A backup connects to a port at its own address, which leads to
the leader only if both run on one host.  When an exception has ended the
leader, its threads have ended too, and the backups find their connections
closed.
-/

namespace SyncDir

open PacketType Transition

namespace Server

/-- The username that a backup reads in every announcement. -/
def keyword : Bytes :=
  ascii "CLIENT_CONNECTION"

/-- The port that a backup reads in an announcement. -/
def dialled (message : Bytes) : Option ℤ :=
  (parseClientConnection (cString message)).2

theorem parse_cString_peerMessage (username rest : Bytes) :
    (parseClientConnection (cString (peerMessage username ++ rest))).1 = keyword := by
  have noNul : ∀ byte ∈ ascii "CLIENT_CONNECTION ", decide (byte ≠ 0) = true :=
    List.all_eq_true.mp (by decide)
  have kept :
      cString (peerMessage username ++ rest) = peerMessage (cString (username ++ rest)) := by
    rw [peerMessage, List.append_assoc, cString, List.takeWhile_append_of_pos noNul]
    rfl
  have parsed := parseClientConnection_peerMessage (cString (username ++ rest)) []
  rw [List.append_nil] at parsed
  rw [kept, parsed]
  rfl

/-- A round that announces no user leaves the server as it is. -/
theorem handlePeerPacket_of_ne (server : Server) (environment : PeerEnvironment) {pkt : Packet}
    (other : pkt.type ≠ t_CLIENT_CONNECTION.value) :
    (server.handlePeerPacket environment pkt).server = server ∧
      (server.handlePeerPacket environment pkt).receiver = none := by
  rw [handlePeerPacket]
  cases pkt.c_str with
  | error exception => exact ⟨rfl, rfl⟩
  | ok received_message =>
      simp only [if_neg other]
      split_ifs
      · exact ⟨answerPeer_server .., answerPeer_receiver ..⟩
      · exact ⟨rfl, rfl⟩
      · cases server.getClients with
        | error exception => exact ⟨rfl, rfl⟩
        | ok clients => exact ⟨answerPeer_server .., answerPeer_receiver ..⟩
      · exact ⟨rfl, rfl⟩

theorem answerPeer_answer {server : Server} {environment : PeerEnvironment} {type : UInt16}
    {payload : Bytes} {answer : Packet}
    (answered : (server.answerPeer environment type payload).answer = some answer) :
    answer.type = type ∧ answer.payload.isSome = true := by
  rw [answerPeer] at answered
  split_ifs at answered
  cases answered
  exact ⟨rfl, rfl⟩

theorem addBackup_answer (server : Server) (environment : PeerEnvironment)
    (received_message : Bytes) : (server.addBackup environment received_message).answer = none := by
  rw [addBackup]
  split
  · rfl
  · split <;> rfl

/-- Only the two questions are answered, each in its own type. -/
theorem handlePeerPacket_answer {server : Server} {environment : PeerEnvironment}
    {pkt answer : Packet}
    (answered : (server.handlePeerPacket environment pkt).answer = some answer) :
    answer.payload.isSome = true ∧
      (pkt.type = t_WHO_IS_LEADER.value ∧ answer.type = t_LEADER.value ∨
        pkt.type = t_GET_CLIENTS.value ∧ answer.type = t_CLIENTS.value) := by
  rw [handlePeerPacket] at answered
  cases text : pkt.c_str with
  | error exception =>
      rw [text] at answered
      cases answered
  | ok received_message =>
      rw [text] at answered
      simp only at answered
      split_ifs at answered with asksLeader leads asksClients announces
      · rcases answerPeer_answer answered with ⟨typed, present⟩
        exact ⟨present, Or.inl ⟨asksLeader, typed⟩⟩
      · cases listed : server.getClients with
        | error exception =>
            rw [listed] at answered
            cases answered
        | ok clients =>
            rw [listed] at answered
            rcases answerPeer_answer answered with ⟨typed, present⟩
            exact ⟨present, Or.inr ⟨asksClients, typed⟩⟩
      · rw [addBackup_answer] at answered
        cases answered

/-- What the announcement of a user does to a backup: the keyword becomes a user, once. -/
theorem addBackup_cases (server : Server) (environment : PeerEnvironment) {message : Bytes}
    (spelled : (parseClientConnection (cString message)).1 = keyword) :
    ((server.addBackup environment (cString message)).server = server ∧
        (server.addBackup environment (cString message)).receiver = none) ∨
      keyword ∉ server.clients.map Manager.username ∧ ∃ manager : Manager,
        manager.username = keyword ∧
        (server.addBackup environment (cString message)).server =
          { server with clients := server.clients ++ [manager] } ∧
        (server.addBackup environment (cString message)).receiver =
          some (keyword, dialled message) := by
  rw [addBackup, spelled]
  by_cases known : (server.clientExists keyword).isSome = true
  · simp [known]
  · simp only [if_neg known]
    cases constructed : Manager.construct environment.stat .BACKUP keyword with
    | error exception => exact Or.inl ⟨rfl, rfl⟩
    | ok manager =>
        rw [Option.not_isSome_iff_eq_none, clientExists_eq_none_iff] at known
        exact Or.inr ⟨known, manager, (Manager.construct_username constructed).2, rfl, rfl⟩

end Server

/-- Where a backup waits for a packet of the leader. -/
inductive BackupPoint
  /-- In the constructor, for the answer to `t_WHO_IS_LEADER`. -/
  | awaitLeader
  /-- In the constructor, for the answer to `t_GET_CLIENTS`. -/
  | awaitClients
  | serving
  /-- An exception has ended its `handlePeerThread`, or has left its constructor. -/
  | stopped
  deriving DecidableEq

/-- A backup, the thread of the leader for it, and the packets between them. -/
structure Peer where
  backup : Server
  point : BackupPoint
  /-- The `handlePeerThread` of the leader is running. -/
  thread : Bool
  toLeader : List Packet
  toPeer : List Packet

/-- What `Server::run` is doing; a user is announced for the manager at a position of the list. -/
inductive AcceptMode
  | accepting
  | announcing (position : ℕ) (peer_msg : Bytes) (peers : List ℕ)
  /-- In `acceptConnection`, with the peers that come later. -/
  | waiting (position : ℕ) (message : Bytes) (port : Port) (peer : ℕ) (peers : List ℕ)
  | escaped (exception : Exception)

def AcceptMode.runs : AcceptMode → Bool
  | accepting | announcing _ _ _ | waiting _ _ _ _ _ => true
  | escaped _ => false

structure Cluster where
  leader : Server
  mode : AcceptMode
  peers : ℕ → Peer

inductive ClusterEvent
  | acceptPeer (ip : Bytes)
  | acceptClient (stat : Bytes → PathStatus) (pkt : Packet)
  | announce (port : Port)
  /-- A thread of the leader handles the next packet of a peer. -/
  | serve (peer : ℕ) (stat : Bytes → PathStatus)
  | receive (peer : ℕ) (stat : Bytes → PathStatus) (elsewhere : Bool)
  /-- A backup of a leader that has ended finds the connection closed, perhaps before it has read
  all of its packets. -/
  | connectionClosed (peer : ℕ)

namespace Peer

def whoIsLeader : Packet :=
  Packet.build t_WHO_IS_LEADER.value 0 (ascii "xxx")

def askClients : Packet :=
  Packet.build t_GET_CLIENTS.value 0 (ascii "xxx")

/-- A backup whose connection has been accepted: its `t_PEER` has been read. -/
def joined (ip : Bytes) : Peer where
  backup := { state := .BACKUP, ip, clients := [], peer_connections := [] }
  point := .awaitLeader
  thread := true
  toLeader := [whoIsLeader]
  toPeer := []

end Peer

namespace Cluster

open Server

def start (ip : Bytes) : Cluster where
  leader := Server.leader ip
  mode := .accepting
  peers _ := .joined []

def setPeer (cluster : Cluster) (number : ℕ) (peer : Peer) : Cluster :=
  { cluster with peers := Function.update cluster.peers number peer }

/-- The loop over the peers goes on, or is finished. -/
def proceed (position : ℕ) (peer_msg : Bytes) : List ℕ → AcceptMode
  | [] => .accepting
  | peer :: peers => .announcing position peer_msg (peer :: peers)

def acceptPeer (cluster : Cluster) (ip : Bytes) : Option Cluster :=
  match cluster.mode with
  | .accepting =>
      let number := cluster.leader.peer_connections.length
      some { cluster.setPeer number (.joined ip) with
        leader := { cluster.leader with
          peer_connections := cluster.leader.peer_connections ++ [number] } }
  | _ => none

def acceptClient (cluster : Cluster) (stat : Bytes → PathStatus) (pkt : Packet) :
    Option Cluster :=
  match cluster.mode with
  | .accepting =>
      match pkt.c_str with
      | .error exception => some { cluster with mode := .escaped exception }
      | .ok username =>
          if (cluster.leader.clientExists username).isSome then some cluster
          else
            match Manager.construct stat .LEADER username with
            | .error exception => some { cluster with mode := .escaped exception }
            | .ok manager => some { cluster with
                leader := { cluster.leader with clients := cluster.leader.clients ++ [manager] }
                mode := proceed cluster.leader.clients.length (peerMessage username)
                  cluster.leader.peer_connections }
  | _ => none

def announcement (message : Bytes) : Packet :=
  Packet.build t_CLIENT_CONNECTION.value 0 message

/-- A round of the loop over the peers, up to `acceptConnection`. -/
def announce (cluster : Cluster) (port : Port) : Option Cluster :=
  match cluster.mode with
  | .announcing position peer_msg (peer :: peers) =>
      let message := addPort peer_msg port
      if (announcement message).isPacketValid = false then
        some { cluster with mode := .escaped (.runtime_error "Invalid packet") }
      else
        some { cluster.setPeer peer { cluster.peers peer with
            toPeer := (cluster.peers peer).toPeer ++ [announcement message] } with
          mode := .waiting position message port peer peers }
  | _ => none

/-- A round of the `handlePeerThread` of the leader. -/
def serve (cluster : Cluster) (number : ℕ) (stat : Bytes → PathStatus) : Option Cluster :=
  match cluster.mode.runs, (cluster.peers number).thread, (cluster.peers number).toLeader with
  | true, true, pkt :: toLeader =>
      let round := cluster.leader.handlePeerPacket
        { stat, sends := true, connects := fun _ => true } pkt
      some { cluster.setPeer number { cluster.peers number with
          toLeader
          thread := round.result.isOk
          toPeer := (cluster.peers number).toPeer ++ round.answer.toList } with
        leader := round.server }
  | _, _, _ => none

/-- `receivePacket` throws in the constructor of a backup or in its `handlePeerThread`. -/
def connectionClosed (cluster : Cluster) (number : ℕ) : Option Cluster :=
  if cluster.mode.runs then none
  else some (cluster.setPeer number { cluster.peers number with point := .stopped })

section

variable (sameHost : ℕ → Bool)

/-- A connection of the backup to a port at its own address meets the socket that the leader
listens on. -/
def reaches (cluster : Cluster) (number : ℕ) : Option ℤ → Bool
  | some porta =>
      match cluster.mode with
      | .waiting _ _ port _ _ => sameHost number && Handshakes.htons porta == port.number
      | _ => false
  | none => false

/-- `acceptConnection` returns, and the connection becomes one of the manager. -/
def acceptConnection (cluster : Cluster) (number : ℕ) : Cluster :=
  match cluster.mode with
  | .waiting position message _ _ peers => { cluster with
      leader := { cluster.leader with
        clients := cluster.leader.clients.modify position fun manager =>
          { manager with backup_peers := manager.backup_peers ++ [number] } }
      mode := proceed position message peers }
  | _ => cluster

/-- A round of the `handlePeerThread` of a backup, which may find somebody else at a port. -/
def handlePeerThread (cluster : Cluster) (number : ℕ) (stat : Bytes → PathStatus)
    (elsewhere : Bool) (pkt : Packet) (toPeer : List Packet) : Cluster :=
  let round := (cluster.peers number).backup.handlePeerPacket
    { stat, sends := true, connects := fun porta =>
        cluster.reaches sameHost number porta || elsewhere } pkt
  let after := cluster.setPeer number { cluster.peers number with
    toPeer
    backup := round.server
    point := if round.result.isOk then .serving else .stopped
    toLeader := (cluster.peers number).toLeader ++ round.answer.toList }
  match round.receiver with
  | some (_, porta) =>
      if cluster.reaches sameHost number porta then after.acceptConnection number else after
  | none => after

/-- The next packet for the constructor of a backup, or for its `handlePeerThread`. -/
def receive (cluster : Cluster) (number : ℕ) (stat : Bytes → PathStatus) (elsewhere : Bool) :
    Option Cluster :=
  match (cluster.peers number).point, (cluster.peers number).toPeer with
  | .awaitLeader, _ :: toPeer =>
      some (cluster.setPeer number { cluster.peers number with
        toPeer
        point := .awaitClients
        toLeader := (cluster.peers number).toLeader ++ [Peer.askClients] })
  | .awaitClients, _ :: toPeer =>
      some (cluster.setPeer number { cluster.peers number with toPeer, point := .serving })
  | .serving, pkt :: toPeer =>
      some (cluster.handlePeerThread sameHost number stat elsewhere pkt toPeer)
  | _, _ => none

def step (cluster : Cluster) : ClusterEvent → Option Cluster
  | .acceptPeer ip => cluster.acceptPeer ip
  | .acceptClient stat pkt => cluster.acceptClient stat pkt
  | .announce port => cluster.announce port
  | .serve number stat => cluster.serve number stat
  | .receive number stat elsewhere => cluster.receive sameHost number stat elsewhere
  | .connectionClosed number => cluster.connectionClosed number

end

end Cluster

end SyncDir
