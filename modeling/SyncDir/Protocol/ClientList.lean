import SyncDir.Protocol.Pairing

/-!
# The list of clients

A starting backup asks the leader for its clients, and waits for the answer.  `getClients` puts the
address of a connection behind every username, but a manager never has one.

The peers are served by threads of their own, also while `Server::run` is in the loop that announces
a new user, whose manager is in the list by then.
-/

namespace SyncDir

open NetworkManager PacketType Transition

namespace Server

/-! ### The answer -/

/-- The text lists the users in the order of their registration, each with an address. -/
def Lists (server : Server) (payload : Bytes) : Prop :=
  ∃ addresses : List Bytes, addresses.length = server.clients.length ∧
    payload = list_to_packet_content (List.zipWith
      (fun manager address => manager.username ++ ascii " " ++ address) server.clients addresses)

/-- A peer that asks for the clients gets a list of them, and its thread goes on. -/
def AnswersClients (server : Server) : Prop :=
  ∀ (environment : PeerEnvironment) (pkt : Packet), pkt.type = t_GET_CLIENTS.value →
    pkt.payload.isSome = true → environment.sends = true →
      ∃ payload, server.Lists payload ∧ server.handlePeerPacket environment pkt =
        { server, answer := some (Packet.build t_CLIENTS.value 0 payload), receiver := none,
          result := .ok () }

theorem handlePeerPacket_get_clients (server : Server) (environment : PeerEnvironment)
    {pkt : Packet} (asks : pkt.type = t_GET_CLIENTS.value) (present : pkt.payload.isSome = true) :
    server.handlePeerPacket environment pkt =
      match server.getClients with
      | .error exception =>
          { server, answer := none, receiver := none, result := .error exception }
      | .ok clients =>
          server.answerPeer environment t_CLIENTS.value (list_to_packet_content clients) := by
  have notLeader : ¬t_GET_CLIENTS.value = t_WHO_IS_LEADER.value := by decide
  rcases Option.isSome_iff_exists.mp present with ⟨payload, payload_eq⟩
  cases listed : server.getClients with
  | error exception =>
      simp only [handlePeerPacket, Packet.c_str, payload_eq, asks, if_neg notLeader, if_true,
        listed]
  | ok clients =>
      simp only [handlePeerPacket, Packet.c_str, payload_eq, asks, if_neg notLeader, if_true,
        listed]

theorem getClients_cons (manager : Manager) (clients : List Manager) (server : Server)
    (registered : server.clients = manager :: clients) :
    server.getClients = .error (.runtime_error "GetIP without networkManager!") := by
  rw [getClients, registered, List.mapM_cons]
  rfl

/-- No manager has an address, so that the leader answers exactly if it has no clients. -/
theorem answersClients_iff (server : Server) : server.AnswersClients ↔ server.clients = [] := by
  constructor
  · intro answers
    cases registered : server.clients with
    | nil => rfl
    | cons manager clients =>
        rcases answers { stat := fun _ => .directory, sends := true, connects := fun _ => true }
          (Packet.build t_GET_CLIENTS.value 0 (ascii "xxx")) rfl rfl rfl
          with ⟨payload, _, answered⟩
        rw [handlePeerPacket_get_clients server _ rfl rfl,
          getClients_cons manager clients server registered] at answered
        cases congrArg PeerRound.result answered
  · intro nobody environment pkt asks present sends
    have listed : server.getClients = .ok [] := by
      rw [getClients, nobody]
      rfl
    have valid : ¬(Packet.build t_CLIENTS.value 0 (list_to_packet_content [])).isPacketValid =
        false := by decide
    refine ⟨list_to_packet_content [], ⟨[], ?_, ?_⟩, ?_⟩
    · rw [nobody]
      rfl
    · rw [nobody]
      rfl
    · rw [handlePeerPacket_get_clients server environment asks present, listed]
      simp only [answerPeer, if_neg valid, sends, if_true]

end Server

/-! ### Runs of a leader -/

/-- What `Server::run` is doing. -/
inductive RunMode
  | accepting
  /-- In the loop over the peers, for the manager at a position of the list. -/
  | announcing (position : ℕ) (answer : ℕ → PeerAnswer)

/-- A server with the threads of its peers, which are served while `Server::run` announces a
user. -/
structure Leader where
  server : Server
  mode : RunMode
  serving : List ℕ

inductive LeaderEvent
  | connect (arrival : Server.Arrival)
  | announce
  | peerPacket (peer : ℕ) (environment : Server.PeerEnvironment) (pkt : Packet)

namespace Leader

open Server

def start (ip : Bytes) : Leader :=
  { server := Server.leader ip, mode := .accepting, serving := [] }

/-- An iteration of `Server::run`, for a new user up to the loop over the peers. -/
def connect (leader : Leader) (arrival : Arrival) : Option Leader :=
  if arrival.pkt.type = t_CLIENT.value then
    match arrival.pkt.c_str with
    | .error _ => none
    | .ok username =>
        if (leader.server.clientExists username).isSome then some leader
        else
          match Manager.construct arrival.environment.stat .LEADER username with
          | .error _ => none
          | .ok manager => some { leader with
              server := { leader.server with clients := leader.server.clients ++ [manager] }
              mode := .announcing leader.server.clients.length arrival.environment.answer }
  else
    match leader.server.handleConnection arrival.environment arrival.pkt with
    | .accepting server (some (.peer number)) =>
        some { leader with server, serving := leader.serving ++ [number] }
    | .accepting server _ => some { leader with server }
    | .escaped _ | .waiting => none

/-- The loop over the peers, if it ends. -/
def announce (leader : Leader) (position : ℕ) (answer : ℕ → PeerAnswer) : Option Leader :=
  leader.server.clients[position]?.bind fun manager =>
    match Server.announce answer (peerMessage manager.username) [] []
      leader.server.peer_connections with
    | .finished backup_peers _ => some { leader with
        server := { leader.server with
          clients := leader.server.clients.set position { manager with backup_peers } }
        mode := .accepting }
    | .escaped _ | .waiting => none

def step (leader : Leader) : LeaderEvent → Option Leader
  | .connect arrival =>
      match leader.mode with
      | .accepting => leader.connect arrival
      | .announcing _ _ => none
  | .announce =>
      match leader.mode with
      | .accepting => none
      | .announcing position answer => leader.announce position answer
  | .peerPacket peer environment pkt =>
      if peer ∈ leader.serving then
        let round := leader.server.handlePeerPacket environment pkt
        some { leader with
          server := round.server
          serving := if round.result.isOk then leader.serving else leader.serving.erase peer }
      else none

/-- The packet of a peer announces no user for whom a manager can be constructed. -/
def AnnouncesNobody (environment : PeerEnvironment) (pkt : Packet) : Prop :=
  pkt.type = t_CLIENT_CONNECTION.value →
    ∀ received_message, pkt.c_str = .ok received_message → ∀ manager,
      Manager.construct environment.stat .BACKUP (parseClientConnection received_message).1 ≠
        .ok manager

def RegistersNobody (_leader : Leader) : LeaderEvent → Prop
  | .connect arrival => arrival.pkt.type ≠ t_CLIENT.value
  | .announce => True
  | .peerPacket _ environment pkt => AnnouncesNobody environment pkt

/-- A round of `handlePeerThread` adds to the list of clients only if it creates a manager. -/
theorem clients_handlePeerPacket_iff {server : Server} (nobody : server.clients = [])
    (environment : PeerEnvironment) (pkt : Packet) :
    (server.handlePeerPacket environment pkt).server.clients = [] ↔
      AnnouncesNobody environment pkt := by
  rw [handlePeerPacket]
  cases text : pkt.c_str with
  | error exception =>
      refine iff_of_true nobody ?_
      intro _ received_message present
      rw [text] at present
      cases present
  | ok received_message =>
      simp only
      by_cases announces : pkt.type = t_CLIENT_CONNECTION.value
      · have notWho : ¬pkt.type = t_WHO_IS_LEADER.value := announces ▸ by decide
        have notGet : ¬pkt.type = t_GET_CLIENTS.value := announces ▸ by decide
        have unknown : ¬(server.clientExists (parseClientConnection received_message).1).isSome =
            true := by simp [clientExists, nobody]
        rw [if_neg notWho, if_neg notGet, if_pos announces, addBackup]
        simp only [if_neg unknown]
        cases constructed : Manager.construct environment.stat .BACKUP
            (parseClientConnection received_message).1 with
        | error exception =>
            refine iff_of_true nobody ?_
            intro _ message same manager created
            cases text.symm.trans same
            rw [constructed] at created
            cases created
        | ok manager =>
            refine iff_of_false (List.append_ne_nil_of_right_ne_nil _ (List.cons_ne_nil _ _)) ?_
            intro nobodyAnnounced
            exact nobodyAnnounced announces _ text manager constructed
      · refine iff_of_true ?_ fun isAnnouncement => absurd isAnnouncement announces
        rw [if_neg announces]
        split_ifs
        · rw [answerPeer_server, nobody]
        · exact nobody
        · split
          · exact nobody
          · rw [answerPeer_server, nobody]
        · exact nobody

theorem clients_connect_iff {leader next : Leader} {arrival : Arrival}
    (nobody : leader.server.clients = []) (performed : leader.connect arrival = some next) :
    next.server.clients = [] ↔ arrival.pkt.type ≠ t_CLIENT.value := by
  rw [connect] at performed
  split_ifs at performed with client
  · refine iff_of_false ?_ fun other => other client
    split at performed
    · cases performed
    · rename_i username _
      have unknown : ¬(leader.server.clientExists username).isSome = true := by
        simp [clientExists, nobody]
      rw [if_neg unknown] at performed
      split at performed
      · cases performed
      · cases performed
        exact List.append_ne_nil_of_right_ne_nil _ (List.cons_ne_nil _ _)
  · refine iff_of_true ?_ client
    rw [handleConnection, if_neg client] at performed
    split_ifs at performed
    · cases performed
      exact nobody
    · cases performed
      exact nobody

/-- As long as nobody is registered, exactly the events that register nobody keep it so. -/
theorem clients_step_iff {leader next : Leader} {event : LeaderEvent}
    (nobody : leader.server.clients = []) (performed : leader.step event = some next) :
    next.server.clients = [] ↔ leader.RegistersNobody event := by
  cases event with
  | connect arrival =>
      simp only [step] at performed
      split at performed
      · exact clients_connect_iff nobody performed
      · cases performed
  | announce =>
      simp only [step] at performed
      split at performed
      · cases performed
      · rename_i position answer _
        rw [announce, nobody] at performed
        cases performed
  | peerPacket peer environment pkt =>
      rcases Option.ite_none_right_eq_some.mp performed with ⟨_, same⟩
      cases same
      exact clients_handlePeerPacket_iff nobody environment pkt

/-- In a run of a leader, `t_GET_CLIENTS` is answered in every state exactly if nobody is
registered. -/
theorem answersClients_run_iff {ip : Bytes} {events : List LeaderEvent} {last : Leader}
    (performed : run step (start ip) events = some last) :
    (∀ leader ∈ visited step (start ip) events, leader.server.AnswersClients) ↔
      Permits step RegistersNobody (start ip) events := by
  simp only [answersClients_iff]
  apply visited_iff_permits _ _ performed
  · intro leader event next nobody performed
    exact clients_step_iff nobody performed
  · rfl

def peerAsks : List LeaderEvent :=
  [.connect peerConnects, .peerPacket 0
    { stat := fun _ => .directory, sends := true, connects := fun _ => true }
    (Packet.build t_GET_CLIENTS.value 0 (ascii "xxx"))]

theorem answersClients_run_iff_peerAsks :
    ∃ last, run step (start []) peerAsks = some last ∧
      ∀ leader ∈ visited step (start []) peerAsks, leader.server.AnswersClients := by
  have performed : (run step (start []) peerAsks).isSome = true := by decide
  rcases Option.isSome_iff_exists.mp performed with ⟨last, reached⟩
  refine ⟨last, reached, (answersClients_run_iff reached).mpr ⟨?_, ?_⟩⟩
  · intro client
    exact absurd client (by decide)
  · intro _ _
    refine ⟨?_, fun _ _ => trivial⟩
    intro announcement
    exact absurd announcement (by decide)

/-- When `ana` has connected, the thread of a peer that asks for the clients ends. -/
theorem not_answered_of_ana :
    (run step (start []) [.connect peerConnects, .connect anaConnects]).map (fun leader =>
        let round := leader.server.handlePeerPacket
          { stat := fun _ => .directory, sends := true, connects := fun _ => true }
          (Packet.build t_GET_CLIENTS.value 0 (ascii "xxx"))
        (leader.server.clients.map Manager.username, round.answer, round.result)) =
      some ([ascii "ana"], none,
        .error (.runtime_error "GetIP without networkManager!")) := by
  rfl

/-- A new user is registered by two events, with the loop over the peers as the second one. -/
theorem run_connect_announce {server next : Server} {arrival : Arrival} {username : Bytes}
    {manager : Manager} {started : Option Started} {serving : List ℕ}
    (client : arrival.pkt.type = t_CLIENT.value) (text : arrival.pkt.c_str = .ok username)
    (unknown : ¬(server.clientExists username).isSome = true)
    (constructed : Manager.construct arrival.environment.stat .LEADER username = .ok manager)
    (announced : (match Server.announce arrival.environment.answer (peerMessage username) [] []
        server.peer_connections with
      | .finished backup_peers _ =>
          Iteration.accepting (server.pairLast manager backup_peers) (some (.client username))
      | .escaped exception => .escaped exception
      | .waiting => .waiting) = .accepting next started) :
    run step { server, mode := .accepting, serving } [.connect arrival, .announce] =
      some { server := next, mode := .accepting, serving } := by
  have connected : connect { server, mode := .accepting, serving } arrival = some
      { server := { server with clients := server.clients ++ [manager] },
        mode := .announcing server.clients.length arrival.environment.answer, serving } := by
    simp only [connect, if_pos client, text, if_neg unknown, constructed]
  rcases Manager.construct_username constructed with ⟨-, rfl⟩
  have found : (server.clients ++ [manager])[server.clients.length]? = some manager := by simp
  have replaced (backup_peers : List ℕ) :
      (server.clients ++ [manager]).set server.clients.length { manager with backup_peers } =
        server.clients ++ [{ manager with backup_peers }] := by simp
  simp only [run, step, connected, Option.bind_some]
  split at announced
  · rename_i finished
    cases announced
    simp only [announce, found, Option.bind_some, finished, replaced, pairLast]
  · cases announced
  · cases announced

/-- What an iteration of the accept loop does to a server is done by the events of a run. -/
theorem exists_run_of_step {server next : Server} {arrival : Arrival}
    (performed : server.step arrival = some next) (serving : List ℕ) :
    ∃ events after, run step { server, mode := .accepting, serving } events =
      some { server := next, mode := .accepting, serving := after } := by
  have single {after : List ℕ} (done : connect { server, mode := .accepting, serving } arrival =
      some { server := next, mode := .accepting, serving := after }) :
      ∃ events after, run step { server, mode := .accepting, serving } events =
        some { server := next, mode := .accepting, serving := after } := by
    refine ⟨[.connect arrival], after, ?_⟩
    rw [run, step, done]
    rfl
  rw [Server.step] at performed
  split at performed
  · rename_i _ started accepting
    cases performed
    by_cases client : arrival.pkt.type = t_CLIENT.value
    · rw [handleConnection, if_pos client] at accepting
      cases text : arrival.pkt.c_str with
      | error exception => simp [text] at accepting
      | ok username =>
          simp only [text] at accepting
          by_cases known : (server.clientExists username).isSome = true
          · rw [if_pos known] at accepting
            cases accepting
            exact single (by simp only [connect, if_pos client, text, if_pos known]; rfl)
          · rw [if_neg known, addClient] at accepting
            cases constructed : Manager.construct arrival.environment.stat .LEADER username with
            | error exception => simp [constructed] at accepting
            | ok manager =>
                simp only [constructed] at accepting
                exact ⟨_, _, run_connect_announce client text known constructed accepting⟩
    · rcases started with _ | _ | number
      · exact single (by simp only [connect, if_neg client, accepting]; rfl)
      · exact single (by simp only [connect, if_neg client, accepting]; rfl)
      · exact single (by simp only [connect, if_neg client, accepting]; rfl)
  · cases performed
  · cases performed

end Leader

end SyncDir
