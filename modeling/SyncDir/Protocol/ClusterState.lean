import SyncDir.Protocol.Cluster

/-!
# The states of a cluster

An announcement is on its way only while `Server::run` waits for it to be
followed.  A backup takes the keyword of every announcement for the username,
so that it knows a user of this name once it has connected, and does not connect
again.  The peers connect in the order in which they have joined, so that the
first of them has connected for every user who has any connection.
-/

namespace SyncDir

open PacketType Transition

namespace Cluster

open Server

/-! ### What is in flight -/

/-- The loop over the peers that is not finished, with the peers that are still to connect. -/
def loop : AcceptMode → Option (ℕ × Bytes × List ℕ)
  | .announcing position peer_msg peers => some (position, peer_msg, peers)
  | .waiting position message _ peer peers => some (position, message, peer :: peers)
  | .accepting | .escaped _ => none

/-- The peer that has been told the port that `acceptConnection` waits at. -/
def awaited : AcceptMode → Option (ℕ × Bytes)
  | .waiting _ message _ peer _ => some (peer, message)
  | .accepting | .announcing _ _ _ | .escaped _ => none

/-- What the leader sends to a peer. -/
def IsMessage (pkt : Packet) : Prop :=
  (pkt.type = t_LEADER.value ∨ pkt.type = t_CLIENTS.value ∨
    pkt.type = t_CLIENT_CONNECTION.value) ∧ pkt.payload.isSome = true

def announcements (packets : List Packet) : List Packet :=
  packets.filter fun pkt => pkt.type = t_CLIENT_CONNECTION.value

structure Sound (cluster : Cluster) : Prop where
  numbered : cluster.leader.peer_connections = List.range cluster.leader.peer_connections.length
  asked : ∀ number, ∀ pkt ∈ (cluster.peers number).toLeader,
    pkt = Peer.whoIsLeader ∨ pkt = Peer.askClients
  told : ∀ number, ∀ pkt ∈ (cluster.peers number).toPeer, IsMessage pkt
  /-- The only announcement on its way is the one that `Server::run` waits for. -/
  pending : ∀ number, announcements (cluster.peers number).toPeer = [] ∨ ∃ message,
    awaited cluster.mode = some (number, message) ∧
      announcements (cluster.peers number).toPeer = [announcement message]
  looping : ∀ (position : ℕ) (message : Bytes) (peers : List ℕ),
    loop cluster.mode = some (position, message, peers) →
    (∃ username rest, message = peerMessage username ++ rest) ∧ ∃ manager,
      cluster.leader.clients[position]? = some manager ∧
        manager.backup_peers ++ peers = cluster.leader.peer_connections
  known : ∀ manager ∈ cluster.leader.clients,
    manager.backup_peers ⊆ cluster.leader.peer_connections
  /-- A backup that has connected knows the keyword for a user. -/
  marked : ∀ manager ∈ cluster.leader.clients, ∀ number ∈ manager.backup_peers,
    keyword ∈ (cluster.peers number).backup.clients.map Manager.username
  first : ∀ manager ∈ cluster.leader.clients, manager.backup_peers ≠ [] →
    0 ∈ manager.backup_peers
  once : ∀ (position other : ℕ) (manager second : Manager),
    cluster.leader.clients[position]? = some manager →
      cluster.leader.clients[other]? = some second →
        manager.backup_peers ≠ [] → second.backup_peers ≠ [] → position = other

theorem sound_start (ip : Bytes) : (start ip).Sound where
  numbered := rfl
  asked number pkt pkt_mem := Or.inl (List.mem_singleton.mp pkt_mem)
  told number pkt pkt_mem := by cases pkt_mem
  pending number := Or.inl rfl
  looping position message peers looping := by cases looping
  known manager manager_mem := by cases manager_mem
  marked manager manager_mem := by cases manager_mem
  first manager manager_mem := by cases manager_mem
  once position other manager second found := by cases found

variable {cluster next : Cluster}

theorem Sound.quiet (sound : cluster.Sound) (idle : awaited cluster.mode = none) (number : ℕ) :
    announcements (cluster.peers number).toPeer = [] := by
  rcases sound.pending number with nothing | ⟨message, waiting, -⟩
  · exact nothing
  · rw [idle] at waiting
    cases waiting

theorem loop_proceed {position : ℕ} {peer_msg : Bytes} {peers : List ℕ}
    {looping : ℕ × Bytes × List ℕ}
    (goesOn : loop (proceed position peer_msg peers) = some looping) :
    looping = (position, peer_msg, peers) := by
  cases peers with
  | nil => cases goesOn
  | cons peer peers => exact (Option.some_inj.mp goesOn).symm

theorem awaited_proceed (position : ℕ) (peer_msg : Bytes) (peers : List ℕ) :
    awaited (proceed position peer_msg peers) = none := by
  cases peers <;> rfl

theorem Sound.acceptPeer (sound : cluster.Sound) {ip : Bytes}
    (performed : cluster.acceptPeer ip = some next) : next.Sound := by
  rw [Cluster.acceptPeer] at performed
  split at performed
  case h_1 mode =>
    cases performed
    have idle : awaited cluster.mode = none := by
      rw [mode]
      rfl
    have fresh : ∀ manager ∈ cluster.leader.clients, ∀ number ∈ manager.backup_peers,
        number ≠ cluster.leader.peer_connections.length := by
      intro manager manager_mem number number_mem
      have member := sound.known manager manager_mem number_mem
      rw [sound.numbered, List.mem_range] at member
      omega
    refine ⟨?_, ?_, ?_, ?_, ?_, ?_, ?_, sound.first, sound.once⟩
    · simp only [List.length_append, List.length_singleton, List.range_succ, ← sound.numbered]
    · intro number
      by_cases new : number = cluster.leader.peer_connections.length
      · subst new
        simp [setPeer, Peer.joined]
      · simpa [setPeer, new] using sound.asked number
    · intro number
      by_cases new : number = cluster.leader.peer_connections.length
      · subst new
        simp [setPeer, Peer.joined]
      · simpa [setPeer, new] using sound.told number
    · intro number
      left
      by_cases new : number = cluster.leader.peer_connections.length
      · subst new
        simp [setPeer, Peer.joined, announcements]
      · simpa [setPeer, new] using sound.quiet idle number
    · intro position message peers looping
      change loop cluster.mode = _ at looping
      rw [mode] at looping
      cases looping
    · intro manager manager_mem
      exact List.Subset.trans (sound.known manager manager_mem) (List.subset_append_left _ _)
    · intro manager manager_mem number number_mem
      simpa [setPeer, fresh manager manager_mem number number_mem] using
        sound.marked manager manager_mem number number_mem
  case h_2 => cases performed

theorem construct_backup_peers {stat : Bytes → PathStatus} {state : ServerState}
    {username : Bytes} {manager : Manager}
    (constructed : Manager.construct stat state username = .ok manager) :
    manager.backup_peers = [] := by
  rw [Manager.construct] at constructed
  split_ifs at constructed
  cases opened : FileManager.openDirectory (stat (ascii "sync_dir_" ++ username)) with
  | error exception =>
      rw [opened] at constructed
      cases constructed
  | ok _ =>
      rw [opened] at constructed
      cases constructed
      rfl

theorem getElem?_append_new {clients : List Manager} {new manager : Manager} {position : ℕ}
    (unconnected : new.backup_peers = []) (connected : manager.backup_peers ≠ [])
    (found : (clients ++ [new])[position]? = some manager) : clients[position]? = some manager := by
  rcases lt_or_ge position clients.length with earlier | later
  · rwa [List.getElem?_append_left earlier] at found
  · rw [List.getElem?_append_right later] at found
    have last := List.mem_of_getElem? found
    rw [List.mem_singleton.mp last] at connected
    exact absurd unconnected connected

/-- A new manager has no connections yet. -/
theorem Sound.register (sound : cluster.Sound) (idle : awaited cluster.mode = none)
    {username : Bytes} {manager : Manager} (unconnected : manager.backup_peers = []) :
    Sound { cluster with
      leader := { cluster.leader with clients := cluster.leader.clients ++ [manager] }
      mode := proceed cluster.leader.clients.length (peerMessage username)
        cluster.leader.peer_connections } := by
  refine ⟨sound.numbered, sound.asked, sound.told, ?_, ?_, ?_, ?_, ?_, ?_⟩
  · intro number
    exact Or.inl (sound.quiet idle number)
  · intro position message peers looping
    cases loop_proceed looping
    refine ⟨⟨username, [], (List.append_nil _).symm⟩, manager, ?_, ?_⟩
    · simp
    · rw [unconnected, List.nil_append]
  · intro other other_mem
    rcases List.mem_append.mp other_mem with earlier | last
    · exact sound.known other earlier
    · rw [List.mem_singleton.mp last, unconnected]
      exact List.nil_subset _
  · intro other other_mem
    rcases List.mem_append.mp other_mem with earlier | last
    · exact sound.marked other earlier
    · rw [List.mem_singleton.mp last, unconnected]
      intro number number_mem
      cases number_mem
  · intro other other_mem connected
    rcases List.mem_append.mp other_mem with earlier | last
    · exact sound.first other earlier connected
    · rw [List.mem_singleton.mp last] at connected
      exact absurd unconnected connected
  · intro position other first second firstFound secondFound firstConnected secondConnected
    exact sound.once position other first second
      (getElem?_append_new unconnected firstConnected firstFound)
      (getElem?_append_new unconnected secondConnected secondFound) firstConnected secondConnected

theorem Sound.escape (sound : cluster.Sound) (idle : awaited cluster.mode = none)
    (exception : Exception) : Sound { cluster with mode := .escaped exception } := by
  refine ⟨sound.numbered, sound.asked, sound.told, ?_, ?_, sound.known, sound.marked, sound.first,
    sound.once⟩
  · intro number
    exact Or.inl (sound.quiet idle number)
  · intro position message peers looping
    cases looping

theorem Sound.acceptClient (sound : cluster.Sound) {stat : Bytes → PathStatus} {pkt : Packet}
    (performed : cluster.acceptClient stat pkt = some next) : next.Sound := by
  rw [Cluster.acceptClient] at performed
  split at performed
  case h_1 mode =>
    have idle : awaited cluster.mode = none := by
      rw [mode]
      rfl
    split at performed
    case h_1 exception _ =>
      cases performed
      exact sound.escape idle exception
    case h_2 username _ =>
      split_ifs at performed
      · cases performed
        exact sound
      · cases constructed : Manager.construct stat .LEADER username with
        | error exception =>
            rw [constructed] at performed
            cases performed
            exact sound.escape idle exception
        | ok manager =>
            rw [constructed] at performed
            cases performed
            exact sound.register idle (construct_backup_peers constructed)
  case h_2 => cases performed

theorem Sound.announce (sound : cluster.Sound) {port : Port}
    (performed : cluster.announce port = some next) : next.Sound := by
  rw [Cluster.announce] at performed
  split at performed
  case h_1 position peer_msg peer peers mode =>
    have idle : awaited cluster.mode = none := by
      rw [mode]
      rfl
    have quiet (number : ℕ) := sound.quiet idle number
    simp only at performed
    split_ifs at performed
    · cases performed
      exact sound.escape idle _
    · cases performed
      have before := sound.looping position peer_msg (peer :: peers) (by rw [mode]; rfl)
      rcases before with ⟨⟨username, rest, spelled⟩, manager, found, remaining⟩
      refine ⟨sound.numbered, ?_, ?_, ?_, ?_, sound.known, ?_, sound.first, sound.once⟩
      · intro number
        by_cases same : number = peer
        · subst same
          simpa [setPeer] using sound.asked number
        · simpa [setPeer, same] using sound.asked number
      · intro number
        by_cases same : number = peer
        · subst same
          intro pkt pkt_mem
          simp only [setPeer, Function.update_self, List.mem_append, List.mem_singleton] at pkt_mem
          rcases pkt_mem with earlier | rfl
          · exact sound.told number pkt earlier
          · exact ⟨Or.inr (Or.inr rfl), rfl⟩
        · simpa [setPeer, same] using sound.told number
      · intro number
        by_cases same : number = peer
        · subst same
          right
          refine ⟨addPort peer_msg port, rfl, ?_⟩
          have nothing := quiet number
          simp only [setPeer, Function.update_self, announcements, List.filter_append] at nothing ⊢
          rw [nothing]
          rfl
        · left
          simpa [setPeer, same] using quiet number
      · intro otherPosition message others looping
        cases looping
        refine ⟨⟨username, rest ++ (ascii " " ++ to_string port.number), ?_⟩, manager, found,
          remaining⟩
        rw [addPort, spelled]
        simp only [List.append_assoc]
      · intro other other_mem number number_mem
        by_cases same : number = peer
        · subst same
          simpa [setPeer] using sound.marked other other_mem number number_mem
        · simpa [setPeer, same] using sound.marked other other_mem number number_mem
  case h_2 => cases performed

/-- A peer and its packets can change as long as they keep to the questions and answers. -/
theorem Sound.setPeer (sound : cluster.Sound) {number : ℕ} {peer : Peer}
    (asked : ∀ pkt ∈ peer.toLeader, pkt = Peer.whoIsLeader ∨ pkt = Peer.askClients)
    (told : ∀ pkt ∈ peer.toPeer, IsMessage pkt)
    (pending : announcements peer.toPeer = [] ∨ ∃ message,
      awaited cluster.mode = some (number, message) ∧
        announcements peer.toPeer = [announcement message])
    (marked : keyword ∈ (cluster.peers number).backup.clients.map Manager.username →
      keyword ∈ peer.backup.clients.map Manager.username) :
    (cluster.setPeer number peer).Sound := by
  refine ⟨sound.numbered, ?_, ?_, ?_, sound.looping, sound.known, ?_, sound.first, sound.once⟩
  · intro other
    by_cases same : other = number
    · subst same
      simpa [Cluster.setPeer] using asked
    · simpa [Cluster.setPeer, same] using sound.asked other
  · intro other
    by_cases same : other = number
    · subst same
      simpa [Cluster.setPeer] using told
    · simpa [Cluster.setPeer, same] using sound.told other
  · intro other
    by_cases same : other = number
    · subst same
      simpa [Cluster.setPeer] using pending
    · simpa [Cluster.setPeer, same] using sound.pending other
  · intro manager manager_mem other other_mem
    have before := sound.marked manager manager_mem other other_mem
    by_cases same : other = number
    · subst same
      simpa [Cluster.setPeer] using marked before
    · simpa [Cluster.setPeer, same] using before

theorem not_announcement_of_question {pkt : Packet}
    (question : pkt = Peer.whoIsLeader ∨ pkt = Peer.askClients) :
    pkt.type ≠ t_CLIENT_CONNECTION.value := by
  rcases question with rfl | rfl <;> decide

theorem announcements_of_answer {answer : Option Packet}
    (typed : ∀ pkt, answer = some pkt →
      (pkt.type = t_LEADER.value ∨ pkt.type = t_CLIENTS.value) ∧ pkt.payload.isSome = true) :
    announcements answer.toList = [] := by
  cases answer with
  | none => rfl
  | some pkt =>
      rcases (typed pkt rfl).1 with leader | clients
      · simp [announcements, leader]
      · simp [announcements, clients]

theorem announcements_handlePeerPacket (server : Server) (environment : PeerEnvironment)
    (pkt : Packet) :
    announcements (server.handlePeerPacket environment pkt).answer.toList = [] := by
  apply announcements_of_answer
  intro answer answered
  rcases handlePeerPacket_answer answered with ⟨present, ⟨-, leader⟩ | ⟨-, clients⟩⟩
  · exact ⟨Or.inl leader, present⟩
  · exact ⟨Or.inr clients, present⟩

theorem Sound.serve (sound : cluster.Sound) {number : ℕ} {stat : Bytes → PathStatus}
    (performed : cluster.serve number stat = some next) : next.Sound := by
  rw [Cluster.serve] at performed
  split at performed
  case h_1 pkt toLeader _ _ arrived =>
    cases performed
    have asked := sound.asked number
    rw [arrived] at asked
    have other := not_announcement_of_question (asked pkt List.mem_cons_self)
    rw [(handlePeerPacket_of_ne cluster.leader _ other).1]
    apply sound.setPeer
    · intro later later_mem
      exact asked later (List.mem_cons_of_mem _ later_mem)
    · intro sent sent_mem
      rcases List.mem_append.mp sent_mem with earlier | answer
      · exact sound.told number sent earlier
      · rcases handlePeerPacket_answer (Option.mem_toList.mp answer) with
          ⟨present, ⟨-, leader⟩ | ⟨-, clients⟩⟩
        · exact ⟨Or.inl leader, present⟩
        · exact ⟨Or.inr (Or.inl clients), present⟩
    · have silent := announcements_handlePeerPacket cluster.leader
        { stat, sends := true, connects := fun _ => true } pkt
      simp only [announcements, List.filter_append] at silent ⊢
      rw [silent, List.append_nil]
      exact sound.pending number
    · exact id
  case h_2 => cases performed

theorem announcements_cons_of_eq {pkt : Packet} (announces : pkt.type = t_CLIENT_CONNECTION.value)
    (packets : List Packet) : announcements (pkt :: packets) = pkt :: announcements packets := by
  simp [announcements, announces]

theorem announcements_cons_of_ne {pkt : Packet} (silent : pkt.type ≠ t_CLIENT_CONNECTION.value)
    (packets : List Packet) : announcements (pkt :: packets) = announcements packets := by
  simp [announcements, silent]

/-- What is left of the packets of a peer when it has taken the first one. -/
theorem Sound.rest (sound : cluster.Sound) {number : ℕ} {pkt : Packet} {toPeer : List Packet}
    (arrived : (cluster.peers number).toPeer = pkt :: toPeer) :
    (∀ later ∈ toPeer, IsMessage later) ∧
      (announcements toPeer = [] ∨ ∃ message, awaited cluster.mode = some (number, message) ∧
        announcements toPeer = [announcement message]) ∧
      (pkt.type = t_CLIENT_CONNECTION.value → announcements toPeer = [] ∧ ∃ message,
        awaited cluster.mode = some (number, message) ∧ pkt = announcement message) := by
  have told := sound.told number
  have pending := sound.pending number
  rw [arrived] at told pending
  refine ⟨fun later later_mem => told later (List.mem_cons_of_mem _ later_mem), ?_, ?_⟩
  · by_cases announces : pkt.type = t_CLIENT_CONNECTION.value
    · rw [announcements_cons_of_eq announces] at pending
      rcases pending with nothing | ⟨message, -, only⟩
      · cases nothing
      · exact Or.inl (List.cons.inj only).2
    · rwa [announcements_cons_of_ne announces] at pending
  · intro announces
    rw [announcements_cons_of_eq announces] at pending
    rcases pending with nothing | ⟨message, awaiting, only⟩
    · cases nothing
    · exact ⟨(List.cons.inj only).2, message, awaiting, (List.cons.inj only).1⟩

theorem getElem?_modify_cases {clients : List Manager} {position other : ℕ}
    {change : Manager → Manager} {manager : Manager}
    (found : (clients.modify position change)[other]? = some manager) :
    clients[other]? = some manager ∨
      other = position ∧ ∃ old, clients[position]? = some old ∧ manager = change old := by
  rw [List.getElem?_modify] at found
  rcases Option.map_eq_some_iff.mp found with ⟨old, present, changed⟩
  split_ifs at changed with same
  · subst same
    exact Or.inr ⟨rfl, old, present, changed.symm⟩
  · exact Or.inl (changed ▸ present)

theorem Sound.number_eq_zero (sound : cluster.Sound) {number : ℕ} {peers : List ℕ}
    (all : number :: peers = cluster.leader.peer_connections) : number = 0 := by
  rw [sound.numbered] at all
  cases length : cluster.leader.peer_connections.length with
  | zero =>
      rw [length] at all
      cases all
  | succ _ =>
      rw [length, List.range_succ_eq_map] at all
      exact (List.cons.inj all).1

/-- If a peer is the first one to connect for a user, no other user has a connection. -/
theorem Sound.alone (sound : cluster.Sound) {position number : ℕ} {message : Bytes}
    {peers : List ℕ} (looping : loop cluster.mode = some (position, message, number :: peers))
    (unmarked : keyword ∉ (cluster.peers number).backup.clients.map Manager.username)
    {other : ℕ} {manager : Manager} (found : cluster.leader.clients[other]? = some manager)
    (connected : manager.backup_peers ≠ []) : other = position := by
  rcases sound.looping _ _ _ looping with ⟨-, current, present, remaining⟩
  by_cases unconnected : current.backup_peers = []
  · rw [unconnected, List.nil_append] at remaining
    have zero := sound.number_eq_zero remaining
    have manager_mem := List.mem_of_getElem? found
    have already := sound.marked manager manager_mem 0 (sound.first manager manager_mem connected)
    rw [zero] at unmarked
    exact absurd already unmarked
  · exact sound.once other position manager current found present connected unconnected

/-- A backup that is new to the loop connects, which its keyword allows only once. -/
theorem Sound.connect (sound : cluster.Sound) {position number : ℕ} {message : Bytes}
    {port : Port} {peers : List ℕ}
    (mode : cluster.mode = .waiting position message port number peers) {peer : Peer}
    (asked : ∀ pkt ∈ peer.toLeader, pkt = Peer.whoIsLeader ∨ pkt = Peer.askClients)
    (told : ∀ pkt ∈ peer.toPeer, IsMessage pkt)
    (heard : announcements peer.toPeer = [])
    (unmarked : keyword ∉ (cluster.peers number).backup.clients.map Manager.username)
    (marked : keyword ∈ peer.backup.clients.map Manager.username) :
    Sound { cluster.setPeer number peer with
      leader := { cluster.leader with
        clients := cluster.leader.clients.modify position fun manager =>
          { manager with backup_peers := manager.backup_peers ++ [number] } }
      mode := proceed position message peers } := by
  have looping : loop cluster.mode = some (position, message, number :: peers) := by
    rw [mode]
    rfl
  have base : (cluster.setPeer number peer).Sound :=
    sound.setPeer asked told (Or.inl heard) fun _ => marked
  rcases sound.looping _ _ _ looping with ⟨spelled, current, present, remaining⟩
  have number_mem : number ∈ cluster.leader.peer_connections := by
    rw [← remaining]
    simp
  refine ⟨sound.numbered, base.asked, base.told, ?_, ?_, ?_, ?_, ?_, ?_⟩
  · intro other
    left
    rcases base.pending other with nothing | ⟨awaitedMessage, awaiting, only⟩
    · exact nothing
    · change awaited cluster.mode = _ at awaiting
      rw [mode] at awaiting
      cases awaiting
      simpa [Cluster.setPeer] using heard
  · intro otherPosition otherMessage others goesOn
    cases loop_proceed goesOn
    refine ⟨spelled, { current with backup_peers := current.backup_peers ++ [number] }, ?_, ?_⟩
    · simp [present]
    · simpa using remaining
  · intro manager manager_mem
    rcases List.mem_iff_getElem?.mp manager_mem with ⟨other, found⟩
    rcases getElem?_modify_cases found with old | ⟨-, old, oldFound, rfl⟩
    · exact sound.known manager (List.mem_of_getElem? old)
    · refine List.append_subset.mpr ⟨sound.known old (List.mem_of_getElem? oldFound), ?_⟩
      simpa using number_mem
  · intro manager manager_mem other other_mem
    rcases List.mem_iff_getElem?.mp manager_mem with ⟨otherPosition, found⟩
    rcases getElem?_modify_cases found with old | ⟨-, old, oldFound, rfl⟩
    · exact base.marked manager (List.mem_of_getElem? old) other other_mem
    · rcases List.mem_append.mp other_mem with earlier | new
      · exact base.marked old (List.mem_of_getElem? oldFound) other earlier
      · rw [List.mem_singleton.mp new]
        simpa [Cluster.setPeer] using marked
  · intro manager manager_mem connected
    rcases List.mem_iff_getElem?.mp manager_mem with ⟨other, found⟩
    rcases getElem?_modify_cases found with old | ⟨-, old, oldFound, rfl⟩
    · exact sound.first manager (List.mem_of_getElem? old) connected
    · cases Option.some_inj.mp (present.symm.trans oldFound)
      by_cases unconnected : current.backup_peers = []
      · rw [unconnected, List.nil_append] at remaining
        simp [sound.number_eq_zero remaining]
      · have earlier := sound.first current (List.mem_of_getElem? present) unconnected
        exact List.mem_append_left _ earlier
  · intro first second firstManager secondManager firstFound secondFound firstConnected
      secondConnected
    have own {other : ℕ} {manager : Manager}
        (found : (cluster.leader.clients.modify position fun manager =>
          { manager with backup_peers := manager.backup_peers ++ [number] })[other]? =
            some manager)
        (connected : manager.backup_peers ≠ []) : other = position := by
      rcases getElem?_modify_cases found with old | ⟨same, -⟩
      · exact sound.alone looping unmarked old connected
      · exact same
    exact (own firstFound firstConnected).trans (own secondFound secondConnected).symm

variable {sameHost : ℕ → Bool}

theorem handlePeerPacket_announcement (server : Server) (environment : PeerEnvironment)
    (message : Bytes) : server.handlePeerPacket environment (announcement message) =
      server.addBackup environment (cString message) := by
  have notWho : ¬t_CLIENT_CONNECTION.value = t_WHO_IS_LEADER.value := by decide
  have notGet : ¬t_CLIENT_CONNECTION.value = t_GET_CLIENTS.value := by decide
  simp only [handlePeerPacket, announcement, Packet.build_c_str, Packet.build_type, if_neg notWho,
    if_neg notGet, if_true]

theorem waiting_of_awaited {number : ℕ} {message : Bytes}
    (awaiting : awaited cluster.mode = some (number, message)) :
    ∃ position port peers, cluster.mode = .waiting position message port number peers := by
  cases mode : cluster.mode with
  | waiting position waited port peer peers =>
      rw [mode] at awaiting
      cases awaiting
      exact ⟨position, port, peers, rfl⟩
  | accepting | announcing | escaped =>
      rw [mode] at awaiting
      cases awaiting

theorem acceptConnection_of_waiting {position peer : ℕ} {message : Bytes} {port : Port}
    {peers : List ℕ} {changed : Peer} (number : ℕ)
    (mode : cluster.mode = .waiting position message port number peers) :
    (cluster.setPeer peer changed).acceptConnection number = { cluster.setPeer peer changed with
      leader := { cluster.leader with
        clients := cluster.leader.clients.modify position fun manager =>
          { manager with backup_peers := manager.backup_peers ++ [number] } }
      mode := proceed position message peers } := by
  simp only [acceptConnection, setPeer, mode]

theorem Sound.spelled (sound : cluster.Sound) {number : ℕ} {message : Bytes}
    (awaiting : awaited cluster.mode = some (number, message)) :
    ∃ username rest, message = peerMessage username ++ rest := by
  rcases waiting_of_awaited awaiting with ⟨position, port, peers, mode⟩
  exact (sound.looping position message (number :: peers) (by rw [mode]; rfl)).1

theorem answer_of_told {server : Server} {environment : PeerEnvironment} {pkt : Packet}
    (told : IsMessage pkt) : (server.handlePeerPacket environment pkt).answer = none := by
  cases answered : (server.handlePeerPacket environment pkt).answer with
  | none => rfl
  | some answer =>
      have typed := told.1
      rcases handlePeerPacket_answer answered with ⟨-, ⟨asks, -⟩ | ⟨asks, -⟩⟩
      · rw [asks] at typed
        exact absurd typed (by decide)
      · rw [asks] at typed
        exact absurd typed (by decide)

/-- What a backup does with a packet: nothing, or it notes the keyword and connects to a port. -/
theorem Sound.handlePeerThread_cases (sound : cluster.Sound) {number : ℕ}
    (stat : Bytes → PathStatus) (elsewhere : Bool) {pkt : Packet} {toPeer : List Packet}
    (arrived : (cluster.peers number).toPeer = pkt :: toPeer) :
    (∃ point, cluster.handlePeerThread sameHost number stat elsewhere pkt toPeer =
        cluster.setPeer number { cluster.peers number with toPeer, point }) ∨
      pkt.type = t_CLIENT_CONNECTION.value ∧ ∃ message point manager,
        awaited cluster.mode = some (number, message) ∧ announcements toPeer = [] ∧
        manager.username = keyword ∧
        keyword ∉ (cluster.peers number).backup.clients.map Manager.username ∧
        let after := cluster.setPeer number { cluster.peers number with
          toPeer
          point
          backup := { (cluster.peers number).backup with
            clients := (cluster.peers number).backup.clients ++ [manager] } }
        cluster.handlePeerThread sameHost number stat elsewhere pkt toPeer =
          if cluster.reaches sameHost number (dialled message) then after.acceptConnection number
          else after := by
  have unanswered (environment : PeerEnvironment) :
      ((cluster.peers number).backup.handlePeerPacket environment pkt).answer = none := by
    apply answer_of_told
    exact sound.told number pkt (arrived ▸ List.mem_cons_self)
  rcases sound.rest arrived with ⟨-, -, announced⟩
  by_cases announces : pkt.type = t_CLIENT_CONNECTION.value
  · rcases announced announces with ⟨heard, message, awaiting, rfl⟩
    rcases sound.spelled awaiting with ⟨username, rest, spelled⟩
    have read := parse_cString_peerMessage username rest
    rw [← spelled] at read
    simp only [handlePeerThread, unanswered, Option.toList_none, List.append_nil]
    rw [handlePeerPacket_announcement]
    rcases addBackup_cases (cluster.peers number).backup _ read with
      ⟨same, silent⟩ | ⟨unmarked, manager, named, grown, connects⟩
    · left
      rw [same, silent]
      exact ⟨_, rfl⟩
    · right
      rw [grown, connects]
      exact ⟨announces, message, _, manager, awaiting, heard, named, unmarked, rfl⟩
  · left
    simp only [handlePeerThread, unanswered, Option.toList_none, List.append_nil]
    rcases handlePeerPacket_of_ne (cluster.peers number).backup _ announces with
      ⟨same, silent⟩
    rw [same, silent]
    exact ⟨_, rfl⟩

theorem Sound.receive (sound : cluster.Sound) {number : ℕ} {stat : Bytes → PathStatus}
    {elsewhere : Bool} (performed : cluster.receive sameHost number stat elsewhere = some next) :
    next.Sound := by
  rw [Cluster.receive] at performed
  split at performed
  case h_1 pkt toPeer _ arrived =>
    cases performed
    rcases sound.rest arrived with ⟨told, pending, -⟩
    refine sound.setPeer ?_ told pending id
    intro question question_mem
    rcases List.mem_append.mp question_mem with earlier | last
    · exact sound.asked number question earlier
    · exact Or.inr (List.mem_singleton.mp last)
  case h_2 pkt toPeer _ arrived =>
    cases performed
    rcases sound.rest arrived with ⟨told, pending, -⟩
    exact sound.setPeer (sound.asked number) told pending id
  case h_3 pkt toPeer _ arrived =>
    cases performed
    rcases sound.rest arrived with ⟨told, pending, -⟩
    rcases sound.handlePeerThread_cases stat elsewhere arrived with ⟨point, same⟩ |
      ⟨-, message, point, manager, awaiting, heard, named, unmarked, same⟩
    · rw [same]
      exact sound.setPeer (sound.asked number) told pending id
    · rw [same]
      have marked : keyword ∈ ((cluster.peers number).backup.clients ++ [manager]).map
          Manager.username := by simp [named]
      split_ifs with reaching
      · rcases waiting_of_awaited awaiting with ⟨position, port, peers, mode⟩
        rw [acceptConnection_of_waiting number mode]
        exact sound.connect mode (sound.asked number) told heard unmarked marked
      · exact sound.setPeer (sound.asked number) told pending fun _ => marked
  case h_4 => cases performed

theorem Sound.connectionClosed (sound : cluster.Sound) {number : ℕ}
    (performed : cluster.connectionClosed number = some next) : next.Sound := by
  rw [Cluster.connectionClosed] at performed
  split_ifs at performed
  cases performed
  exact sound.setPeer (sound.asked number) (sound.told number) (sound.pending number) id

theorem Sound.step (sound : cluster.Sound) {event : ClusterEvent}
    (performed : cluster.step sameHost event = some next) : next.Sound := by
  cases event with
  | acceptPeer ip => exact sound.acceptPeer performed
  | acceptClient stat pkt => exact sound.acceptClient performed
  | announce port => exact sound.announce performed
  | serve number stat => exact sound.serve performed
  | receive number stat elsewhere => exact sound.receive performed
  | connectionClosed number => exact sound.connectionClosed performed

theorem sound_of_reachable {ip : Bytes}
    (reached : Reachable (step sameHost) (fun _ _ => True) (start ip) cluster) :
    cluster.Sound := by
  apply reached.invariant (sound_start ip)
  intro _ _ _ sound _ performed
  exact sound.step performed

end Cluster

end SyncDir
