import SyncDir.Protocol.ClusterState

/-!
# Announcements that never end

`Server::run` accepts no connection while it waits for a peer to follow an
announcement.  A peer follows one announcement at most, and only if it reads the
number of the port in it.
-/

namespace SyncDir

open PacketType Transition

namespace Cluster

open Server

variable {cluster next : Cluster} {sameHost : ℕ → Bool}

/-- The packets that the constructor of a backup still takes for answers. -/
def swallows : BackupPoint → Option ℕ
  | .awaitLeader => some 2
  | .awaitClients => some 1
  | .serving => some 0
  | .stopped => none

/-- The number of the packets before the first announcement. -/
def ahead (packets : List Packet) : ℕ :=
  (packets.takeWhile fun pkt => pkt.type ≠ t_CLIENT_CONNECTION.value).length

/-- The announcement that is on its way will get to the `handlePeerThread` of the backup. -/
def Hears (peer : Peer) : Prop :=
  announcements peer.toPeer ≠ [] ∧ ∃ swallowed, swallows peer.point = some swallowed ∧
    swallowed ≤ ahead peer.toPeer

/-- While a user is announced, the loop stays where it is, tells the next peer, ends with an
exception, or gets the connection of the peer that it waits for. -/
inductive LoopStep (sameHost : ℕ → Bool) (cluster next : Cluster) (position : ℕ)
    (message : Bytes) (peers : List ℕ) : Prop
  | stays (same : next.leader = cluster.leader) (mode : next.mode = cluster.mode)
  | announces (idle : awaited cluster.mode = none) (same : next.leader = cluster.leader)
      (longer : Bytes) (goesOn : loop next.mode = some (position, longer, peers))
  | escapes (idle : awaited cluster.mode = none) (exception : Exception)
      (escaped : next.mode = .escaped exception)
  | connects (number : ℕ) (others : List ℕ) (split : peers = number :: others)
      (hears : Hears (cluster.peers number))
      (unmarked : keyword ∉ (cluster.peers number).backup.clients.map Manager.username)
      (reaching : cluster.reaches sameHost number (dialled message) = true)
      (accepted : next.leader.clients = cluster.leader.clients.modify position fun manager =>
        { manager with backup_peers := manager.backup_peers ++ [number] })
      (mode : next.mode = proceed position message others)

theorem Sound.loopStep_receive (sound : cluster.Sound) {position number : ℕ} {message : Bytes}
    {peers : List ℕ} (looping : loop cluster.mode = some (position, message, peers))
    {stat : Bytes → PathStatus} {elsewhere : Bool}
    (performed : cluster.receive sameHost number stat elsewhere = some next) :
    LoopStep sameHost cluster next position message peers := by
  rw [Cluster.receive] at performed
  split at performed
  case h_1 =>
    cases performed
    exact .stays rfl rfl
  case h_2 =>
    cases performed
    exact .stays rfl rfl
  case h_3 pkt toPeer serving arrived =>
    cases performed
    rcases sound.handlePeerThread_cases stat elsewhere arrived with ⟨point, same⟩ |
      ⟨announces, waited, point, manager, awaiting, -, -, unmarked, same⟩
    · rw [same]
      exact .stays rfl rfl
    · rw [same]
      rcases waiting_of_awaited awaiting with ⟨_, port, others, mode⟩
      rw [mode] at looping
      cases looping
      split_ifs with reaching
      · rw [acceptConnection_of_waiting number mode]
        have hears : Hears (cluster.peers number) := by
          rw [Hears, arrived, announcements_cons_of_eq announces]
          exact ⟨List.cons_ne_nil _ _, 0, by rw [serving]; rfl, Nat.zero_le _⟩
        exact .connects number others rfl hears unmarked reaching rfl rfl
      · exact .stays rfl rfl
  case h_4 => cases performed

theorem Sound.loopStep (sound : cluster.Sound) {position : ℕ} {message : Bytes} {peers : List ℕ}
    (looping : loop cluster.mode = some (position, message, peers)) {event : ClusterEvent}
    (performed : cluster.step sameHost event = some next) :
    LoopStep sameHost cluster next position message peers := by
  cases event with
  | acceptPeer ip =>
      simp only [Cluster.step, Cluster.acceptPeer] at performed
      split at performed
      case h_1 mode =>
        rw [mode] at looping
        cases looping
      case h_2 => cases performed
  | acceptClient stat pkt =>
      simp only [Cluster.step, Cluster.acceptClient] at performed
      split at performed
      case h_1 mode =>
        rw [mode] at looping
        cases looping
      case h_2 => cases performed
  | announce port =>
      simp only [Cluster.step, Cluster.announce] at performed
      split at performed
      case h_1 otherPosition peer_msg peer others mode =>
        rw [mode] at looping
        cases looping
        have idle : awaited cluster.mode = none := by
          rw [mode]
          rfl
        split_ifs at performed
        · cases performed
          exact .escapes idle _ rfl
        · cases performed
          exact .announces idle rfl (addPort message port) rfl
      case h_2 => cases performed
  | serve number stat =>
      simp only [Cluster.step, Cluster.serve] at performed
      split at performed
      case h_1 pkt toLeader _ _ arrived =>
        cases performed
        have asked := sound.asked number pkt (arrived ▸ List.mem_cons_self)
        have other := not_announcement_of_question asked
        exact .stays (handlePeerPacket_of_ne cluster.leader _ other).1 rfl
      case h_2 => cases performed
  | receive number stat elsewhere => exact sound.loopStep_receive looping performed
  | connectionClosed number =>
      simp only [Cluster.step, Cluster.connectionClosed] at performed
      split_ifs at performed
      cases performed
      exact .stays rfl rfl

/-- No step leads out of a server that an exception has ended. -/
theorem mode_of_escaped {exception : Exception} (escaped : cluster.mode = .escaped exception)
    {event : ClusterEvent} (performed : cluster.step sameHost event = some next) :
    next.mode = .escaped exception := by
  cases event with
  | acceptPeer ip =>
      rw [Cluster.step, Cluster.acceptPeer, escaped] at performed
      cases performed
  | acceptClient stat pkt =>
      rw [Cluster.step, Cluster.acceptClient, escaped] at performed
      cases performed
  | announce port =>
      rw [Cluster.step, Cluster.announce, escaped] at performed
      cases performed
  | serve number stat =>
      simp only [Cluster.step, Cluster.serve] at performed
      split at performed
      · cases performed
        exact escaped
      · cases performed
  | receive number stat elsewhere =>
      have never (porta : Option ℤ) : cluster.reaches sameHost number porta = false := by
        cases porta <;> simp [reaches, escaped]
      simp only [Cluster.step, Cluster.receive] at performed
      split at performed
      · cases performed
        exact escaped
      · cases performed
        exact escaped
      · cases performed
        simp only [handlePeerThread, never]
        split <;> exact escaped
      · cases performed
  | connectionClosed number =>
      simp only [Cluster.step, Cluster.connectionClosed] at performed
      split_ifs at performed
      cases performed
      exact escaped

def Replicated (cluster : Cluster) (position : ℕ) : Prop :=
  ∃ manager, cluster.leader.clients[position]? = some manager ∧ manager.backup_peers ≠ []

/-- A user is announced while another one has connections, or an exception has ended the server. -/
def Stalled (cluster : Cluster) (position other : ℕ) : Prop :=
  (∃ message peers, loop cluster.mode = some (position, message, peers)) ∧
      cluster.Replicated other ∨
    ∃ exception, cluster.mode = .escaped exception

theorem Sound.stalled_step (sound : cluster.Sound) {position other : ℕ}
    (different : other ≠ position) (stalled : cluster.Stalled position other)
    {event : ClusterEvent} (performed : cluster.step sameHost event = some next) :
    next.Stalled position other := by
  rcases stalled with ⟨⟨message, peers, looping⟩, replicated⟩ | ⟨exception, escaped⟩
  · cases sound.loopStep looping performed with
    | stays same mode =>
        refine Or.inl ⟨⟨message, peers, by rw [mode, looping]⟩, ?_⟩
        rwa [Replicated, same]
    | announces _ same longer goesOn =>
        refine Or.inl ⟨⟨longer, peers, goesOn⟩, ?_⟩
        rwa [Replicated, same]
    | escapes _ exception escaped => exact Or.inr ⟨exception, escaped⟩
    | connects number others split _ unmarked _ _ _ =>
        rcases replicated with ⟨manager, found, connected⟩
        rw [split] at looping
        exact absurd (sound.alone looping unmarked found connected) different
  · exact Or.inr ⟨exception, mode_of_escaped escaped performed⟩

theorem Stalled.not_accepting {position other : ℕ} (stalled : cluster.Stalled position other) :
    cluster.mode ≠ .accepting := by
  intro accepting
  rcases stalled with ⟨⟨message, peers, looping⟩, -⟩ | ⟨exception, escaped⟩
  · rw [accepting] at looping
    cases looping
  · rw [accepting] at escaped
    cases escaped

/-- At most one user ever gets connections to the backups: when one has got some, the loop for the
next new user does not end, and no connection is accepted any more. -/
theorem replicated_once {ip : Bytes}
    (reached : Reachable (step sameHost) (fun _ _ => True) (start ip) cluster) :
    (∀ first second, cluster.Replicated first → cluster.Replicated second → first = second) ∧
      ∀ position message peers other, loop cluster.mode = some (position, message, peers) →
        cluster.Replicated other → other ≠ position →
          ∀ later, Reachable (step sameHost) (fun _ _ => True) cluster later →
            later.mode ≠ .accepting := by
  refine ⟨?_, ?_⟩
  · rintro first second ⟨firstManager, firstFound, firstConnected⟩
      ⟨secondManager, secondFound, secondConnected⟩
    exact (sound_of_reachable reached).once first second firstManager secondManager firstFound
      secondFound firstConnected secondConnected
  · intro position message peers other looping replicated different later after
    have both : later.Sound ∧ later.Stalled position other := by
      apply after.invariant ⟨sound_of_reachable reached, Or.inl ⟨⟨message, peers, looping⟩,
        replicated⟩⟩
      rintro _ _ _ ⟨sound, stalled⟩ _ performed
      exact ⟨sound.step performed, sound.stalled_step different stalled performed⟩
    exact both.2.not_accepting

def existing (_path : Bytes) : PathStatus :=
  .directory

/-- A backup on the host of the leader starts, and two users connect; the name of the first one is
the port that the leader opens for the backup. -/
def secondUser : List ClusterEvent :=
  [.acceptPeer (ascii "10.0.0.1"), .serve 0 existing, .receive 0 existing false, .serve 0 existing,
    .receive 0 existing false,
    .acceptClient existing (Packet.build t_CLIENT.value 1 (ascii "1024")), .announce .first,
    .receive 0 existing false,
    .acceptClient existing (Packet.build t_CLIENT.value 1 (ascii "ana"))]

theorem replicated_once_secondUser :
    ∃ cluster, run (step fun _ => true) (start (ascii "10.0.0.1")) secondUser = some cluster ∧
      cluster.Replicated 0 ∧
      ∀ later, Reachable (step fun _ => true) (fun _ _ => True) cluster later →
        later.mode ≠ .accepting := by
  have performed : (run (step fun _ => true) (start (ascii "10.0.0.1")) secondUser).map
      (fun cluster => (cluster.leader.clients[0]?.map Manager.backup_peers, loop cluster.mode)) =
        some (some [0], some (1, peerMessage (ascii "ana"), [0])) := by decide
  rcases Option.map_eq_some_iff.mp performed with ⟨cluster, ran, seen⟩
  rcases Prod.mk.inj seen with ⟨connected, looping⟩
  rcases Option.map_eq_some_iff.mp connected with ⟨manager, found, only⟩
  have replicated : cluster.Replicated 0 := ⟨manager, found, by simp [only]⟩
  have reached := Reachable.of_run (fun _ _ _ => trivial) .start ran
  exact ⟨cluster, ran, replicated,
    (replicated_once reached).2 1 _ _ 0 looping replicated (by decide)⟩

end Cluster

end SyncDir
