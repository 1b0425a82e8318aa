import SyncDir.Protocol.Stalling

/-!
# When `acceptConnection` returns

`Server::run` waits for one peer at a time.  What decides if the wait ends is
known as soon as it begins: the answers that the peer still expects, the users
that it knows, and the number that it reads in the announcement.
-/

namespace SyncDir

open PacketType Transition

namespace Cluster

open Server

variable {cluster next : Cluster} {sameHost : ℕ → Bool}

/-- The peer reads the announcement, does not know the keyword, and finds the port that the leader
has opened at the number that it reads. -/
structure Follows (sameHost : ℕ → Bool) (cluster : Cluster) (number : ℕ) (message : Bytes) :
    Prop where
  hears : Hears (cluster.peers number)
  unmarked : keyword ∉ (cluster.peers number).backup.clients.map Manager.username
  reaching : cluster.reaches sameHost number (dialled message) = true

theorem ahead_cons_of_ne {pkt : Packet} (silent : pkt.type ≠ t_CLIENT_CONNECTION.value)
    (packets : List Packet) : ahead (pkt :: packets) = ahead packets + 1 := by
  simp [ahead, silent]

theorem ahead_append {packets : List Packet} (announced : announcements packets ≠ [])
    (answers : List Packet) : ahead (packets ++ answers) = ahead packets := by
  induction packets with
  | nil => exact absurd rfl announced
  | cons pkt packets ih =>
      by_cases announces : pkt.type = t_CLIENT_CONNECTION.value
      · simp [ahead, announces]
      · rw [announcements_cons_of_ne announces] at announced
        rw [List.cons_append, ahead_cons_of_ne announces, ahead_cons_of_ne announces,
          ih announced]

/-- A packet before the announcement is one less for the constructor of the backup to take. -/
theorem hears_iff_of_silent {before after : Peer} {pkt : Packet}
    (silent : pkt.type ≠ t_CLIENT_CONNECTION.value) (arrived : before.toPeer = pkt :: after.toPeer)
    {swallowed : ℕ} (first : swallows before.point = some (swallowed + 1))
    (second : swallows after.point = some swallowed) : Hears before ↔ Hears after := by
  simp only [Hears, arrived, announcements_cons_of_ne silent, ahead_cons_of_ne silent, first,
    second, Option.some.injEq, exists_eq_left', Nat.add_le_add_iff_right]

/-! ### No step makes a peer follow -/

theorem Sound.silent_head (sound : cluster.Sound) {number : ℕ} {pkt : Packet}
    {toPeer : List Packet} (arrived : (cluster.peers number).toPeer = pkt :: toPeer)
    (later : announcements toPeer ≠ []) : pkt.type ≠ t_CLIENT_CONNECTION.value := by
  intro announces
  exact later ((sound.rest arrived).2.2 announces).1

/-- What the backup is like before the step if it hears the announcement afterwards. -/
def HeardBefore (before after : Peer) : Prop :=
  Hears after → Hears before ∧ after.backup = before.backup

theorem heardBefore_setPeer {other : ℕ} {peer : Peer}
    (same : HeardBefore (cluster.peers other) peer) (number : ℕ) :
    HeardBefore (cluster.peers number) ((cluster.setPeer other peer).peers number) := by
  by_cases own : number = other
  · subst own
    simpa [setPeer] using same
  · intro hears
    simp only [setPeer, Function.update_of_ne own] at hears ⊢
    exact ⟨hears, trivial⟩

theorem heardBefore_serve {other : ℕ} {stat : Bytes → PathStatus}
    (performed : cluster.serve other stat = some next) (number : ℕ) :
    HeardBefore (cluster.peers number) (next.peers number) := by
  rw [Cluster.serve] at performed
  split at performed
  case h_1 pkt toLeader _ _ arrived =>
    cases performed
    refine heardBefore_setPeer ?_ number
    rintro ⟨announced, swallowed, point, enough⟩
    have silent := announcements_handlePeerPacket cluster.leader
      { stat, sends := true, connects := fun _ => true } pkt
    simp only [announcements, List.filter_append] at announced silent
    rw [silent, List.append_nil] at announced
    rw [ahead_append announced] at enough
    exact ⟨⟨announced, swallowed, point, enough⟩, rfl⟩
  case h_2 => cases performed

theorem acceptConnection_peers (cluster : Cluster) (number : ℕ) :
    (cluster.acceptConnection number).peers = cluster.peers := by
  rw [acceptConnection]
  split <;> rfl

theorem Sound.heardBefore_receive (sound : cluster.Sound) {other : ℕ} {stat : Bytes → PathStatus}
    {elsewhere : Bool} (performed : cluster.receive sameHost other stat elsewhere = some next)
    (number : ℕ) : HeardBefore (cluster.peers number) (next.peers number) := by
  rw [Cluster.receive] at performed
  split at performed
  case h_1 pkt toPeer point arrived =>
    cases performed
    refine heardBefore_setPeer ?_ number
    intro hears
    have silent := sound.silent_head arrived hears.1
    refine ⟨(hears_iff_of_silent silent arrived ?_ rfl).mpr hears, rfl⟩
    rw [point]
    rfl
  case h_2 pkt toPeer point arrived =>
    cases performed
    refine heardBefore_setPeer ?_ number
    intro hears
    have silent := sound.silent_head arrived hears.1
    refine ⟨(hears_iff_of_silent silent arrived ?_ rfl).mpr hears, rfl⟩
    rw [point]
    rfl
  case h_3 pkt toPeer serving arrived =>
    cases performed
    rcases sound.handlePeerThread_cases stat elsewhere arrived with ⟨point, same⟩ |
      ⟨-, message, point, manager, -, heard, -, -, same⟩
    · rw [same]
      refine heardBefore_setPeer ?_ number
      intro hears
      have silent := sound.silent_head arrived hears.1
      refine ⟨⟨?_, 0, by rw [serving]; rfl, Nat.zero_le _⟩, rfl⟩
      rw [arrived, announcements_cons_of_ne silent]
      exact hears.1
    · -- the announcement has been taken, so that the backup has none to hear
      have gone : HeardBefore (cluster.peers number) ((cluster.setPeer other
          { cluster.peers other with
            toPeer
            point
            backup := { (cluster.peers other).backup with
              clients := (cluster.peers other).backup.clients ++ [manager] } }).peers number) := by
        refine heardBefore_setPeer ?_ number
        intro hears
        exact absurd heard hears.1
      rw [same]
      split_ifs
      · rwa [acceptConnection_peers]
      · exact gone
  case h_4 => cases performed

/-- While the leader waits, a backup that will follow after a step would have followed before. -/
theorem Sound.follows_of_step (sound : cluster.Sound) {number : ℕ} {message : Bytes}
    (awaiting : awaited cluster.mode = some (number, message)) (same : next.mode = cluster.mode)
    {event : ClusterEvent} (performed : cluster.step sameHost event = some next)
    (follows : Follows sameHost next number message) : Follows sameHost cluster number message := by
  rcases waiting_of_awaited awaiting with ⟨position, port, peers, mode⟩
  have heardBefore : HeardBefore (cluster.peers number) (next.peers number) := by
    cases event with
    | acceptPeer ip =>
        rw [Cluster.step, Cluster.acceptPeer, mode] at performed
        cases performed
    | acceptClient stat pkt =>
        rw [Cluster.step, Cluster.acceptClient, mode] at performed
        cases performed
    | announce port =>
        rw [Cluster.step, Cluster.announce, mode] at performed
        cases performed
    | serve other stat => exact heardBefore_serve performed number
    | receive other stat elsewhere => exact sound.heardBefore_receive performed number
    | connectionClosed other =>
        simp only [Cluster.step, Cluster.connectionClosed, mode, AcceptMode.runs] at performed
        cases performed
  rcases heardBefore follows.hears with ⟨hears, backup⟩
  have reaching := follows.reaching
  refine ⟨hears, backup ▸ follows.unmarked, ?_⟩
  rw [reaches.eq_def, same] at reaching
  rwa [reaches.eq_def]

/-- If the peer does not follow, `acceptConnection` does not return. -/
theorem Sound.waits (sound : cluster.Sound) {number : ℕ} {message : Bytes}
    (awaiting : awaited cluster.mode = some (number, message))
    (deaf : ¬Follows sameHost cluster number message) {event : ClusterEvent}
    (performed : cluster.step sameHost event = some next) :
    next.mode = cluster.mode ∧ ¬Follows sameHost next number message := by
  rcases waiting_of_awaited awaiting with ⟨position, port, peers, mode⟩
  have looping : loop cluster.mode = some (position, message, number :: peers) := by
    rw [mode]
    rfl
  cases sound.loopStep looping performed with
  | stays _ same =>
      exact ⟨same, fun follows => deaf (sound.follows_of_step awaiting same performed follows)⟩
  | announces idle | escapes idle =>
      rw [idle] at awaiting
      cases awaiting
  | connects other others split hears unmarked reaching =>
      cases split
      exact absurd ⟨hears, unmarked, reaching⟩ deaf

/-! ### A peer that follows ends the wait -/

theorem handlePeerPacket_told {server : Server} {environment : PeerEnvironment} {pkt : Packet}
    (told : IsMessage pkt) (silent : pkt.type ≠ t_CLIENT_CONNECTION.value) :
    (server.handlePeerPacket environment pkt).result.isOk = true := by
  rcases told with ⟨typed, present⟩
  rcases Option.isSome_iff_exists.mp present with ⟨payload, some_payload⟩
  have noQuestion : pkt.type ≠ t_WHO_IS_LEADER.value ∧ pkt.type ≠ t_GET_CLIENTS.value := by
    rcases typed with type | type | type
    · rw [type]
      decide
    · rw [type]
      decide
    · exact absurd type silent
  have text : pkt.c_str = .ok (cString payload) := by rw [Packet.c_str, some_payload]
  simp only [handlePeerPacket, text, if_neg noQuestion.1, if_neg noQuestion.2, if_neg silent]
  rfl

/-- A peer that waits for the announcement gets nearer to it with every packet before it. -/
theorem Follows.setPeer {number : ℕ} {message : Bytes}
    (follows : Follows sameHost cluster number message) {peer : Peer} (hears : Hears peer)
    (backup : peer.backup = (cluster.peers number).backup) :
    Follows sameHost (cluster.setPeer number peer) number message := by
  refine ⟨?_, ?_, follows.reaching⟩
  · simpa [Cluster.setPeer] using hears
  · simpa [Cluster.setPeer, backup] using follows.unmarked

theorem Sound.receive_silent (sound : cluster.Sound) {number : ℕ} {message : Bytes}
    (follows : Follows sameHost cluster number message) {pkt : Packet} {toPeer : List Packet}
    (arrived : (cluster.peers number).toPeer = pkt :: toPeer)
    (silent : pkt.type ≠ t_CLIENT_CONNECTION.value) :
    ∃ next, cluster.step sameHost (.receive number existing false) = some next ∧
      next.mode = cluster.mode ∧ Follows sameHost next number message ∧
        (next.peers number).toPeer = toPeer := by
  have hears := follows.hears
  simp only [Cluster.step, Cluster.receive, arrived]
  cases point : (cluster.peers number).point with
  | awaitLeader =>
      refine ⟨_, rfl, rfl, follows.setPeer ?_ rfl, by simp [Cluster.setPeer]⟩
      refine (hears_iff_of_silent silent arrived ?_ rfl).mp hears
      rw [point]
      rfl
  | awaitClients =>
      refine ⟨_, rfl, rfl, follows.setPeer ?_ rfl, by simp [Cluster.setPeer]⟩
      refine (hears_iff_of_silent silent arrived ?_ rfl).mp hears
      rw [point]
      rfl
  | serving =>
      have told := sound.told number pkt (arrived ▸ List.mem_cons_self)
      rcases handlePeerPacket_of_ne (cluster.peers number).backup
        { stat := existing, sends := true, connects := fun porta =>
            cluster.reaches sameHost number porta || false } silent with ⟨same, connects⟩
      refine ⟨_, rfl, ?_⟩
      simp only [handlePeerThread, same, connects, handlePeerPacket_told told silent, if_true]
      refine ⟨rfl, follows.setPeer ⟨?_, 0, rfl, Nat.zero_le _⟩ rfl, by simp [Cluster.setPeer]⟩
      have announced := hears.1
      rwa [arrived, announcements_cons_of_ne silent] at announced
  | stopped =>
      rcases hears with ⟨-, swallowed, stopped, -⟩
      rw [point] at stopped
      cases stopped

/-- The announcement itself: the backup connects, and `acceptConnection` returns. -/
theorem Sound.receive_announcement (sound : cluster.Sound) {position number : ℕ} {message : Bytes}
    {port : Port} {peers : List ℕ}
    (mode : cluster.mode = .waiting position message port number peers)
    (follows : Follows sameHost cluster number message) {pkt : Packet} {toPeer : List Packet}
    (arrived : (cluster.peers number).toPeer = pkt :: toPeer)
    (announces : pkt.type = t_CLIENT_CONNECTION.value) :
    ∃ next, cluster.step sameHost (.receive number existing false) = some next ∧
      next.mode = proceed position message peers := by
  have awaiting : awaited cluster.mode = some (number, message) := by
    rw [mode]
    rfl
  have serving : (cluster.peers number).point = .serving := by
    rcases follows.hears with ⟨-, swallowed, point, enough⟩
    rw [arrived] at enough
    have none_ahead : ahead (pkt :: toPeer) = 0 := by simp [ahead, announces]
    cases reached : (cluster.peers number).point with
    | serving => rfl
    | awaitLeader | awaitClients =>
        rw [reached] at point
        cases point
        omega
    | stopped =>
        rw [reached] at point
        cases point
  rcases (sound.rest arrived).2.2 announces with ⟨-, announced, awaiting', rfl⟩
  obtain rfl : message = announced := by
    rw [awaiting] at awaiting'
    cases awaiting'
    rfl
  rcases sound.spelled awaiting with ⟨username, rest, spelled⟩
  have read := parse_cString_peerMessage username rest
  rw [← spelled] at read
  have unknown : ((cluster.peers number).backup.clientExists keyword).isSome = false := by
    rw [clientExists_eq_none_iff.mpr follows.unmarked]
    rfl
  have constructed : Manager.construct existing .BACKUP keyword =
      .ok { state := .BACKUP, username := keyword, backup_peers := [] } := by decide
  have receiver (connects : Option ℤ → Bool) :
      ((cluster.peers number).backup.handlePeerPacket { stat := existing, sends := true, connects }
        (announcement message)).receiver = some (keyword, dialled message) := by
    simp only [handlePeerPacket_announcement, addBackup, read, unknown, constructed]
    rfl
  simp only [Cluster.step, Cluster.receive, serving, arrived]
  refine ⟨_, rfl, ?_⟩
  simp only [handlePeerThread, receiver, follows.reaching, if_true,
    acceptConnection_of_waiting number mode]

theorem Sound.ends_of_follows (sound : cluster.Sound) {position number : ℕ} {message : Bytes}
    {port : Port} {peers : List ℕ}
    (mode : cluster.mode = .waiting position message port number peers)
    (follows : Follows sameHost cluster number message) :
    ∃ later, Reachable (Cluster.step sameHost) (fun _ _ => True) cluster later ∧
      later.mode = proceed position message peers := by
  -- the packets that the backup has not read yet
  induction left : (cluster.peers number).toPeer generalizing cluster with
  | nil =>
      have announced := follows.hears.1
      rw [left] at announced
      exact absurd rfl announced
  | cons pkt toPeer ih =>
      by_cases announces : pkt.type = t_CLIENT_CONNECTION.value
      · rcases sound.receive_announcement mode follows left announces with
          ⟨next, performed, connected⟩
        exact ⟨next, .single performed trivial, connected⟩
      · rcases sound.receive_silent follows left announces with
          ⟨next, performed, same, nearer, rest⟩
        rcases ih (sound.step performed) (same.trans mode) nearer rest with
          ⟨later, reached, connected⟩
        exact ⟨later, (Reachable.single performed trivial).trans reached, connected⟩

/-- `acceptConnection` can return exactly if the peer follows the announcement, which is decided
when the port is opened. -/
theorem waiting_ends_iff {ip : Bytes}
    (reached : Reachable (step sameHost) (fun _ _ => True) (start ip) cluster)
    {position number : ℕ} {message : Bytes} {port : Port} {peers : List ℕ}
    (mode : cluster.mode = .waiting position message port number peers) :
    (∃ later, Reachable (step sameHost) (fun _ _ => True) cluster later ∧
        later.mode ≠ cluster.mode) ↔
      Follows sameHost cluster number message := by
  have sound := sound_of_reachable reached
  have awaiting : awaited cluster.mode = some (number, message) := by
    rw [mode]
    rfl
  constructor
  · rintro ⟨later, after, changed⟩
    by_contra deaf
    have kept : later.Sound ∧ later.mode = cluster.mode ∧
        ¬Follows sameHost later number message := by
      apply after.invariant ⟨sound, rfl, deaf⟩
      rintro state event next ⟨stateSound, same, stateDeaf⟩ _ performed
      rcases stateSound.waits (same ▸ awaiting) stateDeaf performed with ⟨unchanged, nextDeaf⟩
      exact ⟨stateSound.step performed, unchanged.trans same, nextDeaf⟩
    exact changed kept.2.1
  · intro follows
    rcases sound.ends_of_follows mode follows with ⟨later, after, connected⟩
    refine ⟨later, after, ?_⟩
    have idle := awaited_proceed position message peers
    intro same
    rw [← connected, same, awaiting] at idle
    cases idle

/-- The port that the leader opens for the first user is in the name of the user, and the backup
has not yet got the answers to its questions. -/
def firstUser : List ClusterEvent :=
  [.acceptPeer (ascii "10.0.0.1"), .serve 0 existing, .receive 0 existing false, .serve 0 existing,
    .acceptClient existing (Packet.build t_CLIENT.value 1 (ascii "1024")), .announce .first]

theorem waiting_ends_iff_firstUser :
    ∃ cluster, run (step fun _ => true) (start (ascii "10.0.0.1")) firstUser = some cluster ∧
      ∃ later, Reachable (step fun _ => true) (fun _ _ => True) cluster later ∧
        later.mode ≠ cluster.mode := by
  have performed : (run (step fun _ => true) (start (ascii "10.0.0.1")) firstUser).map
      (fun cluster => (cluster.mode, (cluster.peers 0).point, ahead (cluster.peers 0).toPeer,
        (announcements (cluster.peers 0).toPeer).isEmpty, (cluster.peers 0).backup.clients)) =
        some (AcceptMode.waiting 0 (addPort (peerMessage (ascii "1024")) .first) .first 0 [],
          BackupPoint.awaitClients, 1, false, []) := by
    rfl
  rcases Option.map_eq_some_iff.mp performed with ⟨cluster, ran, seen⟩
  simp only [Prod.mk.injEq] at seen
  rcases seen with ⟨mode, point, before, announced, clients⟩
  have reached := Reachable.of_run (fun _ _ _ => trivial) .start ran
  refine ⟨cluster, ran, (waiting_ends_iff reached mode).mpr ⟨⟨by simpa using announced, 1, ?_, ?_⟩,
    ?_, ?_⟩⟩
  · rw [point]
    rfl
  · rw [before]
  · rw [clients]
    simp
  · rw [reaches.eq_def, mode]
    decide

end Cluster

end SyncDir
