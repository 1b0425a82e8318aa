import SyncDir.Protocol.Waiting

/-!
# Backups that start too late

A leader that has a user does not answer the question for its clients, so that
the constructor of a backup that connects then has nothing to go on with.  The
only other packet that it can get is the announcement of a new user.  If it
takes this one for an answer, nobody follows the announcement.  Otherwise the
backup stays in its constructor as long as the leader runs.
-/

namespace SyncDir

open PacketType Transition

namespace Cluster

open Server

variable {cluster next : Cluster} {sameHost : ℕ → Bool} {number : ℕ}

/-- A backup that has not got an answer to its second question, and gets none. -/
inductive Unanswered (peer : Peer) : Prop
  | awaitsLeader (point : peer.point = .awaitLeader)
      (few : peer.toLeader.length + peer.toPeer.length ≤ 1)
      (silent : announcements peer.toPeer = [])
  | awaitsClients (point : peer.point = .awaitClients)
      (asked : ∀ pkt ∈ peer.toLeader, pkt = Peer.askClients) (nothing : peer.toPeer = [])

theorem unanswered_joined (ip : Bytes) : Unanswered (.joined ip) :=
  .awaitsLeader rfl le_rfl rfl

theorem ahead_concat_announcement_le (packets : List Packet) (message : Bytes) :
    ahead (packets ++ [announcement message]) ≤ packets.length := by
  induction packets with
  | nil => simp [ahead, announcement]
  | cons pkt packets ih =>
      by_cases announces : pkt.type = t_CLIENT_CONNECTION.value
      · simp [ahead, announces]
      · rw [List.cons_append, ahead_cons_of_ne announces, List.length_cons]
        exact Nat.succ_le_succ ih

/-- An announcement that such a backup gets will be taken for an answer. -/
theorem Unanswered.deaf {peer : Peer} (unanswered : Unanswered peer) (message : Bytes) :
    ¬Hears { peer with toPeer := peer.toPeer ++ [announcement message] } := by
  rintro ⟨-, swallowed, point, enough⟩
  cases unanswered with
  | awaitsLeader awaits few silent =>
      have ahead_le := ahead_concat_announcement_le peer.toPeer message
      simp only [awaits, swallows, Option.some.injEq] at point
      simp only at enough
      omega
  | awaitsClients awaits asked nothing =>
      have ahead_le := ahead_concat_announcement_le peer.toPeer message
      rw [nothing, List.length_nil] at ahead_le
      simp only [awaits, swallows, Option.some.injEq] at point
      simp only [nothing] at enough
      omega

/-- The leader has a user, and the backup has not been answered; or `Server::run` waits for it, and
it will not follow. -/
structure Late (cluster : Cluster) (number : ℕ) : Prop where
  joined : number < cluster.leader.peer_connections.length
  users : cluster.leader.clients ≠ []
  unanswered : Unanswered (cluster.peers number)

def Abandoned (sameHost : ℕ → Bool) (cluster : Cluster) (number : ℕ) : Prop :=
  ∃ message, awaited cluster.mode = some (number, message) ∧
    ¬Follows sameHost cluster number message

/-- The leader has ended, and the backup with it. -/
def Ended (cluster : Cluster) (number : ℕ) : Prop :=
  (∃ exception, cluster.mode = .escaped exception) ∧ (cluster.peers number).point = .stopped

theorem Sound.abandoned_step (sound : cluster.Sound)
    (abandoned : Abandoned sameHost cluster number) {event : ClusterEvent}
    (performed : cluster.step sameHost event = some next) :
    next.mode = cluster.mode ∧ Abandoned sameHost next number := by
  rcases abandoned with ⟨message, awaiting, deaf⟩
  rcases sound.waits awaiting deaf performed with ⟨same, later⟩
  exact ⟨same, message, same ▸ awaiting, later⟩

theorem Late.setPeer (late : Late cluster number) (other : ℕ) (peer : Peer)
    (unanswered : other = number → Unanswered peer) : Late (cluster.setPeer other peer) number := by
  refine ⟨late.joined, late.users, ?_⟩
  by_cases same : number = other
  · subst same
    simpa [Cluster.setPeer] using unanswered rfl
  · simpa [Cluster.setPeer, same] using late.unanswered

theorem Late.acceptPeer (late : Late cluster number) {ip : Bytes}
    (performed : cluster.acceptPeer ip = some next) : Late next number := by
  rw [Cluster.acceptPeer] at performed
  split at performed
  case h_1 =>
    cases performed
    have kept := late.setPeer cluster.leader.peer_connections.length (.joined ip)
      fun same => absurd same late.joined.ne'
    refine ⟨?_, kept.users, kept.unanswered⟩
    simpa using Nat.lt_succ_of_lt late.joined
  case h_2 => cases performed

theorem Late.acceptClient (late : Late cluster number) {stat : Bytes → PathStatus} {pkt : Packet}
    (performed : cluster.acceptClient stat pkt = some next) : Late next number := by
  rw [Cluster.acceptClient] at performed
  split at performed
  case h_1 =>
    split at performed
    · cases performed
      exact ⟨late.joined, late.users, late.unanswered⟩
    · split_ifs at performed
      · cases performed
        exact late
      · split at performed
        · cases performed
          exact ⟨late.joined, late.users, late.unanswered⟩
        · cases performed
          exact ⟨late.joined, by simp, late.unanswered⟩
  case h_2 => cases performed

theorem Late.announce (late : Late cluster number) {port : Port}
    (performed : cluster.announce port = some next) :
    Late next number ∨ Abandoned sameHost next number := by
  rw [Cluster.announce] at performed
  split at performed
  case h_1 position peer_msg peer peers mode =>
    simp only at performed
    split_ifs at performed
    · cases performed
      exact Or.inl ⟨late.joined, late.users, late.unanswered⟩
    · cases performed
      by_cases own : peer = number
      · subst own
        refine Or.inr ⟨addPort peer_msg port, rfl, ?_⟩
        intro follows
        have hears := follows.hears
        simp only [Cluster.setPeer, Function.update_self] at hears
        exact late.unanswered.deaf _ hears
      · left
        have kept := late.setPeer peer { cluster.peers peer with
          toPeer := (cluster.peers peer).toPeer ++ [announcement (addPort peer_msg port)] }
          fun same => absurd same own
        exact ⟨kept.joined, kept.users, kept.unanswered⟩
  case h_2 => cases performed

/-- The leader answers the first question at most. -/
theorem Late.serve (late : Late cluster number) (sound : cluster.Sound) {other : ℕ}
    {stat : Bytes → PathStatus} (performed : cluster.serve other stat = some next) :
    Late next number := by
  rw [Cluster.serve] at performed
  split at performed
  case h_1 pkt toLeader _ _ arrived =>
    cases performed
    have asked := sound.asked other pkt (arrived ▸ List.mem_cons_self)
    rw [(handlePeerPacket_of_ne cluster.leader _ (not_announcement_of_question asked)).1]
    apply late.setPeer
    rintro rfl
    cases late.unanswered with
    | awaitsLeader awaits few silent =>
        have first : toLeader = [] ∧ (cluster.peers other).toPeer = [] := by
          rw [arrived, List.length_cons] at few
          exact ⟨List.eq_nil_of_length_eq_zero (by omega), List.eq_nil_of_length_eq_zero (by omega)⟩
        refine .awaitsLeader awaits ?_ ?_
        · rw [first.1, first.2]
          cases (cluster.leader.handlePeerPacket _ pkt).answer <;> simp
        · rw [first.2, List.nil_append]
          exact announcements_handlePeerPacket ..
    | awaitsClients awaits asks nothing =>
        rw [arrived] at asks
        refine .awaitsClients awaits (fun later later_mem => asks later (List.mem_cons_of_mem _
          later_mem)) ?_
        rcases List.exists_cons_of_ne_nil late.users with ⟨manager, clients, registered⟩
        have failed := getClients_cons manager clients cluster.leader registered
        rw [asks pkt List.mem_cons_self, handlePeerPacket_get_clients _ _ rfl rfl, failed, nothing]
        rfl
  case h_2 => cases performed

theorem Late.acceptConnection (late : Late cluster number) (other : ℕ) :
    Late (cluster.acceptConnection other) number := by
  rw [Cluster.acceptConnection]
  split
  · refine ⟨late.joined, ?_, late.unanswered⟩
    intro nobody
    exact late.users (by simpa using congrArg List.length nobody)
  · exact late

theorem Late.receive (late : Late cluster number) {other : ℕ} {stat : Bytes → PathStatus}
    {elsewhere : Bool} (performed : cluster.receive sameHost other stat elsewhere = some next) :
    Late next number := by
  rw [Cluster.receive] at performed
  split at performed
  case h_1 pkt toPeer awaits arrived =>
    cases performed
    apply late.setPeer
    rintro rfl
    cases late.unanswered with
    | awaitsLeader _ few _ =>
        rw [arrived, List.length_cons] at few
        have toLeader : (cluster.peers other).toLeader = [] :=
          List.eq_nil_of_length_eq_zero (by omega)
        have last : toPeer = [] := List.eq_nil_of_length_eq_zero (by omega)
        refine .awaitsClients rfl ?_ last
        simp [toLeader]
    | awaitsClients point =>
        rw [awaits] at point
        cases point
  case h_2 pkt toPeer awaits arrived =>
    cases performed
    apply late.setPeer
    rintro rfl
    cases late.unanswered with
    | awaitsLeader point =>
        rw [awaits] at point
        cases point
    | awaitsClients _ _ nothing =>
        rw [arrived] at nothing
        cases nothing
  case h_3 pkt toPeer serving arrived =>
    cases performed
    have different : number ≠ other := by
      rintro rfl
      cases late.unanswered with
      | awaitsLeader point | awaitsClients point =>
          rw [serving] at point
          cases point
    have kept (peer : Peer) : Late (cluster.setPeer other peer) number :=
      late.setPeer other peer fun same => absurd same.symm different
    have connected (peer : Peer) (reaching : Bool) : Late (if reaching then
        (cluster.setPeer other peer).acceptConnection other else cluster.setPeer other peer)
        number := by
      split
      · exact (kept peer).acceptConnection other
      · exact kept peer
    simp only [handlePeerThread]
    split
    · exact connected _ _
    · exact kept _
  case h_4 => cases performed

theorem Late.connectionClosed (late : Late cluster number) {other : ℕ}
    (performed : cluster.connectionClosed other = some next) :
    Late next number ∨ Ended next number := by
  rw [Cluster.connectionClosed] at performed
  split_ifs at performed with runs
  cases performed
  by_cases own : other = number
  · right
    constructor
    · cases mode : cluster.mode with
      | escaped exception => exact ⟨exception, mode⟩
      | accepting | announcing | waiting => simp [mode, AcceptMode.runs] at runs
    · simp [Cluster.setPeer, own]
  · exact Or.inl (late.setPeer other _ fun same => absurd same own)

/-- A backup that has stopped does not begin again. -/
theorem Ended.step (ended : Ended cluster number) {event : ClusterEvent}
    (performed : cluster.step sameHost event = some next) : Ended next number := by
  rcases ended with ⟨⟨exception, escaped⟩, stopped⟩
  refine ⟨⟨exception, mode_of_escaped escaped performed⟩, ?_⟩
  have kept (other : ℕ) {peer : Peer} (same : other = number → peer.point = .stopped) :
      ((cluster.setPeer other peer).peers number).point = .stopped := by
    by_cases own : number = other
    · subst own
      simpa [Cluster.setPeer] using same rfl
    · simpa [Cluster.setPeer, own] using stopped
  cases event with
  | acceptPeer ip =>
      rw [Cluster.step, Cluster.acceptPeer, escaped] at performed
      cases performed
  | acceptClient stat pkt =>
      rw [Cluster.step, Cluster.acceptClient, escaped] at performed
      cases performed
  | announce port =>
      rw [Cluster.step, Cluster.announce, escaped] at performed
      cases performed
  | serve other stat =>
      simp only [Cluster.step, Cluster.serve, escaped, AcceptMode.runs] at performed
      cases performed
  | receive other stat elsewhere =>
      have different {point : BackupPoint} (moves : (cluster.peers other).point = point)
          (running : point ≠ .stopped) : other ≠ number := by
        rintro rfl
        exact running (moves.symm.trans stopped)
      have never (porta : Option ℤ) : cluster.reaches sameHost other porta = false := by
        cases porta <;> simp [reaches, escaped]
      simp only [Cluster.step, Cluster.receive] at performed
      split at performed
      case h_1 _ _ point _ =>
        cases performed
        exact kept other fun same => absurd same (different point (by simp))
      case h_2 _ _ point _ =>
        cases performed
        exact kept other fun same => absurd same (different point (by simp))
      case h_3 _ _ point _ =>
        cases performed
        simp only [handlePeerThread, never]
        split <;> exact kept other fun same => absurd same (different point (by simp))
      case h_4 => cases performed
  | connectionClosed other =>
      simp only [Cluster.step, Cluster.connectionClosed] at performed
      split_ifs at performed
      cases performed
      exact kept other fun _ => rfl

theorem Late.step (late : Late cluster number) (sound : cluster.Sound) {event : ClusterEvent}
    (performed : cluster.step sameHost event = some next) :
    Late next number ∨ Abandoned sameHost next number ∨ Ended next number := by
  cases event with
  | acceptPeer ip => exact Or.inl (late.acceptPeer performed)
  | acceptClient stat pkt => exact Or.inl (late.acceptClient performed)
  | announce port => exact (late.announce performed).imp_right Or.inl
  | serve other stat => exact Or.inl (late.serve sound performed)
  | receive other stat elsewhere => exact Or.inl (late.receive performed)
  | connectionClosed other => exact (late.connectionClosed performed).imp_right Or.inr

/-- A backup that connects to a leader with users does not get out of its constructor while the
leader runs, unless it takes an announcement for an answer; then `Server::run` waits for it for
ever. -/
theorem late_backup {ip peerIp : Bytes}
    (reached : Reachable (step sameHost) (fun _ _ => True) (start ip) cluster)
    (users : cluster.leader.clients ≠ [])
    (joins : cluster.step sameHost (.acceptPeer peerIp) = some next) {later : Cluster}
    (after : Reachable (step sameHost) (fun _ _ => True) next later) :
    let number := cluster.leader.peer_connections.length
    ((later.peers number).point = .awaitLeader ∨ (later.peers number).point = .awaitClients) ∨
      (∃ message, awaited later.mode = some (number, message) ∧
        ∀ final, Reachable (step sameHost) (fun _ _ => True) later final →
          final.mode = later.mode) ∨
      (∃ exception, later.mode = .escaped exception) ∧ (later.peers number).point = .stopped := by
  intro number
  have before := sound_of_reachable reached
  have begun : Late next number := by
    simp only [Cluster.step, Cluster.acceptPeer] at joins
    split at joins
    · cases joins
      refine ⟨by simp [number], users, ?_⟩
      simpa [Cluster.setPeer, number] using unanswered_joined peerIp
    · cases joins
  have invariant : later.Sound ∧
      (Late later number ∨ Abandoned sameHost later number ∨ Ended later number) := by
    apply after.invariant ⟨before.step joins, Or.inl begun⟩
    rintro state event following ⟨sound, late | abandoned | ended⟩ _ performed
    · exact ⟨sound.step performed, late.step sound performed⟩
    · exact ⟨sound.step performed, Or.inr (Or.inl (sound.abandoned_step abandoned performed).2)⟩
    · exact ⟨sound.step performed, Or.inr (Or.inr (ended.step performed))⟩
  rcases invariant with ⟨sound, late | abandoned | ended⟩
  · left
    cases late.unanswered with
    | awaitsLeader point => exact Or.inl point
    | awaitsClients point => exact Or.inr point
  · right
    left
    have unfolded := abandoned
    rcases unfolded with ⟨message, awaiting, -⟩
    refine ⟨message, awaiting, ?_⟩
    intro final reachedFinal
    have kept : final.Sound ∧ final.mode = later.mode ∧ Abandoned sameHost final number := by
      apply reachedFinal.invariant ⟨sound, rfl, abandoned⟩
      rintro state event following ⟨stateSound, same, stays⟩ _ performed
      rcases stateSound.abandoned_step stays performed with ⟨unchanged, still⟩
      exact ⟨stateSound.step performed, unchanged.trans same, still⟩
    exact kept.2.1
  · exact Or.inr (Or.inr ended)

def firstUserConnects : List ClusterEvent :=
  [.acceptClient existing (Packet.build t_CLIENT.value 1 (ascii "ana"))]

/-- The backup takes the announcement of a second user for the list of clients. -/
def secondUserAnnounced : List ClusterEvent :=
  [.serve 0 existing, .acceptClient existing (Packet.build t_CLIENT.value 1 (ascii "bob")),
    .announce .first, .receive 0 existing false, .receive 0 existing false]

theorem late_backup_secondUserAnnounced :
    ∃ cluster next later,
      run (step fun _ => true) (start (ascii "10.0.0.1")) firstUserConnects = some cluster ∧
      cluster.step (fun _ => true) (.acceptPeer (ascii "10.0.0.2")) = some next ∧
      run (step fun _ => true) next secondUserAnnounced = some later ∧
      ∃ message, awaited later.mode = some (0, message) ∧
        ∀ final, Reachable (step fun _ => true) (fun _ _ => True) later final →
          final.mode = later.mode := by
  have outcomes {cluster next later : Cluster}
      (first : run (step fun _ => true) (start (ascii "10.0.0.1")) firstUserConnects = some cluster)
      (users : cluster.leader.clients ≠ [])
      (joins : cluster.step (fun _ => true) (.acceptPeer (ascii "10.0.0.2")) = some next)
      (second : run (step fun _ => true) next secondUserAnnounced = some later) :=
    late_backup (.of_run (fun _ _ _ => trivial) .start first) users joins
      (.of_run (fun _ _ _ => trivial) .start second)
  refine ⟨_, _, _, rfl, rfl, rfl, ?_⟩
  rcases outcomes rfl (List.cons_ne_nil _ _) rfl rfl with
    (point | point) | waits | ⟨⟨exception, escaped⟩, -⟩
  · exact absurd point (by decide)
  · exact absurd point (by decide)
  · exact waits
  · cases escaped

end Cluster

end SyncDir
