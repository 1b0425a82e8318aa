import Mathlib.Data.List.Nodup
import SyncDir.Library.Transition
import SyncDir.Server.Server

/-!
# Managers and their backups

A manager gets its backup connections when it is created, one for each peer that
is known at that moment.  A peer that arrives later is registered, but no
existing manager gets a connection to it, so that all managers are connected to
all peers only as long as every peer has arrived before the first client.
-/

namespace SyncDir

namespace Server

open PacketType Transition

/-- A connection that the accept loop handles: its first packet, and what the iteration meets. -/
structure Arrival where
  environment : Environment
  pkt : Packet

/-- An iteration of the accept loop that gets back to `accept`. -/
def step (server : Server) (arrival : Arrival) : Option Server :=
  match server.handleConnection arrival.environment arrival.pkt with
  | .accepting next _ => some next
  | .escaped _ | .waiting => none

def leader (ip : Bytes) : Server :=
  { state := .LEADER, ip, clients := [], peer_connections := [] }

/-- Every manager has exactly one backup connection for each peer. -/
def Paired (server : Server) : Prop :=
  ∀ manager ∈ server.clients, ∀ peer ∈ server.peer_connections,
    manager.backup_peers.count peer = 1

/-- The peers have different numbers, and the backups of a manager are peers. -/
def Numbered (server : Server) : Prop :=
  server.peer_connections = List.range server.peer_connections.length ∧
    ∀ manager ∈ server.clients, manager.backup_peers ⊆ server.peer_connections

def PeersFirst (server : Server) (arrival : Arrival) : Prop :=
  arrival.pkt.type = t_PEER.value → server.clients = []

theorem addClient_accepting {server next : Server} {environment : Environment}
    {username : Bytes} {started : Option Started}
    (accepting : server.addClient environment username = .accepting next started) :
    ∃ manager : Manager, manager.backup_peers = server.peer_connections ∧
      next = { server with clients := server.clients ++ [manager] } := by
  simp only [addClient] at accepting
  split at accepting
  · cases accepting
  · rename_i manager created
    split at accepting
    · rename_i backup_peers sent finished
      rcases announce_finished finished with ⟨paired, -⟩
      simp only [Iteration.accepting.injEq] at accepting
      exact ⟨{ manager with backup_peers }, paired, accepting.1.symm⟩
    · cases accepting
    · cases accepting

/-- What an iteration that gets back to `accept` can do to the lists of clients and peers. -/
theorem step_cases {server next : Server} {arrival : Arrival}
    (performed : server.step arrival = some next) :
    arrival.pkt.type ≠ t_PEER.value ∧ (next = server ∨ ∃ manager : Manager,
        manager.backup_peers = server.peer_connections ∧
        next = { server with clients := server.clients ++ [manager] }) ∨
      arrival.pkt.type = t_PEER.value ∧ next = { server with
        peer_connections := server.peer_connections ++ [server.peer_connections.length] } := by
  have different : t_CLIENT.value ≠ t_PEER.value := by decide
  simp only [step] at performed
  split at performed
  · rename_i after started accepting
    simp only [Option.some.injEq] at performed
    subst performed
    simp only [handleConnection] at accepting
    split at accepting
    · rename_i client
      refine Or.inl ⟨client ▸ different, ?_⟩
      split at accepting
      · cases accepting
      · split at accepting
        · simp only [Iteration.accepting.injEq] at accepting
          exact Or.inl accepting.1.symm
        · exact Or.inr (addClient_accepting accepting)
    · split at accepting
      · rename_i peer
        simp only [Iteration.accepting.injEq] at accepting
        exact Or.inr ⟨peer, accepting.1.symm⟩
      · rename_i other
        simp only [Iteration.accepting.injEq] at accepting
        exact Or.inl ⟨other, Or.inl accepting.1.symm⟩
  · cases performed
  · cases performed

theorem numbered_step {server next : Server} {arrival : Arrival} (numbered : server.Numbered)
    (performed : server.step arrival = some next) : next.Numbered := by
  rcases numbered with ⟨numbers, backups⟩
  rcases step_cases performed with ⟨-, rfl | ⟨manager, all, rfl⟩⟩ | ⟨-, rfl⟩
  · exact ⟨numbers, backups⟩
  · refine ⟨numbers, ?_⟩
    intro other other_mem
    rcases List.mem_append.mp other_mem with earlier | last
    · exact backups other earlier
    · rw [List.mem_singleton.mp last, all]
      exact List.Subset.refl _
  · constructor
    · simp only [List.length_append, List.length_singleton, List.range_succ, ← numbers]
    · intro manager manager_mem
      exact List.Subset.trans (backups manager manager_mem) (List.subset_append_left _ _)

theorem paired_step_iff {server next : Server} {arrival : Arrival} (numbered : server.Numbered)
    (paired : server.Paired) (performed : server.step arrival = some next) :
    next.Paired ↔ server.PeersFirst arrival := by
  rcases numbered with ⟨numbers, backups⟩
  rcases step_cases performed with ⟨notPeer, rfl | ⟨manager, all, rfl⟩⟩ | ⟨peer, rfl⟩
  · refine iff_of_true paired ?_
    intro peer
    exact absurd peer notPeer
  · constructor
    · intro _ peer
      exact absurd peer notPeer
    · intro _ other other_mem number number_mem
      rcases List.mem_append.mp other_mem with earlier | last
      · exact paired other earlier number number_mem
      · rw [List.mem_singleton.mp last, all]
        apply List.count_eq_one_of_mem _ number_mem
        rw [numbers]
        exact List.nodup_range
  · constructor
    · intro pairedNext _
      apply List.eq_nil_iff_forall_not_mem.mpr
      intro manager manager_mem
      have once := pairedNext manager manager_mem server.peer_connections.length (by simp)
      have present : server.peer_connections.length ∈ manager.backup_peers := by
        apply List.count_pos_iff.mp
        omega
      have old := backups manager manager_mem present
      rw [numbers] at old
      simp at old
    · intro peersFirst manager manager_mem
      rw [peersFirst peer] at manager_mem
      cases manager_mem

/-- After every iteration of a run of the accept loop of a leader, every manager has exactly one
backup connection for each peer, exactly if every peer has connected while there were no
clients. -/
theorem paired_iff {ip : Bytes} {arrivals : List Arrival} {last : Server}
    (performed : run step (leader ip) arrivals = some last) :
    (∀ server ∈ visited step (leader ip) arrivals, server.Paired) ↔
      Permits step PeersFirst (leader ip) arrivals := by
  apply visited_iff_permits_of_invariant _ _ _ _ performed
  · exact Numbered
  · intro server arrival next numbered performed
    exact numbered_step numbered performed
  · intro server arrival next numbered paired performed
    exact paired_step_iff numbered paired performed
  · refine ⟨rfl, ?_⟩
    intro manager manager_mem
    cases manager_mem
  · intro manager manager_mem
    cases manager_mem

/-- Directories can be created, and every peer answers. -/
def cooperative : Environment where
  stat _ := .missing true
  answer _ := { port := .first, fails := false, connects := true }

def anaConnects : Arrival :=
  { environment := cooperative, pkt := Packet.build t_CLIENT.value 1 (ascii "ana") }

def peerConnects : Arrival :=
  { environment := cooperative, pkt := Packet.build t_PEER.value 1 (ascii "0") }

theorem paired_iff_anaConnects :
    ∃ last, run step (leader []) [peerConnects, anaConnects] = some last ∧
      ∀ server ∈ visited step (leader []) [peerConnects, anaConnects], server.Paired := by
  have performed : (run step (leader []) [peerConnects, anaConnects]).isSome = true := by decide
  rcases Option.isSome_iff_exists.mp performed with ⟨last, reached⟩
  refine ⟨last, reached, (paired_iff reached).mpr ⟨?_, ?_⟩⟩
  · intro _
    rfl
  · intro next _
    refine ⟨?_, ?_⟩
    · intro peer
      exact absurd peer (by decide)
    · intro _ _
      trivial

/-- The peer that connects after `ana` is not in her manager's list. -/
theorem not_paired_of_late_peer :
    ∃ server, run step (leader []) [anaConnects, peerConnects] = some server ∧
      server.clients = [⟨.LEADER, ascii "ana", []⟩] ∧ server.peer_connections = [0] ∧
      ¬server.Paired := by
  refine ⟨{ leader [] with
    clients := [⟨.LEADER, ascii "ana", []⟩], peer_connections := [0] }, by decide, rfl, rfl, ?_⟩
  intro paired
  exact absurd (paired _ List.mem_cons_self 0 List.mem_cons_self) (by decide)

end Server

end SyncDir
