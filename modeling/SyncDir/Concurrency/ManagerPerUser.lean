import SyncDir.Library.Ownership
import SyncDir.Library.Transition
import SyncDir.Server.Server

/-!
# One manager for a user

`Server::run` and the `handlePeerThread` of every peer create a manager for a
user that `clientExists` does not find.  They look the user up, construct the
manager, and only then insert it, with the mutex held for the insertion alone.
So a user can be looked up by a second thread before the first one has inserted
the manager, and gets two of them.
-/

namespace SyncDir

open NetworkManager PacketType Transition Ownership

inductive Creator
  | run
  | peer (number : ℕ)
  deriving DecidableEq

namespace Creator

def state : Creator → ServerState
  | run => .LEADER
  | peer _ => .BACKUP

/-- The user that a packet asks a thread to look up. -/
def usernameOf : Creator → Packet → Option Bytes
  | run, pkt => if pkt.type = t_CLIENT.value then pkt.c_str.toOption else none
  | peer _, pkt =>
      if pkt.type = t_CLIENT_CONNECTION.value then
        pkt.c_str.toOption.map fun received_message =>
          (Server.parseClientConnection received_message).1
      else none

end Creator

/-- Where a thread is between the packet that names a user and the insertion of the manager. -/
inductive CreationPoint
  | idle
  /-- `clientExists` has not found the user. -/
  | creating (username : Bytes)
  | constructed (manager : Manager)
  /-- The thread has been ended by an exception. -/
  | ended
  deriving DecidableEq

/-- The user for whom a manager can still be inserted. -/
def CreationPoint.pending : CreationPoint → Option Bytes
  | creating username => if username = [] then none else some username
  | constructed manager => some manager.username
  | idle | ended => none

structure ManagerCreation where
  server : Server
  points : Creator → CreationPoint

inductive CreationEvent
  | receive (creator : Creator) (pkt : Packet)
  | construct (creator : Creator) (stat : Bytes → PathStatus)
  | insert (creator : Creator)

/-- The event belongs to the creation of a manager for a user that has been looked up. -/
def CreationEvent.Completes : CreationEvent → Prop
  | construct _ _ | insert _ => True
  | receive _ _ => False

namespace ManagerCreation

def created (state : ServerState) (ip : Bytes) (peer_connections : List ℕ) : ManagerCreation where
  server := { state, ip, clients := [], peer_connections }
  points := fun _ => .idle

def moved (state : ManagerCreation) (creator : Creator) (point : CreationPoint) :
    ManagerCreation :=
  { state with points := Function.update state.points creator point }

/-- An exception ends the thread of a peer, and the process if it is not caught. -/
def escaped (state : ManagerCreation) : Creator → ManagerCreation
  | .run => { state with points := fun _ => .ended }
  | .peer number => state.moved (.peer number) .ended

def step (state : ManagerCreation) : CreationEvent → Option ManagerCreation
  | .receive creator pkt =>
      match state.points creator, creator.usernameOf pkt with
      | .idle, some username =>
          if (state.server.clientExists username).isSome then some state
          else some (state.moved creator (.creating username))
      | _, _ => none
  | .construct creator stat =>
      match state.points creator with
      | .creating username =>
          match Manager.construct stat creator.state username with
          | .error _ => some (state.escaped creator)
          | .ok manager => some (state.moved creator (.constructed manager))
      | _ => none
  | .insert creator =>
      match state.points creator with
      | .constructed manager =>
          some { state.moved creator .idle with
            server := { state.server with clients := state.server.clients ++ [manager] } }
      | _ => none

def usernames (state : ManagerCreation) : List Bytes :=
  state.server.clients.map Manager.username

/-- The second state is reached from the first one by creating managers for users that have been
looked up. -/
abbrev Completion : ManagerCreation → ManagerCreation → Prop :=
  Reachable step fun _ event => event.Completes

/-- The users with a manager and those for whom one can still be inserted are all different. -/
structure Distinct (state : ManagerCreation) : Prop where
  nodup : state.usernames.Nodup
  absent : ∀ creator username, (state.points creator).pending = some username →
    username ∉ state.usernames
  unshared : Unshared CreationPoint.pending state.points

/-- A user that is not found is not one for whom another thread is going to insert a manager. -/
def Admissible (state : ManagerCreation) : CreationEvent → Prop
  | .receive creator pkt => ∀ username, creator.usernameOf pkt = some username → username ≠ [] →
      state.server.clientExists username = none →
        ∀ other, (state.points other).pending ≠ some username
  | .construct _ _ | .insert _ => True

section Steps

variable {state next : ManagerCreation} {creator : Creator} {point : CreationPoint}
  {username : Bytes} {manager : Manager}

theorem Distinct.keep (distinct : state.Distinct)
    (kept : ∀ username, point.pending = some username →
      (state.points creator).pending = some username) :
    (state.moved creator point).Distinct where
  nodup := distinct.nodup
  absent := fun other username has => distinct.absent other username (owned_of_kept kept has)
  unshared := distinct.unshared.keep kept

theorem Distinct.escaped (distinct : state.Distinct) (creator : Creator) :
    (state.escaped creator).Distinct := by
  cases creator with
  | run => exact ⟨distinct.nodup, fun _ _ => nofun, fun _ _ _ => nofun⟩
  | peer number => exact distinct.keep fun _ => nofun

theorem Distinct.insert (distinct : state.Distinct)
    (at_ : state.points creator = .constructed manager) :
    Distinct { state.moved creator .idle with
      server := { state.server with clients := state.server.clients ++ [manager] } } := by
  have mine : (state.points creator).pending = some manager.username := by rw [at_]; rfl
  have names : ({ state.moved creator .idle with
      server := { state.server with
        clients := state.server.clients ++ [manager] } } : ManagerCreation).usernames =
      state.usernames ++ [manager.username] := by
    simp [usernames]
  refine ⟨?_, ?_, distinct.unshared.take fun _ => nofun⟩
  · rw [names, List.nodup_append]
    refine ⟨distinct.nodup, List.pairwise_singleton _ _, ?_⟩
    rintro first first_mem second second_mem rfl
    rw [List.mem_singleton.mp second_mem] at first_mem
    exact distinct.absent creator _ mine first_mem
  · intro other username has
    rcases owned_of_update has with ⟨-, new⟩ | ⟨different, old⟩
    · cases new
    · rw [names, List.mem_append, List.mem_singleton]
      rintro (listed | rfl)
      · exact distinct.absent other username old listed
      · exact different (distinct.unshared other creator _ old mine)

theorem pending_creating (username : Bytes) :
    (CreationPoint.creating username).pending = if username = [] then none else some username :=
  rfl

/-- A user that is not found can be looked up without harm exactly if no other thread is going to
insert a manager for the same user. -/
theorem distinct_creating_iff (distinct : state.Distinct) (at_ : state.points creator = .idle)
    (missed : username ∉ state.usernames) :
    (state.moved creator (.creating username)).Distinct ↔
      (username ≠ [] → ∀ other, (state.points other).pending ≠ some username) := by
  constructor
  · intro after named other has
    have different : other ≠ creator := by
      rintro rfl
      rw [at_] at has
      cases has
    have still : ((state.moved creator (.creating username)).points other).pending =
        some username := by
      simpa only [moved, Function.update_of_ne different] using has
    have mine : ((state.moved creator (.creating username)).points creator).pending =
        some username := by
      simp only [moved, Function.update_self, pending_creating, if_neg named]
    exact different (after.unshared other creator username still mine)
  · intro alone
    have unowned : ∀ token, (CreationPoint.creating username).pending = some token →
        token = username ∧ username ≠ [] := by
      intro token has
      rw [pending_creating] at has
      split_ifs at has with named
      exact ⟨(Option.some_injective _ has).symm, named⟩
    refine ⟨distinct.nodup, ?_, distinct.unshared.take ?_⟩
    · intro other token has
      rcases owned_of_update has with ⟨-, new⟩ | ⟨-, old⟩
      · rw [(unowned token new).1]
        exact missed
      · exact distinct.absent other token old
    · intro token new
      rcases unowned token new with ⟨rfl, named⟩
      exact alone named

theorem distinct_step_iff {event : CreationEvent} (distinct : state.Distinct)
    (performed : state.step event = some next) : next.Distinct ↔ state.Admissible event := by
  cases event with
  | receive creator pkt =>
      simp only [step] at performed
      split at performed
      · rename_i username at_ named
        simp only [Admissible, named, Option.some_inj, forall_eq']
        split_ifs at performed with found
        · cases performed
          refine iff_of_true distinct fun _ missed => ?_
          rw [missed] at found
          cases found
        · cases performed
          have missed : state.server.clientExists username = none := by
            simpa using found
          rw [distinct_creating_iff distinct at_ (Server.clientExists_eq_none_iff.mp missed)]
          simp only [missed, true_implies]
      · cases performed
  | construct creator stat =>
      refine iff_of_true ?_ trivial
      simp only [step] at performed
      split at performed
      · rename_i username at_
        split at performed
        · cases performed
          exact distinct.escaped creator
        · rename_i manager constructed
          cases performed
          rcases Manager.construct_username constructed with ⟨named, same⟩
          apply distinct.keep
          intro token has
          rw [at_, pending_creating, if_neg named, ← same]
          exact has
      · cases performed
  | insert creator =>
      refine iff_of_true ?_ trivial
      simp only [step] at performed
      split at performed
      · rename_i manager at_
        cases performed
        exact distinct.insert at_
      · cases performed

/-! ### Inserting the managers for users that have been looked up -/

theorem exists_inserted_constructed (at_ : state.points creator = .constructed manager) :
    ∃ final, Completion state final ∧
      final.usernames = state.usernames ++ [manager.username] ∧
      ∀ other, other ≠ creator → final.points other = state.points other := by
  have performed : state.step (.insert creator) =
      some { state.moved creator .idle with
        server := { state.server with clients := state.server.clients ++ [manager] } } := by
    simp only [step, at_]
  refine ⟨_, .single performed trivial, by simp [usernames], ?_⟩
  intro other different
  exact Function.update_of_ne different _ _

theorem exists_inserted (has : (state.points creator).pending = some username) :
    ∃ final, Completion state final ∧
      final.usernames = state.usernames ++ [username] ∧
      ∀ other, other ≠ creator → final.points other = state.points other := by
  cases at_ : state.points creator with
  | idle | ended =>
      rw [at_] at has
      cases has
  | constructed manager =>
      rw [at_] at has
      cases has
      exact exists_inserted_constructed at_
  | creating found =>
      rw [at_, pending_creating] at has
      split_ifs at has with named
      cases has
      let manager : Manager := { state := creator.state, username, backup_peers := [] }
      have performed : state.step (.construct creator fun _ => .directory) =
          some (state.moved creator (.constructed manager)) := by
        simp only [step, at_, Manager.construct, if_neg named]
        rfl
      have constructed : (state.moved creator (.constructed manager)).points creator =
          .constructed manager := Function.update_self ..
      have first : Completion state (state.moved creator (.constructed manager)) :=
        .single performed trivial
      rcases exists_inserted_constructed constructed with ⟨final, inserted, names, others⟩
      refine ⟨final, first.trans inserted, names, ?_⟩
      intro other different
      rw [others other different]
      exact Function.update_of_ne different _ _

/-- The users are all different exactly if the managers have different usernames when those that
can still be inserted are. -/
theorem distinct_iff : state.Distinct ↔ ∀ final, Completion state final →
    final.usernames.Nodup := by
  constructor
  · intro distinct final reached
    have finalDistinct : final.Distinct := by
      apply reached.invariant
      · exact distinct
      · intro before event after beforeDistinct completes performed
        apply (distinct_step_iff beforeDistinct performed).mpr
        cases event with
        | receive => exact completes.elim
        | construct | insert => trivial
    exact finalDistinct.nodup
  · intro kept
    refine ⟨kept state .start, ?_, ?_⟩
    · intro creator username has listed
      rcases exists_inserted has with ⟨final, reached, names, -⟩
      have nodup := kept final reached
      rw [names, List.nodup_append] at nodup
      exact nodup.2.2 username listed username (List.mem_singleton_self _) rfl
    · intro first second username firstHas secondHas
      by_contra different
      rcases exists_inserted firstHas with ⟨middle, reached, names, others⟩
      have secondStill : (middle.points second).pending = some username := by
        rw [others second (Ne.symm different)]
        exact secondHas
      rcases exists_inserted secondStill with ⟨final, further, finalNames, -⟩
      have nodup := kept final (reached.trans further)
      rw [finalNames, names, List.nodup_append] at nodup
      exact nodup.2.2 username (by simp) username (List.mem_singleton_self _) rfl

end Steps

/-- In a run of a server, the usernames of the managers are pairwise different, also if the
managers for users that have been looked up are inserted from any state of the run, exactly if no
look-up misses a user for whom another thread is going to insert a manager. -/
theorem usernames_nodup_iff (state : ServerState) (ip : Bytes) (peer_connections : List ℕ)
    {events : List CreationEvent} {last : ManagerCreation}
    (performed : run step (created state ip peer_connections) events = some last) :
    (∀ visited_state ∈ visited step (created state ip peer_connections) events,
      ∀ final, Completion visited_state final → final.usernames.Nodup) ↔
      Permits step Admissible (created state ip peer_connections) events := by
  have kept : (∀ visited_state ∈ visited step (created state ip peer_connections) events,
      visited_state.Distinct) ↔
      Permits step Admissible (created state ip peer_connections) events := by
    apply visited_iff_permits _ _ performed
    · intro before event after distinct moves
      exact distinct_step_iff distinct moves
    · exact ⟨List.nodup_nil, fun _ _ => nofun, fun _ _ _ => nofun⟩
  rw [← kept]
  apply forall₂_congr
  intro visited_state _
  exact distinct_iff.symm

def announcementOfAna : Packet :=
  Packet.build t_CLIENT_CONNECTION.value 0
    (Server.addPort (Server.peerMessage (ascii "ana")) Port.first)

/-- A client, and then the announcement of the same user by a peer. -/
def oneAfterTheOther : List CreationEvent :=
  [.receive .run (Packet.build t_CLIENT.value 0 (ascii "ana")),
    .construct .run fun _ => .directory, .insert .run,
    .receive (.peer 0) (Packet.build t_CLIENT_CONNECTION.value 0 (ascii "ana 1024"))]

theorem usernames_nodup_iff_oneAfterTheOther :
    ∃ last, run step (created .LEADER [] [0]) oneAfterTheOther = some last ∧
      ∀ state ∈ visited step (created .LEADER [] [0]) oneAfterTheOther,
        ∀ final, Completion state final → final.usernames.Nodup := by
  refine ⟨_, rfl, (usernames_nodup_iff .LEADER [] [0] rfl).mpr ?_⟩
  refine ⟨fun _ _ _ _ _ => nofun, ?_⟩
  rintro _ ⟨⟩
  refine ⟨trivial, ?_⟩
  rintro _ ⟨⟩
  refine ⟨trivial, ?_⟩
  rintro _ ⟨⟩
  refine ⟨?_, fun _ _ => trivial⟩
  -- The peer announces a user who has a manager already.
  intro username named _ missed
  have same : (Creator.peer 0).usernameOf
      (Packet.build t_CLIENT_CONNECTION.value 0 (ascii "ana 1024")) = some (ascii "ana") := by
    decide
  rw [same, Option.some_inj] at named
  subst named
  cases missed

/-- Two peers that announce a user at the same time lead to two managers of one name. -/
theorem usernames_of_overlap :
    (run step (created .BACKUP [] [0, 1])
        [.receive (.peer 0) announcementOfAna, .receive (.peer 1) announcementOfAna,
          .construct (.peer 0) fun _ => .directory, .insert (.peer 0),
          .construct (.peer 1) fun _ => .directory, .insert (.peer 1)]).map usernames =
      some [ascii "CLIENT_CONNECTION", ascii "CLIENT_CONNECTION"] := by
  decide

end ManagerCreation

end SyncDir
