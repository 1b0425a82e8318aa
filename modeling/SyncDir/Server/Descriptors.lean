import SyncDir.Library.Custody
import SyncDir.Utils.Sockets

/-!
# The descriptors of the server

Every connection that `Server::run` accepts has a descriptor, and the device of a
client opens more of them.  All connections are handled in parallel and share
the descriptors of the process, so that a number that is closed once too often
would be that of somebody else.

The constructor of a `Device` throws when something fails, and its network
managers are lost then with the sockets that they have.  So are those of a
device whose first thread cannot be created.  If it is another one, the socket
is closed under the threads that run already.

The sockets that a leader and its backups open for the pushes of a user belong to
no connection and are left out; the threads of a device only send to backups.
-/

namespace SyncDir

open Custody Resumption Transition

inductive SocketCall
  | socket
  | bind (fd : ℕ)
  | listen (fd : ℕ)
  | getsockname (fd : ℕ)
  | accept (fd : ℕ)
  /-- The calls of `send` or `recv` for a packet, which fail or not. -/
  | transfer (fd : ℕ)
  /-- The same on the socket of an entry of `backup_peers`, which belongs to no connection. -/
  | transferToBackup (index : ℕ)
  | shutdown (fd : ℕ)
  | close (fd : ℕ)

namespace SocketCall

/-- What a call returns; -1 is `none` or `false`, and `getsockname` finds the port. -/
def Answer : SocketCall → Type
  | socket | accept _ | getsockname _ => Option ℕ
  | bind _ | listen _ | transfer _ | transferToBackup _ => Bool
  | shutdown _ | close _ => Unit

def effects : Effects SocketCall Answer ℕ where
  refers
    | socket | transferToBackup _ => none
    | bind fd | listen fd | getsockname fd | accept fd | transfer fd | shutdown fd | close fd =>
        some fd
  closes
    | close _ => true
    | _ => false
  opens
    | socket, fd | accept _, fd => fd
    | _, _ => none

end SocketCall

/-- How the handling of a connection ends, with the descriptors that it leaves behind. -/
inductive ConnectionEnd
  | unstarted
  /-- The connection of a peer, which is never closed. -/
  | peer (fd : ℕ)
  /-- A first packet that is neither `t_CLIENT` nor `t_PEER`. -/
  | ignored (fd : ℕ)
  | refused
  | removed
  /-- The constructor or the first `thread` of the device has thrown; the sockets are those of its
  network managers. -/
  | threw (exception : Exception) (push_manager file_watcher_receiver : Option ℕ)
  deriving DecidableEq

def ConnectionEnd.remaining : ConnectionEnd → List ℕ
  | unstarted | refused | removed => []
  | peer fd | ignored fd => [fd]
  | threw _ push_manager file_watcher_receiver =>
      push_manager.toList ++ file_watcher_receiver.toList

/-- The network managers of a device. -/
inductive DeviceManager
  | command
  | push
  | watcher
  deriving DecidableEq

/-- The calls of the threads of a device. -/
inductive ThreadCall
  | manager (manager : DeviceManager)
  | backup (index : ℕ)

/-- How far `Device::start` gets with its threads. -/
inductive ThreadCreation
  | all
  /-- The first `thread` cannot be created. -/
  | failed
  /-- Another one cannot, when the threads before it have made these calls. -/
  | interrupted (earlier : List ThreadCall)

structure DeviceThreads where
  creation : ThreadCreation
  calls : List ThreadCall

/-- No thread runs when another one cannot be created. -/
def DeviceThreads.Settled (threads : DeviceThreads) : Prop :=
  ∀ earlier, threads.creation ≠ .interrupted earlier

namespace Connection

open SocketCall (effects)

abbrev Program := Resumption SocketCall SocketCall.Answer

def socket : Program (Option ℕ) := call SocketCall.socket
def bind (fd : ℕ) : Program Bool := call (SocketCall.bind fd)
def listen (fd : ℕ) : Program Bool := call (SocketCall.listen fd)
def getsockname (fd : ℕ) : Program (Option ℕ) := call (SocketCall.getsockname fd)
def accept (fd : ℕ) : Program (Option ℕ) := call (SocketCall.accept fd)
def transfer (fd : ℕ) : Program Bool := call (SocketCall.transfer fd)
def transferToBackup (index : ℕ) : Program Bool := call (SocketCall.transferToBackup index)
def shutdown (fd : ℕ) : Program Unit := call (SocketCall.shutdown fd)
def close (fd : ℕ) : Program Unit := call (SocketCall.close fd)

/-- `NetworkManager::createAndSetupSocket`, with the descriptor and the port of the socket. -/
def createAndSetupSocket : Program (Except Exception (ℕ × ℕ)) := do
  match ← socket with
  | none => return .error (.runtime_error "Falha ao criar socket de escuta")
  | some listen_socket_fd =>
      if (← bind listen_socket_fd) = false then
        close listen_socket_fd
        return .error (.runtime_error "Falha ao fazer bind no socket")
      if (← listen listen_socket_fd) = false then
        close listen_socket_fd
        return .error (.runtime_error "Falha ao fazer listen no socket")
      match ← getsockname listen_socket_fd with
      | none =>
          close listen_socket_fd
          return .error (.runtime_error "Falha ao obter informações do socket")
      | some port => return .ok (listen_socket_fd, port)

/-- `NetworkManager::acceptConnection` on a socket that listens. -/
def acceptConnection (socket_fd : ℕ) : Program (Except Exception ℕ) := do
  match ← getsockname socket_fd with
  | none => return .error (.runtime_error "Falha ao obter informações do socket")
  | some _ =>
      match ← accept socket_fd with
      | none => return .error (.runtime_error "Falha ao aceitar conexão do cliente")
      | some client_socket_fd =>
          close socket_fd
          return .ok client_socket_fd

def closeConnection (socket_fd : ℕ) : Program Unit := do
  shutdown socket_fd
  close socket_fd

/-- What a throw in the constructor of a device is caught with: the connection is closed, and the
two other managers are lost. -/
def abandon (socket : ℕ) (exception : Exception) (push_manager file_watcher_receiver : Option ℕ) :
    Program ConnectionEnd := do
  close socket
  return .threw exception push_manager file_watcher_receiver

def sendFailed : Exception :=
  .runtime_error "Failed to send packet on CommandManager"

def threadFailed : Exception :=
  .runtime_error "Resource temporarily unavailable"

/-- The calls that the threads of a device make until they have ended. -/
def runThreads (sockets : DeviceManager → ℕ) : List ThreadCall → Program Unit
  | [] => return ()
  | .manager manager :: calls => do
      let _ ← transfer (sockets manager)
      runThreads sockets calls
  | .backup index :: calls => do
      let _ ← transferToBackup index
      runThreads sockets calls

/-- `Device::start` and, in `removeDevice`, `Device::stop`. -/
def start (sockets : DeviceManager → ℕ) (threads : DeviceThreads) : Program ConnectionEnd := do
  match threads.creation with
  | .all =>
      runThreads sockets threads.calls
      closeConnection (sockets .command)
      closeConnection (sockets .push)
      closeConnection (sockets .watcher)
      return .removed
  | .failed =>
      abandon (sockets .command) threadFailed (some (sockets .push)) (some (sockets .watcher))
  | .interrupted earlier =>
      runThreads sockets earlier
      close (sockets .command)
      runThreads sockets threads.calls
      return .threw threadFailed (some (sockets .push)) (some (sockets .watcher))

def socketsOf (socket push_manager file_watcher_receiver : ℕ) : DeviceManager → ℕ
  | .command => socket
  | .push => push_manager
  | .watcher => file_watcher_receiver

/-- The constructor of a device from the first `acceptConnection` on, and its threads. -/
def acceptBoth (socket push_listener watcher_listener : ℕ) (threads : DeviceThreads) :
    Program ConnectionEnd := do
  match ← acceptConnection push_listener with
  | .error exception => abandon socket exception (some push_listener) (some watcher_listener)
  | .ok push_manager =>
      match ← acceptConnection watcher_listener with
      | .error exception => abandon socket exception (some push_manager) (some watcher_listener)
      | .ok file_watcher_receiver =>
          start (socketsOf socket push_manager file_watcher_receiver) threads

/-- The constructor of a device from the second `createAndSetupSocket` on. -/
def setupWatcher (socket push_listener : ℕ) (threads : DeviceThreads) :
    Program ConnectionEnd := do
  match ← createAndSetupSocket with
  | .error exception => abandon socket exception (some push_listener) none
  | .ok (watcher_listener, _) =>
      if (← transfer socket) = false then
        abandon socket sendFailed (some push_listener) (some watcher_listener)
      else acceptBoth socket push_listener watcher_listener threads

/-- `handle_new_connection`, with the outcome of its test. -/
def handle_new_connection (socket : ℕ) (atLimit : Bool) (threads : DeviceThreads) :
    Program ConnectionEnd := do
  if atLimit then
    if ← transfer socket then closeConnection socket else close socket
    return .refused
  else
    match ← createAndSetupSocket with
    | .error exception => abandon socket exception none none
    | .ok (push_listener, _) =>
        if (← transfer socket) = false then abandon socket sendFailed (some push_listener) none
        else setupWatcher socket push_listener threads

/-! ### The functions as they change one network manager -/

/-- A call with the answer of an oracle, on the descriptors as one object sees them. -/
def interpret (oracle : (call : SocketCall) → call.Answer)
    (descriptors : HandleTable.Table ℕ Holder) (call : SocketCall) :
    call.Answer × HandleTable.Table ℕ Holder :=
  (oracle call, effects.settle call (oracle call) .this descriptors)

def setupOracle (answers : SetupAnswers) : (call : SocketCall) → call.Answer
  | .socket => answers.socket
  | .bind _ => answers.bind
  | .listen _ => answers.listen
  | .getsockname _ => answers.getsockname
  | .accept _ => none
  | .transfer _ | .transferToBackup _ => true
  | .shutdown _ | .close _ => ()

def acceptOracle (port client : Option ℕ) : (call : SocketCall) → call.Answer
  | .getsockname _ => port
  | .accept _ => client
  | .socket => none
  | .bind _ | .listen _ | .transfer _ | .transferToBackup _ => true
  | .shutdown _ | .close _ => ()

theorem createAndSetupSocket_run (manager : ManagedSocket) (answers : SetupAnswers) :
    let ran := Resumption.run (interpret (setupOracle answers)) manager.descriptors
      createAndSetupSocket
    manager.createAndSetupSocket answers = (ran.1.map Prod.snd,
      { socket_fd := ran.1.toOption.elim manager.socket_fd fun opened => some opened.1
        descriptors := ran.2 }) := by
  rcases answers with ⟨_ | fd, bound, listening, port⟩
  · rfl
  · cases bound <;> cases listening <;> cases port <;> rfl

theorem acceptConnection_run {manager : ManagedSocket} {socket_fd : ℕ}
    (listens : manager.socket_fd = some socket_fd) (port client : Option ℕ) :
    let ran := Resumption.run (interpret (acceptOracle port client)) manager.descriptors
      (acceptConnection socket_fd)
    manager.acceptConnection port.isSome client = (ran.1.map fun _ => (),
      { socket_fd := ran.1.toOption.elim manager.socket_fd some
        descriptors := ran.2 }) := by
  rw [ManagedSocket.acceptConnection, listens]
  cases port with
  | none => cases manager; cases listens; rfl
  | some port =>
      cases client with
      | none => cases manager; cases listens; rfl
      | some client => rfl

/-! ### What the functions do to descriptors -/

section

variable {Result : Type} {post : Result → Set ℕ → Prop} {held : Set ℕ} {fd : ℕ}

theorem keeps_transfer {rest : Bool → Program Result} (owned : fd ∈ held)
    (continues : ∀ succeeds, effects.Keeps post (rest succeeds) held) :
    effects.Keeps post (transfer fd >>= rest) held :=
  keeps_query rfl (fun _ => rfl) (by rintro _ ⟨⟩; exact owned) continues

theorem keeps_transferToBackup {index : ℕ} {rest : Bool → Program Result}
    (continues : ∀ succeeds, effects.Keeps post (rest succeeds) held) :
    effects.Keeps post (transferToBackup index >>= rest) held :=
  keeps_query rfl (fun _ => rfl) nofun continues

theorem keeps_bind {rest : Bool → Program Result} (owned : fd ∈ held)
    (continues : ∀ succeeds, effects.Keeps post (rest succeeds) held) :
    effects.Keeps post (bind fd >>= rest) held :=
  keeps_query rfl (fun _ => rfl) (by rintro _ ⟨⟩; exact owned) continues

theorem keeps_listen {rest : Bool → Program Result} (owned : fd ∈ held)
    (continues : ∀ succeeds, effects.Keeps post (rest succeeds) held) :
    effects.Keeps post (listen fd >>= rest) held :=
  keeps_query rfl (fun _ => rfl) (by rintro _ ⟨⟩; exact owned) continues

theorem keeps_getsockname {rest : Option ℕ → Program Result} (owned : fd ∈ held)
    (continues : ∀ port, effects.Keeps post (rest port) held) :
    effects.Keeps post (getsockname fd >>= rest) held :=
  keeps_query rfl (fun _ => rfl) (by rintro _ ⟨⟩; exact owned) continues

theorem keeps_socket {rest : Option ℕ → Program Result}
    (fails : effects.Keeps post (rest none) held)
    (opens : ∀ fd, fd ∉ held → effects.Keeps post (rest (some fd)) (insert fd held)) :
    effects.Keeps post (socket >>= rest) held := by
  refine keeps_open rfl nofun ?_ ?_
  · rintro _ ⟨⟩
    exact fails
  · rintro _ fd ⟨⟩ new
    exact opens fd new

theorem keeps_accept {rest : Option ℕ → Program Result} (owned : fd ∈ held)
    (fails : effects.Keeps post (rest none) held)
    (opens : ∀ fd, fd ∉ held → effects.Keeps post (rest (some fd)) (insert fd held)) :
    effects.Keeps post (accept fd >>= rest) held := by
  refine keeps_open rfl (by rintro _ ⟨⟩; exact owned) ?_ ?_
  · rintro _ ⟨⟩
    exact fails
  · rintro _ fd ⟨⟩ new
    exact opens fd new

theorem keeps_close {rest : Unit → Program Result} (owned : fd ∈ held)
    (continues : effects.Keeps post (rest ()) (held \ {fd})) :
    effects.Keeps post (close fd >>= rest) held :=
  Custody.keeps_close rfl rfl (fun _ => rfl) owned fun _ => continues

theorem keeps_closeConnection {rest : Unit → Program Result} (owned : fd ∈ held)
    (continues : effects.Keeps post (rest ()) (held \ {fd})) :
    effects.Keeps post (closeConnection fd >>= rest) held := by
  refine keeps_query rfl (fun _ => rfl) (by rintro _ ⟨⟩; exact owned) ?_
  intro _
  exact keeps_close owned continues

end

/-- A new descriptor beside those of the frame, or nothing after a throw. -/
def SetUp (frame : Set ℕ) : Except Exception (ℕ × ℕ) → Set ℕ → Prop
  | .ok (listen_socket_fd, _), held =>
      listen_socket_fd ∉ frame ∧ held = insert listen_socket_fd frame
  | .error _, held => held = frame

theorem keeps_createAndSetupSocket_empty : effects.Keeps (SetUp ∅) createAndSetupSocket ∅ := by
  have closed (listen_socket_fd : ℕ) (exception : Exception) :
      effects.Keeps (SetUp ∅) (close listen_socket_fd >>= fun _ => pure (.error exception))
        {listen_socket_fd} := by
    apply keeps_close (Set.mem_singleton _)
    rw [Set.sdiff_self]
    rfl
  apply keeps_socket
  · rfl
  · intro listen_socket_fd _
    rw [insert_empty_eq]
    apply keeps_bind (Set.mem_singleton _)
    intro bound
    cases bound with
    | false => exact closed listen_socket_fd _
    | true =>
        apply keeps_listen (Set.mem_singleton _)
        intro listening
        cases listening with
        | false => exact closed listen_socket_fd _
        | true =>
            apply keeps_getsockname (Set.mem_singleton _)
            intro port
            cases port with
            | none => exact closed listen_socket_fd _
            | some port => exact ⟨id, (insert_empty_eq _).symm⟩

theorem keeps_createAndSetupSocket (frame : Set ℕ) :
    effects.Keeps (SetUp frame) createAndSetupSocket frame := by
  have framed := keeps_createAndSetupSocket_empty.frame (Set.empty_disjoint frame)
  rw [Set.empty_union] at framed
  apply framed.mono
  rintro (exception | ⟨listen_socket_fd, port⟩) held ⟨own, rfl, apart, opened⟩
  · obtain rfl : own = ∅ := opened
    exact Set.empty_union frame
  · obtain ⟨-, rfl⟩ := opened
    exact ⟨by simpa using apart, by simp⟩

/-- The connection in the place of the listening socket, which stays after a throw. -/
def Accepted (frame : Set ℕ) (socket_fd : ℕ) : Except Exception ℕ → Set ℕ → Prop
  | .ok client_socket_fd, held => client_socket_fd ∉ frame ∧ held = insert client_socket_fd frame
  | .error _, held => held = insert socket_fd frame

theorem keeps_acceptConnection_empty (socket_fd : ℕ) :
    effects.Keeps (Accepted ∅ socket_fd) (acceptConnection socket_fd) {socket_fd} := by
  apply keeps_getsockname (Set.mem_singleton _)
  intro port
  cases port with
  | none => exact (insert_empty_eq socket_fd).symm
  | some port =>
      apply keeps_accept (Set.mem_singleton _)
      · exact (insert_empty_eq socket_fd).symm
      · intro client_socket_fd new
        apply keeps_close (Set.mem_insert_of_mem _ (Set.mem_singleton _))
        refine ⟨id, ?_⟩
        have different : client_socket_fd ∉ ({socket_fd} : Set ℕ) := new
        rw [Set.insert_sdiff_of_notMem _ different, Set.sdiff_self]

theorem keeps_acceptConnection {frame : Set ℕ} {socket_fd : ℕ} (apart : socket_fd ∉ frame) :
    effects.Keeps (Accepted frame socket_fd) (acceptConnection socket_fd)
      (insert socket_fd frame) := by
  have framed := (keeps_acceptConnection_empty socket_fd).frame
    (Set.disjoint_singleton_left.mpr apart)
  rw [Set.singleton_union] at framed
  apply framed.mono
  rintro (exception | client_socket_fd) held ⟨own, rfl, own_apart, accepted⟩
  · obtain rfl : own = insert socket_fd ∅ := accepted
    simp [Accepted]
  · obtain ⟨-, rfl⟩ := accepted
    exact ⟨by simpa using own_apart, by simp⟩

/-! ### A connection from its beginning to its end -/

/-- What is still open is what is left behind, and each descriptor is left behind once. -/
def Leaves (ending : ConnectionEnd) (held : Set ℕ) : Prop :=
  held = {fd | fd ∈ ending.remaining} ∧ ending.remaining.Nodup

theorem keeps_abandon {socket : ℕ} {exception : Exception}
    {push_manager file_watcher_receiver : Option ℕ} {held : Set ℕ}
    (exactly : held =
      insert socket {fd | fd ∈ push_manager.toList ++ file_watcher_receiver.toList})
    (distinct : (socket :: (push_manager.toList ++ file_watcher_receiver.toList)).Nodup) :
    effects.Keeps Leaves (abandon socket exception push_manager file_watcher_receiver) held := by
  rcases List.nodup_cons.mp distinct with ⟨apart, others⟩
  rw [exactly]
  apply keeps_close (Set.mem_insert _ _)
  refine ⟨?_, others⟩
  rw [Set.insert_sdiff_of_mem _ (Set.mem_singleton socket)]
  exact Set.sdiff_singleton_eq_self apart

theorem eq_insert_one (first socket : ℕ) : ({first, socket} : Set ℕ) =
    insert socket {fd | fd ∈ (some first).toList ++ (none : Option ℕ).toList} := by
  ext fd
  simp [or_comm]

theorem eq_insert_two (first second socket : ℕ) : ({first, second, socket} : Set ℕ) =
    insert socket {fd | fd ∈ (some first).toList ++ (some second).toList} := by
  ext fd
  simp only [Set.mem_insert_iff, Set.mem_singleton_iff, Option.toList_some, List.cons_append,
    List.nil_append, Set.mem_ofPred_eq, List.mem_cons, List.not_mem_nil, or_false]
  tauto

theorem nodup_two {first second socket : ℕ} (firstApart : first ≠ second ∧ first ≠ socket)
    (secondApart : second ≠ socket) :
    (socket :: ((some first).toList ++ (some second).toList)).Nodup := by
  simp [firstApart, Ne.symm firstApart.2, Ne.symm secondApart]

theorem keeps_runThreads {sockets : DeviceManager → ℕ} {held : Set ℕ}
    (owned : ∀ manager, sockets manager ∈ held) (calls : List ThreadCall) :
    effects.Keeps (fun _ remaining => remaining = held) (runThreads sockets calls) held := by
  induction calls with
  | nil => rfl
  | cons call calls ih =>
      cases call with
      | manager manager =>
          apply keeps_transfer (owned manager)
          intro _
          exact ih
      | backup index =>
          apply keeps_transferToBackup
          intro _
          exact ih

theorem keeps_start {sockets : DeviceManager → ℕ} (distinct : Function.Injective sockets)
    {threads : DeviceThreads} (settled : threads.Settled) :
    effects.Keeps Leaves (start sockets threads)
      {sockets .command, sockets .push, sockets .watcher} := by
  have apart {first second : DeviceManager} (different : first ≠ second) :
      sockets first ≠ sockets second := distinct.ne different
  rw [start]
  cases creation : threads.creation with
  | all =>
      apply (keeps_runThreads (fun manager => by cases manager <;> simp) threads.calls).bind
      rintro _ _ rfl
      apply keeps_closeConnection (Set.mem_insert _ _)
      apply keeps_closeConnection
      · simp [apart]
      · apply keeps_closeConnection
        · simp [apart]
        · refine ⟨?_, List.nodup_nil⟩
          ext fd
          simp [ConnectionEnd.remaining]
          tauto
  | failed =>
      apply keeps_abandon
      · ext fd
        simp
      · simp [apart]
  | interrupted earlier => exact absurd creation (settled earlier)

theorem keeps_acceptBoth {socket push_listener watcher_listener : ℕ}
    (pushApart : push_listener ≠ watcher_listener ∧ push_listener ≠ socket)
    (watcherApart : watcher_listener ≠ socket) {threads : DeviceThreads}
    (settled : threads.Settled) :
    effects.Keeps Leaves (acceptBoth socket push_listener watcher_listener threads)
      {push_listener, watcher_listener, socket} := by
  apply (keeps_acceptConnection (by simpa using pushApart)).bind
  rintro (exception | push_manager) held accepted
  · obtain rfl : held = {push_listener, watcher_listener, socket} := accepted
    exact keeps_abandon (eq_insert_two ..) (nodup_two pushApart watcherApart)
  · obtain ⟨new, rfl⟩ := accepted
    have apart : push_manager ≠ watcher_listener ∧ push_manager ≠ socket := by simpa using new
    rw [Set.insert_comm]
    apply (keeps_acceptConnection (by simp [watcherApart, Ne.symm apart.1])).bind
    rintro (exception | file_watcher_receiver) held accepted
    · obtain rfl : held = {watcher_listener, push_manager, socket} := accepted
      rw [Set.insert_comm]
      exact keeps_abandon (eq_insert_two ..) (nodup_two apart watcherApart)
    · obtain ⟨fresh, rfl⟩ := accepted
      have last : file_watcher_receiver ≠ push_manager ∧ file_watcher_receiver ≠ socket := by
        simpa using fresh
      have distinct : Function.Injective
          (socketsOf socket push_manager file_watcher_receiver) := by
        intro first second same
        cases first <;> cases second <;> simp_all [socketsOf, eq_comm]
      rw [Set.insert_comm, Set.pair_comm file_watcher_receiver, Set.insert_comm]
      exact keeps_start distinct settled

theorem keeps_setupWatcher {socket push_listener : ℕ} (apart : push_listener ≠ socket)
    {threads : DeviceThreads}
    (settled : threads.Settled) :
    effects.Keeps Leaves (setupWatcher socket push_listener threads) {push_listener, socket} := by
  apply (keeps_createAndSetupSocket _).bind
  rintro (exception | ⟨watcher_listener, port⟩) held opened
  · obtain rfl : held = {push_listener, socket} := opened
    exact keeps_abandon (eq_insert_one ..) (by simpa [eq_comm] using apart)
  · obtain ⟨new, rfl⟩ := opened
    have watcherApart : watcher_listener ≠ push_listener ∧ watcher_listener ≠ socket := by
      simpa using new
    have pushApart := And.intro (Ne.symm watcherApart.1) apart
    rw [Set.insert_comm]
    apply keeps_transfer (by simp)
    intro sent
    cases sent with
    | false => exact keeps_abandon (eq_insert_two ..) (nodup_two pushApart watcherApart.2)
    | true => exact keeps_acceptBoth pushApart watcherApart.2 settled

theorem keeps_handle_new_connection (socket : ℕ) (atLimit : Bool) {threads : DeviceThreads}
    (settled : threads.Settled) :
    effects.Keeps Leaves (handle_new_connection socket atLimit threads) {socket} := by
  cases atLimit with
  | true =>
      have closed : effects.Keeps Leaves (pure ConnectionEnd.refused)
          (({socket} : Set ℕ) \ {socket}) := by
        refine ⟨?_, List.nodup_nil⟩
        rw [Set.sdiff_self]
        simp [ConnectionEnd.remaining]
      apply keeps_transfer (Set.mem_singleton _)
      intro sent
      cases sent with
      | true => exact keeps_closeConnection (Set.mem_singleton _) closed
      | false => exact keeps_close (Set.mem_singleton _) closed
  | false =>
      apply (keeps_createAndSetupSocket _).bind
      rintro (exception | ⟨push_listener, port⟩) held opened
      · obtain rfl : held = {socket} := opened
        apply keeps_abandon
        · simp
        · simp
      · obtain ⟨apart, rfl⟩ := opened
        apply keeps_transfer (by simp)
        intro sent
        cases sent with
        | false => exact keeps_abandon (eq_insert_one ..) (by simpa [eq_comm] using apart)
        | true => exact keeps_setupWatcher (by simpa using apart) settled

end Connection

/-! ### All connections of a server -/

/-- A connection with the descriptor that `accept` has returned, by its first packet. -/
inductive FirstPacket
  | client (atLimit : Bool) (threads : DeviceThreads)
  | peer
  | other

inductive DescriptorEvent
  | accepted (connection fd : ℕ) (first : FirstPacket)
  /-- The next call of a connection. -/
  | performs (connection : ℕ) (oracle : (call : SocketCall) → call.Answer)

/-- The descriptors of the process, and the connections that `Server::run` has accepted. -/
abbrev Descriptors := Process SocketCall SocketCall.Answer ℕ ConnectionEnd ℕ

namespace Descriptors

open SocketCall (effects)

/-- All descriptors that are open before `Server::run` are left out. -/
def start : Descriptors where
  table _ := none
  threads _ := .done .unstarted

/-- What is done with a connection after its first packet. -/
def handle (fd : ℕ) : FirstPacket → Connection.Program ConnectionEnd
  | .client atLimit threads => Connection.handle_new_connection fd atLimit threads
  | .peer => .done (.peer fd)
  | .other => .done (.ignored fd)

def step (descriptors : Descriptors) : DescriptorEvent → Option Descriptors
  | .accepted connection fd first =>
      match descriptors.threads connection, descriptors.table fd with
      | .done .unstarted, none => some (descriptors.spawn connection fd (handle fd first))
      | _, _ => none
  | .performs connection oracle => effects.advance descriptors connection oracle

variable {descriptors next : Descriptors}

def Sound (descriptors : Descriptors) : Prop :=
  Kept effects (fun _ => Connection.Leaves) descriptors

theorem sound_start : start.Sound := by
  intro connection
  refine ⟨?_, List.nodup_nil⟩
  ext fd
  simp [held, start, ConnectionEnd.remaining]

/-- The threads of a device can be created, or not even the first. -/
def Creates (_descriptors : Descriptors) : DescriptorEvent → Prop
  | .accepted _ _ (.client _ threads) => threads.Settled
  | _ => True

theorem keeps_handle (fd : ℕ) {first : FirstPacket}
    (creates : ∀ atLimit threads, first = .client atLimit threads → threads.Settled) :
    effects.Keeps Connection.Leaves (handle fd first) {fd} := by
  have single : ({fd} : Set ℕ) = {asked | asked ∈ [fd]} := by
    ext asked
    simp
  cases first with
  | client atLimit threads =>
      exact Connection.keeps_handle_new_connection fd atLimit (creates atLimit threads rfl)
  | peer => exact ⟨single, by simp [ConnectionEnd.remaining]⟩
  | other => exact ⟨single, by simp [ConnectionEnd.remaining]⟩

theorem Sound.step (sound : descriptors.Sound) {event : DescriptorEvent}
    (creates : descriptors.Creates event) (performed : descriptors.step event = some next) :
    next.Sound := by
  cases event with
  | accepted connection fd first =>
      simp only [Descriptors.step] at performed
      split at performed
      case h_1 fresh free =>
        cases performed
        have empty : held descriptors.table connection = ∅ := by
          rw [(Kept.ended sound fresh).1]
          simp [ConnectionEnd.remaining]
        apply Kept.spawn sound empty free (keeps_handle fd _)
        rintro atLimit threads rfl
        exact creates
      case h_2 => cases performed
  | performs connection oracle => exact Kept.advance sound performed

/-- In every run, a connection refers, apart from the sockets to the backups, only to descriptors
that are open and its own, so that none is closed twice or in the place of another one.  When its
handling has ended, it has left open exactly the descriptors that its end tells: none, if its
device has been removed. -/
theorem owned_and_left (reached : Reachable step Creates start descriptors) :
    (∀ connection call rest, descriptors.threads connection = .perform call rest →
      ∀ fd, effects.refers call = some fd → descriptors.table fd = some connection) ∧
    ∀ connection ending, descriptors.threads connection = .done ending →
      ending.remaining.Nodup ∧
        ∀ fd, descriptors.table fd = some connection ↔ fd ∈ ending.remaining := by
  have sound : descriptors.Sound := by
    apply reached.invariant sound_start
    intro _ _ _ sound creates performed
    exact sound.step creates performed
  refine ⟨?_, ?_⟩
  · intro connection call rest program fd refers
    exact Kept.owned sound program refers
  · intro connection ending program
    rcases Kept.ended sound program with ⟨exactly, distinct⟩
    refine ⟨distinct, fun fd => ?_⟩
    change fd ∈ held descriptors.table connection ↔ _
    rw [exactly]
    rfl

/-- Everything succeeds but `accept`; a new socket gets the number. -/
def nobodyConnects (fd : ℕ) : (call : SocketCall) → call.Answer
  | .socket => some fd
  | .bind _ | .listen _ | .transfer _ | .transferToBackup _ => true
  | .getsockname _ => some 4000
  | .accept _ => none
  | .shutdown _ | .close _ => ()

/-- A client that is gone before it connects to the ports leaves two sockets open, and its own
descriptor is given to the next connection. -/
def goneClient : List DescriptorEvent :=
  .accepted 0 4 (.client false { creation := .all, calls := [] }) ::
    List.replicate 5 (.performs 0 (nobodyConnects 5)) ++
    List.replicate 8 (.performs 0 (nobodyConnects 6)) ++ [.accepted 1 4 .other]

theorem owned_and_left_goneClient :
    ∃ descriptors, run step start goneClient = some descriptors ∧
      (∀ fd, descriptors.table fd = some 0 ↔ fd ∈ [5, 6]) ∧
        ∀ fd, descriptors.table fd = some 1 ↔ fd ∈ [4] := by
  have performed : (run step start goneClient).map (fun descriptors =>
      (descriptors.threads 0, descriptors.threads 1)) =
        some (.done (.threw (.runtime_error "Falha ao aceitar conexão do cliente") (some 5)
          (some 6)), .done (.ignored 4)) := rfl
  rcases Option.map_eq_some_iff.mp performed with ⟨descriptors, ran, ended⟩
  rcases Prod.mk.inj ended with ⟨first, second⟩
  have creates : ∀ event ∈ goneClient, ∀ descriptors : Descriptors,
      descriptors.Creates event := by
    simp [goneClient, Creates, DeviceThreads.Settled]
  have reached : Reachable step Creates start descriptors := .of_run creates .start ran
  exact ⟨descriptors, ran, ((owned_and_left reached).2 0 _ first).2,
    ((owned_and_left reached).2 1 _ second).2⟩

end Descriptors

end SyncDir
