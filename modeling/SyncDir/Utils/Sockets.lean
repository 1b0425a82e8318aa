import SyncDir.Library.HandleTable
import SyncDir.Library.Transition
import SyncDir.Utils.NetworkManager

/-!
# The socket of a network manager

A `NetworkManager` has one socket descriptor, or -1.  The system calls of its functions can fail at
every point, and the functions throw then.  The numbers of the descriptors are given out by the
process, which gives a number to somebody else when it has been closed.

When `connectTo` fails, it closes the socket that it has opened, but keeps its number.
-/

namespace SyncDir

open HandleTable Transition

inductive Holder
  | this
  | others
  deriving DecidableEq

structure ManagedSocket where
  /-- `none` is -1. -/
  socket_fd : Option ℕ
  descriptors : Table ℕ Holder

/-- What the system calls of `createAndSetupSocket` return; the port is found by `getsockname`. -/
structure SetupAnswers where
  socket : Option ℕ
  bind : Bool
  listen : Bool
  getsockname : Option ℕ

namespace ManagedSocket

/-- `NetworkManager(name)`, with the descriptors that the process has open. -/
def created (isOpen : ℕ → Bool) : ManagedSocket where
  socket_fd := none
  descriptors := fun fd => if isOpen fd then some .others else none

/-- `close` of a descriptor, whoever has opened it. -/
def close (manager : ManagedSocket) (fd : ℕ) : ManagedSocket :=
  { manager with descriptors := release manager.descriptors fd }

def opened (manager : ManagedSocket) (fd : ℕ) : ManagedSocket :=
  { manager with descriptors := acquire manager.descriptors fd .this }

def createAndSetupSocket (manager : ManagedSocket) (answers : SetupAnswers) :
    Except Exception ℕ × ManagedSocket :=
  match answers.socket with
  | none => (.error (.runtime_error "Falha ao criar socket de escuta"), manager)
  | some listen_socket_fd =>
      let listening := manager.opened listen_socket_fd
      if answers.bind = false then
        (.error (.runtime_error "Falha ao fazer bind no socket"),
          listening.close listen_socket_fd)
      else if answers.listen = false then
        (.error (.runtime_error "Falha ao fazer listen no socket"),
          listening.close listen_socket_fd)
      else
        match answers.getsockname with
        | none =>
            (.error (.runtime_error "Falha ao obter informações do socket"),
              listening.close listen_socket_fd)
        | some port => (.ok port, { listening with socket_fd := some listen_socket_fd })

def acceptConnection (manager : ManagedSocket) (getsockname : Bool) (accept : Option ℕ) :
    Except Exception Unit × ManagedSocket :=
  match manager.socket_fd with
  | none => (.error (.runtime_error "Socket não inicializado para aceitar conexões"), manager)
  | some listen_socket_fd =>
      if getsockname = false then
        (.error (.runtime_error "Falha ao obter informações do socket"), manager)
      else
        match accept with
        | none => (.error (.runtime_error "Falha ao aceitar conexão do cliente"), manager)
        | some client_socket_fd =>
            (.ok (), { (manager.opened client_socket_fd).close listen_socket_fd with
              socket_fd := some client_socket_fd })

def closeSocket (manager : ManagedSocket) : ManagedSocket :=
  match manager.socket_fd with
  | none => manager
  | some fd => { manager.close fd with socket_fd := none }

/-- `closeConnection`; the `shutdown` before leaves the descriptor open. -/
def closeConnection (manager : ManagedSocket) : ManagedSocket :=
  match manager.socket_fd with
  | none => manager
  | some fd => { manager.close fd with socket_fd := none }

def connectTo (manager : ManagedSocket) (socket : Option ℕ) (inet_pton connect : Bool) :
    Except Exception Unit × ManagedSocket :=
  match manager.socket_fd, socket with
  | some _, _ => (.error (.runtime_error "Socket already initialized"), manager)
  | none, none => (.error (.runtime_error "Failed to create socket"), manager)
  | none, some fd =>
      let connecting := { manager.opened fd with socket_fd := some fd }
      if inet_pton = false then
        (.error (.runtime_error "Invalid IP address"), connecting.close fd)
      else if connect = false then
        (.error (.runtime_error "Failed to connect to server"), connecting.close fd)
      else
        (.ok (), connecting)

def checkSocketInitialized (manager : ManagedSocket) : Except Exception Unit :=
  if manager.socket_fd = none then .error (.runtime_error "Socket not initialized") else .ok ()

/-- `sendPacket` leaves the descriptors as they are; what it sends is the subject of
`SyncDir.Utils.Framing`. -/
def sendPacket (manager : ManagedSocket) (sent : Except Exception Unit) :
    Except Exception Unit × ManagedSocket :=
  (manager.checkSocketInitialized >>= fun _ => sent, manager)

def receivePacket (manager : ManagedSocket) (received : Except Exception Packet) :
    Except Exception Packet × ManagedSocket :=
  (manager.checkSocketInitialized >>= fun _ => received, manager)

end ManagedSocket

/-- A call with what its system calls return, or what others do to the descriptors. -/
inductive SocketEvent
  | createAndSetupSocket (answers : SetupAnswers)
  | connectTo (socket : Option ℕ) (inet_pton connect : Bool)
  | acceptConnection (getsockname : Bool) (accept : Option ℕ)
  | closeSocket
  | closeConnection
  | sendPacket (sent : Except Exception Unit)
  | receivePacket (received : Except Exception Packet)
  | othersOpen (fd : ℕ)
  | othersClose (fd : ℕ)

/-- The descriptor that the process gives out. -/
def SocketEvent.newDescriptor : SocketEvent → Option ℕ
  | createAndSetupSocket answers => answers.socket
  | connectTo socket _ _ => socket
  | acceptConnection _ accept => accept
  | othersOpen fd => some fd
  | closeSocket | closeConnection | sendPacket _ | receivePacket _ | othersClose _ => none

namespace ManagedSocket

/-- The state after an event, whether a call has returned or thrown. -/
def after (manager : ManagedSocket) : SocketEvent → ManagedSocket
  | .createAndSetupSocket answers => (manager.createAndSetupSocket answers).2
  | .connectTo socket inet_pton connect => (manager.connectTo socket inet_pton connect).2
  | .acceptConnection getsockname accept => (manager.acceptConnection getsockname accept).2
  | .closeSocket => manager.closeSocket
  | .closeConnection => manager.closeConnection
  | .sendPacket sent => (manager.sendPacket sent).2
  | .receivePacket received => (manager.receivePacket received).2
  | .othersOpen fd => { manager with descriptors := acquire manager.descriptors fd .others }
  | .othersClose fd =>
      if manager.descriptors fd = some .others then manager.close fd else manager

/-- The process gives out only descriptors that are not open. -/
def step (manager : ManagedSocket) (event : SocketEvent) : Option ManagedSocket :=
  if event.newDescriptor.all fun fd => (manager.descriptors fd).isNone then
    some (manager.after event)
  else none

/-- `socket_fd` is -1, or a descriptor that this object has opened and not closed since. -/
def Sound (manager : ManagedSocket) : Prop :=
  Valid manager.descriptors .this manager.socket_fd

/-- If `connectTo` opens a socket, it connects it. -/
def Connects (manager : ManagedSocket) : SocketEvent → Prop
  | .connectTo (some _) inet_pton connect =>
      manager.socket_fd = none → inet_pton = true ∧ connect = true
  | _ => True

section

variable {manager : ManagedSocket}

theorem close_opened {fd : ℕ} (free : manager.descriptors fd = none) :
    (manager.opened fd).close fd = manager := by
  rw [close, opened]
  simp only [release_acquire free]

theorem Sound.createAndSetupSocket (sound : manager.Sound) {answers : SetupAnswers}
    (free : ∀ fd, answers.socket = some fd → manager.descriptors fd = none) :
    (manager.createAndSetupSocket answers).2.Sound := by
  rw [ManagedSocket.createAndSetupSocket]
  cases opens : answers.socket with
  | none => exact sound
  | some listen_socket_fd =>
      have closed := close_opened (free listen_socket_fd opens)
      simp only [closed]
      split_ifs
      · exact sound
      · exact sound
      · cases answers.getsockname with
        | none => exact sound
        | some port => exact valid_acquire

theorem Sound.acceptConnection (sound : manager.Sound) {getsockname : Bool} {accept : Option ℕ}
    (free : ∀ fd, accept = some fd → manager.descriptors fd = none) :
    (manager.acceptConnection getsockname accept).2.Sound := by
  rw [ManagedSocket.acceptConnection]
  cases listens : manager.socket_fd with
  | none => exact sound
  | some listen_socket_fd =>
      simp only
      split_ifs
      · exact sound
      · cases accept with
        | none => exact sound
        | some client_socket_fd =>
            have held := sound listen_socket_fd listens
            refine valid_acquire.release ?_
            intro same
            cases same
            rw [free _ rfl] at held
            cases held

theorem Sound.closeSocket : manager.Sound → manager.closeSocket.Sound := by
  intro sound
  rw [ManagedSocket.closeSocket]
  cases manager.socket_fd with
  | none => exact sound
  | some fd => exact valid_none

/-- After a failure, the descriptor is closed but still referred to. -/
theorem sound_connectTo_iff (sound : manager.Sound) (socket : Option ℕ)
    (inet_pton connect : Bool) :
    (manager.connectTo socket inet_pton connect).2.Sound ↔
      manager.Connects (.connectTo socket inet_pton connect) := by
  unfold connectTo
  cases connected : manager.socket_fd with
  | some fd =>
      refine iff_of_true sound ?_
      cases socket with
      | none => trivial
      | some fd => exact fun unconnected => nomatch connected.symm.trans unconnected
  | none =>
      cases socket with
      | none => exact iff_of_true sound trivial
      | some fd =>
          simp only
          split_ifs with invalid refused
          · refine iff_of_false not_valid_release fun connects => ?_
            cases invalid.symm.trans (connects connected).1
          · refine iff_of_false not_valid_release fun connects => ?_
            cases refused.symm.trans (connects connected).2
          · refine iff_of_true valid_acquire fun _ => ?_
            exact ⟨Bool.eq_true_of_not_eq_false invalid, Bool.eq_true_of_not_eq_false refused⟩

theorem sound_step_iff {next : ManagedSocket} {event : SocketEvent} (sound : manager.Sound)
    (performed : manager.step event = some next) : next.Sound ↔ manager.Connects event := by
  rcases Option.ite_none_right_eq_some.mp performed with ⟨fresh, same⟩
  have free {fd : ℕ} (given : event.newDescriptor = some fd) : manager.descriptors fd = none := by
    rw [given] at fresh
    exact Option.isNone_iff_eq_none.mp fresh
  cases same
  cases event with
  | createAndSetupSocket answers =>
      exact iff_of_true (sound.createAndSetupSocket fun _ => free) trivial
  | connectTo socket inet_pton connect =>
      exact sound_connectTo_iff sound socket inet_pton connect
  | acceptConnection getsockname accept =>
      exact iff_of_true (sound.acceptConnection fun _ => free) trivial
  | closeSocket => exact iff_of_true sound.closeSocket trivial
  | closeConnection => exact iff_of_true sound.closeSocket trivial
  | sendPacket sent => exact iff_of_true sound trivial
  | receivePacket received => exact iff_of_true sound trivial
  | othersOpen fd => exact iff_of_true (Valid.acquire sound (free rfl)) trivial
  | othersClose fd =>
      refine iff_of_true ?_ trivial
      rw [after]
      split_ifs with held
      · exact Valid.release sound (Valid.ne_some sound held (by decide))
      · exact sound

end

/-- After every call of a run, `socket_fd` is -1 or a descriptor that the object has opened and not
closed, exactly if no `connectTo` fails with a socket that it has opened. -/
theorem sound_run_iff {isOpen : ℕ → Bool} {events : List SocketEvent} {last : ManagedSocket}
    (performed : run step (created isOpen) events = some last) :
    (∀ manager ∈ visited step (created isOpen) events, manager.Sound) ↔
      Permits step Connects (created isOpen) events := by
  apply visited_iff_permits _ _ performed
  · intro manager event next sound performed
    exact sound_step_iff sound performed
  · exact valid_none

def serveOnce : List SocketEvent :=
  [.createAndSetupSocket
      { socket := some 3, bind := true, listen := true, getsockname := some 4000 },
    .acceptConnection true (some 4), .sendPacket (.ok ()), .closeConnection]

theorem sound_run_iff_serveOnce :
    ∃ last, run step (created fun _ => false) serveOnce = some last ∧
      ∀ manager ∈ visited step (created fun _ => false) serveOnce, manager.Sound := by
  have performed : (run step (created fun _ => false) serveOnce).isSome = true := by decide
  rcases Option.isSome_iff_exists.mp performed with ⟨last, reached⟩
  refine ⟨last, reached, (sound_run_iff reached).mpr ⟨trivial, ?_⟩⟩
  intro _ _
  refine ⟨trivial, ?_⟩
  intro _ _
  exact ⟨trivial, fun _ _ => ⟨trivial, fun _ _ => trivial⟩⟩

/-- The descriptor of a socket that could not be connected is given to somebody else, and then
closed a second time. -/
theorem stale_descriptor :
    ((run step (created fun _ => false) [.connectTo (some 3) true false]).map fun manager =>
        (manager.socket_fd, manager.descriptors 3)) = some (some 3, none) ∧
      ((run step (created fun _ => false)
          [.connectTo (some 3) true false, .othersOpen 3]).map fun manager =>
        (manager.socket_fd, manager.descriptors 3)) = some (some 3, some .others) ∧
      ((run step (created fun _ => false)
          [.connectTo (some 3) true false, .othersOpen 3, .closeSocket]).map fun manager =>
        (manager.socket_fd, manager.descriptors 3)) = some (none, none) := by
  decide

end ManagedSocket

end SyncDir
