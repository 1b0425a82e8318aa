import Mathlib.Algebra.Order.BigOperators.Group.Finset
import SyncDir.Library.HandleTable
import SyncDir.Library.Transition
import SyncDir.Server.Server
import SyncDir.Utils.Numbers

/-!
# The handshake of a device

A client that has been handed to its manager is connected by three sockets.  The
constructor of its `Device` opens two listening sockets, tells the client their
ports in `t_PORT` packets, and then accepts one connection on each.  The
constructor of the `Client` waits for the two ports, and starts the threads that
connect to them; each tries again for a while if nobody listens.  A manager that
is full answers with a `t_ERROR` packet instead.

Any number of handshakes go on at the same time, and share the ports of the
host.  The system gives out a port that no socket listens on; a thread that
connects to a port comes to the socket that listens there, whoever has opened
it.  An exception can leave the constructor of a device at every point, and
leaves its sockets open.  It leaves the constructor of a client if there is no
packet to come, or no directory for one of its file managers.
-/

namespace SyncDir

open HandleTable NetworkManager PacketType Transition

/-- The connections that a client opens to its device. -/
inductive DeviceChannel
  | push
  | watcher
  deriving DecidableEq

/-- The socket of `push_manager` or `file_watcher_receiver`; a peer is the thread of a client. -/
inductive DeviceSocket (Session : Type*)
  | created
  | listening (port : Port) (backlog : List (Session × DeviceChannel))
  | accepted (port : Port) (peer : Session × DeviceChannel)

/-- The next statement of `handle_new_connection`, in the constructor of the device from `setup`
on. -/
inductive DevicePoint
  | testLimit
  | refused
  | setup (channel : DeviceChannel)
  | sendPort (channel : DeviceChannel) (port : Port)
  | accept (channel : DeviceChannel)
  | started

/-- Where the constructor of a client is; `refused` is the `runtime_error` for a `t_ERROR`. -/
inductive ClientPoint
  | awaitPushPort
  | awaitWatcherPort (push_port : ℤ)
  | running
  | refused (message : Bytes)
  | threw (exception : Exception)
  deriving DecidableEq

/-- A thread of a client in `connect_to_socket`. -/
inductive ClientThread
  | unstarted
  | connecting (port : ℤ) (retries : ℕ)
  | connected
  | gaveUp
  deriving DecidableEq

structure Handshake (Session : Type*) where
  device : DevicePoint
  /-- An exception has left the constructor of the device. -/
  failed : Bool
  socket : DeviceChannel → DeviceSocket Session
  toClient : List Packet
  client : ClientPoint
  thread : DeviceChannel → ClientThread

/-- The handshakes of all sessions, with the sockets that listen on the ports of the host. -/
structure Handshakes (Session : Type*) where
  ports : Table ℕ (Session × DeviceChannel)
  sessions : Session → Handshake Session

inductive HandshakeEvent (Session : Type*)
  | testLimit (session : Session) (atLimit : Bool)
  | createAndSetupSocket (session : Session) (port : Port)
  | sendPort (session : Session)
  | acceptConnection (session : Session)
  | fails (session : Session)
  /-- If this is the second packet, the client meets these directories after it. -/
  | receivePacket (session : Session) (stat : Bytes → PathStatus)
  | connect (session : Session) (channel : DeviceChannel)

namespace Handshake

variable {Session : Type*}

def start : Handshake Session where
  device := .testLimit
  failed := false
  socket _ := .created
  toClient := []
  client := .awaitPushPort
  thread _ := .unstarted

/-! ### The device -/

def limitMessage : Bytes :=
  ascii "Limite de dispositivos atingido"

def testLimit (handshake : Handshake Session) (atLimit : Bool) : Option (Handshake Session) :=
  match handshake.failed, handshake.device with
  | false, .testLimit =>
      if atLimit then
        let sent := (sendPacket t_ERROR.value 0 limitMessage).on (.healthy handshake.toClient)
        some { handshake with device := .refused, toClient := sent.2.arrived }
      else
        some { handshake with device := .setup .push }
  | _, _ => none

def afterPort : DeviceChannel → DevicePoint
  | .push => .setup .watcher
  | .watcher => .accept .push

def afterAccept : DeviceChannel → DevicePoint
  | .push => .accept .watcher
  | .watcher => .started

def sendPort (handshake : Handshake Session) : Option (Handshake Session) :=
  match handshake.failed, handshake.device with
  | false, .sendPort channel port =>
      let sent := (sendPacket t_PORT.value 1 (to_string port.number)).on
        (.healthy handshake.toClient)
      some { handshake with device := afterPort channel, toClient := sent.2.arrived }
  | _, _ => none

/-- `handle_new_connection` closes the connection, but not what the constructor of the device has
opened. -/
def fails (handshake : Handshake Session) : Option (Handshake Session) :=
  match handshake.failed, handshake.device with
  | false, .setup _ | false, .sendPort _ _ | false, .accept _ =>
      some { handshake with failed := true }
  | _, _ => none

/-! ### The client -/

def portOf (push_port port2 : ℤ) : DeviceChannel → ℤ
  | .push => push_port
  | .watcher => port2

/-- The first packet, which is taken for a `t_PORT` if it is not a `t_ERROR`. -/
def readPushPort (pkt : Packet) : ClientPoint :=
  match pkt.c_str with
  | .error exception => .threw exception
  | .ok port_str =>
      if pkt.type = t_ERROR.value then .refused port_str
      else
        match stoi port_str with
        | .error exception => .threw exception
        | .ok port => .awaitWatcherPort port

/-- What `receivePacket` throws when the connection is closed before a header. -/
def connectionClosed : Exception :=
  .runtime_error "Connection closed by peer\n"

/-- The file managers of a client, for the directory that it watches and for its own. -/
def openDirectories (stat : Bytes → PathStatus) : Except Exception Unit := do
  FileManager.openDirectory (stat (ascii "sync_dir"))
  FileManager.openDirectory (stat (ascii "./"))

/-- The constructor of a client receives a packet, or finds that the connection is closed. -/
def receivePacket (handshake : Handshake Session) (stat : Bytes → PathStatus) :
    Option (Handshake Session) :=
  match handshake.client, handshake.toClient with
  | .awaitPushPort, pkt :: toClient =>
      some { handshake with toClient, client := readPushPort pkt }
  | .awaitWatcherPort push_port, pkt2 :: toClient =>
      match pkt2.c_str >>= stoi with
      | .error exception => some { handshake with toClient, client := .threw exception }
      | .ok port2 =>
          match openDirectories stat with
          | .error exception => some { handshake with toClient, client := .threw exception }
          | .ok () => some { handshake with
              toClient
              client := .running
              thread := fun channel => .connecting (portOf push_port port2 channel) 0 }
  | .awaitPushPort, [] | .awaitWatcherPort _, [] =>
      if handshake.failed then some { handshake with client := .threw connectionClosed } else none
  | _, _ => none

/-- A connection waits at a socket to be accepted. -/
def enqueue (handshake : Handshake Session) (channel : DeviceChannel)
    (peer : Session × DeviceChannel) : Handshake Session :=
  match handshake.socket channel with
  | .listening port backlog => { handshake with
      socket := Function.update handshake.socket channel (.listening port (backlog ++ [peer])) }
  | _ => handshake

def setThread (handshake : Handshake Session) (channel : DeviceChannel) (thread : ClientThread) :
    Handshake Session :=
  { handshake with thread := Function.update handshake.thread channel thread }

end Handshake

namespace Handshakes

variable {Session : Type*}

def start : Handshakes Session where
  ports _ := none
  sessions _ := .start

/-- `htons`: the port in the address of a socket. -/
def htons (port : ℤ) : ℕ :=
  (port % 65536).toNat

def max_retries : ℕ := 150

variable [DecidableEq Session]

def setSession (state : Handshakes Session) (session : Session) (handshake : Handshake Session) :
    Handshakes Session :=
  { state with sessions := Function.update state.sessions session handshake }

def createAndSetupSocket (state : Handshakes Session) (session : Session) (port : Port) :
    Option (Handshakes Session) :=
  match (state.sessions session).failed, (state.sessions session).device with
  | false, .setup channel =>
      if state.ports port.number = none then
        some { state.setSession session { state.sessions session with
            device := .sendPort channel port
            socket := Function.update (state.sessions session).socket channel
              (.listening port []) } with
          ports := acquire state.ports port.number (session, channel) }
      else none
  | _, _ => none

/-- The first connection that waits is accepted, and the socket that has listened is closed. -/
def acceptConnection (state : Handshakes Session) (session : Session) :
    Option (Handshakes Session) :=
  match (state.sessions session).failed, (state.sessions session).device with
  | false, .accept channel =>
      match (state.sessions session).socket channel with
      | .listening port (peer :: _) =>
          some { state.setSession session { state.sessions session with
              device := Handshake.afterAccept channel
              socket := Function.update (state.sessions session).socket channel
                (.accepted port peer) } with
            ports := release state.ports port.number }
      | _ => none
  | _, _ => none

/-- A call of `connect` in `connect_to_socket`. -/
def connect (state : Handshakes Session) (session : Session) (channel : DeviceChannel) :
    Option (Handshakes Session) :=
  match (state.sessions session).thread channel with
  | .connecting port retries =>
      match state.ports (htons port) with
      | none =>
          some (state.setSession session ((state.sessions session).setThread channel
            (if max_retries < retries + 1 then .gaveUp else .connecting port (retries + 1))))
      | some (owner, listener) =>
          let arrived := state.setSession owner
            ((state.sessions owner).enqueue listener (session, channel))
          some (arrived.setSession session
            ((arrived.sessions session).setThread channel .connected))
  | _ => none

def step (state : Handshakes Session) : HandshakeEvent Session → Option (Handshakes Session)
  | .testLimit session atLimit =>
      ((state.sessions session).testLimit atLimit).map (state.setSession session)
  | .createAndSetupSocket session port => state.createAndSetupSocket session port
  | .sendPort session => (state.sessions session).sendPort.map (state.setSession session)
  | .acceptConnection session => state.acceptConnection session
  | .fails session => (state.sessions session).fails.map (state.setSession session)
  | .receivePacket session stat =>
      ((state.sessions session).receivePacket stat).map (state.setSession session)
  | .connect session channel => state.connect session channel

end Handshakes

/-! ### Handshakes end -/

namespace DevicePoint

def stepsLeft : DevicePoint → ℕ
  | .testLimit => 7
  | .setup .push => 6
  | .sendPort .push _ => 5
  | .setup .watcher => 4
  | .sendPort .watcher _ => 3
  | .accept .push => 2
  | .accept .watcher => 1
  | .started | .refused => 0

end DevicePoint

namespace ClientThread

/-- The attempts to connect that a thread can still make. -/
def attemptsLeft : ClientThread → ℕ
  | .connecting _ retries => Handshakes.max_retries + 1 - retries + 1
  | .unstarted | .connected | .gaveUp => 0

end ClientThread

namespace ClientPoint

/-- A client that waits for a port has the attempts of both threads before it. -/
def stepsLeft : ClientPoint → ℕ
  | .awaitPushPort => 2 * (Handshakes.max_retries + 2) + 2
  | .awaitWatcherPort _ => 2 * (Handshakes.max_retries + 2) + 1
  | .running | .refused _ | .threw _ => 0

end ClientPoint

namespace Handshake

variable {Session : Type*} {handshake next : Handshake Session}

def deviceSteps (handshake : Handshake Session) : ℕ :=
  if handshake.failed then 0 else handshake.device.stepsLeft

def clientSteps (handshake : Handshake Session) : ℕ :=
  handshake.client.stepsLeft +
    ((handshake.thread .push).attemptsLeft + (handshake.thread .watcher).attemptsLeft)

def stepsLeft (handshake : Handshake Session) : ℕ :=
  handshake.deviceSteps + handshake.clientSteps

theorem stepsLeft_testLimit {atLimit : Bool}
    (performed : handshake.testLimit atLimit = some next) :
    next.stepsLeft < handshake.stepsLeft := by
  rw [testLimit] at performed
  split at performed
  case h_1 unfailed device =>
    split_ifs at performed
    all_goals
      cases performed
      simp [stepsLeft, deviceSteps, clientSteps, unfailed, device, DevicePoint.stepsLeft]
  case h_2 => cases performed

theorem stepsLeft_sendPort (performed : handshake.sendPort = some next) :
    next.stepsLeft < handshake.stepsLeft := by
  rw [sendPort] at performed
  split at performed
  case h_1 channel port unfailed device =>
    cases performed
    cases channel <;>
      simp [stepsLeft, deviceSteps, clientSteps, unfailed, device, DevicePoint.stepsLeft, afterPort]
  case h_2 => cases performed

theorem stepsLeft_fails (performed : handshake.fails = some next) :
    next.stepsLeft < handshake.stepsLeft := by
  rw [fails] at performed
  split at performed
  case h_1 channel unfailed device =>
    cases performed
    cases channel <;>
      simp [stepsLeft, deviceSteps, clientSteps, unfailed, device, DevicePoint.stepsLeft]
  case h_2 channel port unfailed device =>
    cases performed
    cases channel <;>
      simp [stepsLeft, deviceSteps, clientSteps, unfailed, device, DevicePoint.stepsLeft]
  case h_3 channel unfailed device =>
    cases performed
    cases channel <;>
      simp [stepsLeft, deviceSteps, clientSteps, unfailed, device, DevicePoint.stepsLeft]
  case h_4 => cases performed

theorem stepsLeft_readPushPort (pkt : Packet) :
    (readPushPort pkt).stepsLeft < ClientPoint.awaitPushPort.stepsLeft := by
  rw [readPushPort]
  split
  · simp [ClientPoint.stepsLeft]
  · split_ifs
    · simp [ClientPoint.stepsLeft]
    · split <;> simp [ClientPoint.stepsLeft]

/-- A client that has got its first packet goes on to the second one, or ends. -/
theorem stepsLeft_receivePacket {stat : Bytes → PathStatus}
    (performed : handshake.receivePacket stat = some next) :
    next.stepsLeft < handshake.stepsLeft := by
  rw [receivePacket] at performed
  split at performed
  case h_1 pkt toClient client _ =>
    cases performed
    have fewer := stepsLeft_readPushPort pkt
    simpa [stepsLeft, deviceSteps, clientSteps, client] using fewer
  case h_2 push_port pkt2 toClient client _ =>
    split at performed
    · cases performed
      simp [stepsLeft, deviceSteps, clientSteps, client, ClientPoint.stepsLeft]
    · split at performed
      · cases performed
        simp [stepsLeft, deviceSteps, clientSteps, client, ClientPoint.stepsLeft]
      · cases performed
        simp only [stepsLeft, deviceSteps, clientSteps, client, ClientPoint.stepsLeft,
          ClientThread.attemptsLeft]
        omega
  case h_3 client _ =>
    split_ifs at performed
    cases performed
    simp [stepsLeft, deviceSteps, clientSteps, client, ClientPoint.stepsLeft]
  case h_4 push_port client _ =>
    split_ifs at performed
    cases performed
    simp [stepsLeft, deviceSteps, clientSteps, client, ClientPoint.stepsLeft]
  case h_5 => cases performed

theorem stepsLeft_setThread {channel : DeviceChannel} {thread : ClientThread}
    (fewer : thread.attemptsLeft < (handshake.thread channel).attemptsLeft) :
    (handshake.setThread channel thread).stepsLeft < handshake.stepsLeft := by
  have device : (handshake.setThread channel thread).deviceSteps = handshake.deviceSteps := rfl
  have client : (handshake.setThread channel thread).clientSteps < handshake.clientSteps := by
    cases channel <;> simpa [clientSteps, setThread] using fewer
  rw [stepsLeft, stepsLeft, device]
  exact Nat.add_lt_add_left client _

theorem stepsLeft_enqueue (channel : DeviceChannel) (peer : Session × DeviceChannel) :
    (handshake.enqueue channel peer).stepsLeft = handshake.stepsLeft ∧
      (handshake.enqueue channel peer).thread = handshake.thread := by
  rw [enqueue]
  split <;> exact ⟨rfl, rfl⟩

end Handshake

namespace Handshakes

variable {Session : Type*} [DecidableEq Session] {state next : Handshakes Session}
  {session : Session} {channel : DeviceChannel} {handshake : Handshake Session}

theorem sessions_setSession : (state.setSession session handshake).sessions =
    Function.update state.sessions session handshake :=
  rfl

/-- A session has done a step, and no other session has more to do. -/
def Advanced (state next : Handshakes Session) (session : Session) : Prop :=
  (∀ other, (next.sessions other).stepsLeft ≤ (state.sessions other).stepsLeft) ∧
    (next.sessions session).stepsLeft < (state.sessions session).stepsLeft

theorem advanced_of_update
    (moved : next.sessions = Function.update state.sessions session handshake)
    (fewer : handshake.stepsLeft < (state.sessions session).stepsLeft) :
    state.Advanced next session := by
  rw [Advanced, moved]
  constructor
  · intro other
    by_cases same : other = session
    · subst same
      rw [Function.update_self]
      exact fewer.le
    · rw [Function.update_of_ne same]
  · rw [Function.update_self]
    exact fewer

theorem advanced_createAndSetupSocket {port : Port}
    (performed : state.createAndSetupSocket session port = some next) :
    state.Advanced next session := by
  rw [createAndSetupSocket] at performed
  split at performed
  case h_1 opening unfailed device =>
    split_ifs at performed
    cases performed
    apply advanced_of_update rfl
    cases opening <;>
      simp [Handshake.stepsLeft, Handshake.deviceSteps, Handshake.clientSteps, unfailed, device,
        DevicePoint.stepsLeft]
  case h_2 => cases performed

theorem advanced_acceptConnection (performed : state.acceptConnection session = some next) :
    state.Advanced next session := by
  rw [acceptConnection] at performed
  split at performed
  case h_1 accepting unfailed device =>
    split at performed
    · cases performed
      apply advanced_of_update rfl
      cases accepting <;>
        simp [Handshake.stepsLeft, Handshake.deviceSteps, Handshake.clientSteps, unfailed, device,
          DevicePoint.stepsLeft, Handshake.afterAccept]
    · cases performed
  case h_2 => cases performed

/-- A connection that waits at a socket changes its session, but not what is left for it to do. -/
theorem sessions_enqueue (state : Handshakes Session) (owner : Session) (listener : DeviceChannel)
    (peer : Session × DeviceChannel) (other : Session) :
    let arrived := state.setSession owner ((state.sessions owner).enqueue listener peer)
    (arrived.sessions other).stepsLeft = (state.sessions other).stepsLeft ∧
      (arrived.sessions other).thread = (state.sessions other).thread := by
  by_cases same : other = owner
  · subst same
    simpa [setSession] using Handshake.stepsLeft_enqueue listener peer
  · simp [setSession, Function.update_of_ne same]

theorem advanced_setThread {arrived : Handshakes Session} {thread : ClientThread}
    (kept : ∀ other, (arrived.sessions other).stepsLeft = (state.sessions other).stepsLeft)
    (fewer : thread.attemptsLeft < ((arrived.sessions session).thread channel).attemptsLeft) :
    state.Advanced
      (arrived.setSession session ((arrived.sessions session).setThread channel thread))
      session := by
  have advanced := advanced_of_update (sessions_setSession ..) (Handshake.stepsLeft_setThread fewer)
  constructor
  · intro other
    rw [← kept other]
    exact advanced.1 other
  · rw [← kept session]
    exact advanced.2

theorem advanced_connect (performed : state.connect session channel = some next) :
    state.Advanced next session := by
  rw [connect] at performed
  split at performed
  case h_1 port retries connecting =>
    split at performed
    case h_1 =>
      cases performed
      apply advanced_setThread fun _ => rfl
      rw [connecting]
      split_ifs
      · simp [ClientThread.attemptsLeft]
      · simp only [ClientThread.attemptsLeft]
        omega
    case h_2 owner listener _ =>
      cases performed
      have kept := sessions_enqueue state owner listener (session, channel)
      apply advanced_setThread fun other => (kept other).1
      rw [(kept session).2, connecting]
      simp [ClientThread.attemptsLeft]
  case h_2 => cases performed

theorem advanced_step {event : HandshakeEvent Session} (performed : state.step event = some next) :
    ∃ session, state.Advanced next session := by
  cases event with
  | testLimit session atLimit =>
      rcases Option.map_eq_some_iff.mp performed with ⟨after, moved, rfl⟩
      exact ⟨session, advanced_of_update (sessions_setSession ..)
        (Handshake.stepsLeft_testLimit moved)⟩
  | createAndSetupSocket session port => exact ⟨session, advanced_createAndSetupSocket performed⟩
  | sendPort session =>
      rcases Option.map_eq_some_iff.mp performed with ⟨after, moved, rfl⟩
      exact ⟨session, advanced_of_update (sessions_setSession ..)
        (Handshake.stepsLeft_sendPort moved)⟩
  | acceptConnection session => exact ⟨session, advanced_acceptConnection performed⟩
  | fails session =>
      rcases Option.map_eq_some_iff.mp performed with ⟨after, moved, rfl⟩
      exact ⟨session, advanced_of_update (sessions_setSession ..) (Handshake.stepsLeft_fails moved)⟩
  | receivePacket session stat =>
      rcases Option.map_eq_some_iff.mp performed with ⟨after, moved, rfl⟩
      exact ⟨session, advanced_of_update (sessions_setSession ..)
        (Handshake.stepsLeft_receivePacket moved)⟩
  | connect session channel => exact ⟨session, advanced_connect performed⟩

/-- No handshakes of finitely many clients go on for ever, whatever fails and is tried again. -/
theorem not_endless [Fintype Session]
    (allowed : Handshakes Session → HandshakeEvent Session → Prop) (state : Handshakes Session) :
    ¬Endless step allowed state := by
  apply not_endless_of_rank fun state => ∑ session, (state.sessions session).stepsLeft
  intro state event next _ performed
  rcases advanced_step performed with ⟨session, fewer, less⟩
  exact Finset.sum_lt_sum (fun other _ => fewer other) ⟨session, Finset.mem_univ _, less⟩

end Handshakes

end SyncDir
