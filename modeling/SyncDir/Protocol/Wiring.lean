import SyncDir.Protocol.HandshakeStages

/-!
# The connections of a device

All handshakes share the ports of the host, but a port leads to the socket that
listens on it.  Since the device is listening before its client is told the
port, and goes on until it has accepted a connection, the thread that connects
to a port always meets the socket of its own device.
-/

namespace SyncDir

open HandleTable PacketType Transition

namespace Handshakes

variable {Session : Type*}

/-- The port that a socket of a session listens on. -/
def listens (sessions : Session → Handshake Session) (owner : Session × DeviceChannel) :
    Option ℕ :=
  ((sessions owner.1).socket owner.2).listens

def Wired (state : Handshakes Session) : Prop :=
  (∀ session, (state.sessions session).Wired session) ∧ Exact state.ports (listens state.sessions)

theorem wired_start : (start : Handshakes Session).Wired := by
  refine ⟨fun _ => Handshake.wired_start, ?_⟩
  intro number owner
  simp [start, listens, Handshake.start, DeviceSocket.listens]

theorem htons_number (port : Port) : htons (port.number : ℤ) = port.number := by
  have bounded := port.bounded
  rw [htons]
  omega

variable [DecidableEq Session] {state next : Handshakes Session} {session : Session}
  {handshake : Handshake Session}

theorem wired_sessions_setSession (wired : state.Wired) (own : handshake.Wired session)
    (other : Session) : ((state.setSession session handshake).sessions other).Wired other := by
  by_cases moved : other = session
  · subst moved
    simpa [setSession] using own
  · simpa [setSession, Function.update_of_ne moved] using wired.1 other

theorem listens_update {sessions : Session → Handshake Session} (channel : DeviceChannel)
    (socket : DeviceSocket Session)
    (changed : handshake.socket = Function.update (sessions session).socket channel socket) :
    listens (Function.update sessions session handshake) =
      Function.update (listens sessions) (session, channel) socket.listens := by
  funext ⟨other, otherChannel⟩
  by_cases moved : other = session
  · subst moved
    by_cases same : otherChannel = channel
    · subst same
      simp [listens, changed]
    · simp [listens, changed, same]
  · simp [listens, moved]

/-- A session can go on without its sockets. -/
theorem Wired.setSession (wired : state.Wired) (own : handshake.Wired session)
    (same : handshake.socket = (state.sessions session).socket) :
    (state.setSession session handshake).Wired := by
  refine ⟨wired_sessions_setSession wired own, ?_⟩
  have unchanged : handshake.socket = Function.update (state.sessions session).socket .push
      ((state.sessions session).socket .push) := by
    rw [Function.update_eq_self, same]
  have kept : Function.update (listens state.sessions) (session, .push)
      ((state.sessions session).socket .push).listens = listens state.sessions :=
    Function.update_eq_self ..
  rw [sessions_setSession, listens_update .push _ unchanged, kept]
  exact wired.2

theorem Wired.createAndSetupSocket (wired : state.Wired) {port : Port}
    (performed : state.createAndSetupSocket session port = some next) : next.Wired := by
  rw [Handshakes.createAndSetupSocket] at performed
  split at performed
  case h_1 channel unfailed device =>
    split_ifs at performed with free
    cases performed
    refine ⟨wired_sessions_setSession wired ((wired.1 session).setup unfailed device port), ?_⟩
    have closed : (state.sessions session).socket channel = .created := by
      apply ((wired.1 session).created_iff channel).mpr
      rw [device]
      cases channel <;> decide
    have empty : listens state.sessions (session, channel) = none := by
      rw [listens, closed]
      rfl
    simp only [sessions_setSession]
    rw [listens_update channel (.listening port [])]
    · exact wired.2.acquire free empty
    · rfl
  case h_2 => cases performed

theorem Wired.acceptConnection (wired : state.Wired)
    (performed : state.acceptConnection session = some next) : next.Wired := by
  rw [Handshakes.acceptConnection] at performed
  split at performed
  case h_1 channel unfailed device =>
    split at performed
    case h_1 port peer backlog waiting =>
      cases performed
      have own := (wired.1 session).accept unfailed device waiting
      refine ⟨wired_sessions_setSession wired own, ?_⟩
      have held : listens state.sessions (session, channel) = some port.number := by
        rw [listens, waiting]
        rfl
      simp only [sessions_setSession]
      rw [listens_update channel (.accepted port peer)]
      · exact wired.2.release held
      · rfl
    case h_2 => cases performed
  case h_2 => cases performed

/-- No attempt to connect is refused, since the socket that the client has been told listens. -/
theorem Wired.connect_eq (wired : state.Wired) {channel : DeviceChannel} {port : ℤ} {retries : ℕ}
    (connecting : (state.sessions session).thread channel = .connecting port retries) :
    ∃ listening : Port, port = listening.number ∧ retries = 0 ∧
      (state.sessions session).socket channel = .listening listening [] ∧
      state.connect session channel = some (state.setSession session { state.sessions session with
        thread := Function.update (state.sessions session).thread channel .connected
        socket := Function.update (state.sessions session).socket channel
          (.listening listening [(session, channel)]) }) := by
  have linked := (wired.1 session).linked channel
  rw [connecting] at linked
  rcases linked.of_connecting with ⟨listening, rfl, rfl, socket⟩
  refine ⟨listening, rfl, rfl, socket, ?_⟩
  have owned : state.ports listening.number = some (session, channel) := by
    apply (wired.2 _ _).mpr
    rw [listens, socket]
    rfl
  simp [connect, connecting, htons_number, owned, Handshake.enqueue, socket, Handshake.setThread,
    Handshakes.setSession]

theorem Wired.connect (wired : state.Wired) {channel : DeviceChannel}
    (performed : state.connect session channel = some next) : next.Wired := by
  cases thread : (state.sessions session).thread channel with
  | connecting port retries =>
      rcases wired.connect_eq thread with ⟨listening, rfl, rfl, socket, connected⟩
      rw [connected] at performed
      cases performed
      refine ⟨wired_sessions_setSession wired ((wired.1 session).connect thread socket), ?_⟩
      have listensStill : listens state.sessions (session, channel) = some listening.number := by
        rw [listens, socket]
        rfl
      have kept : Function.update (listens state.sessions) (session, channel)
          (some listening.number) = listens state.sessions := by
        rw [← listensStill, Function.update_eq_self]
      simp only [sessions_setSession]
      rw [listens_update channel (.listening listening [(session, channel)]), DeviceSocket.listens,
        kept]
      · exact wired.2
      · rfl
  | unstarted | connected | gaveUp =>
      rw [Handshakes.connect, thread] at performed
      cases performed

theorem Wired.step (wired : state.Wired) {event : HandshakeEvent Session}
    (performed : state.step event = some next) : next.Wired := by
  cases event with
  | testLimit session atLimit =>
      rcases Option.map_eq_some_iff.mp performed with ⟨after, moved, rfl⟩
      exact wired.setSession ((wired.1 session).testLimit moved) (Handshake.testLimit_keeps moved).1
  | createAndSetupSocket session port => exact wired.createAndSetupSocket performed
  | sendPort session =>
      rcases Option.map_eq_some_iff.mp performed with ⟨after, moved, rfl⟩
      exact wired.setSession ((wired.1 session).sendPort moved) (Handshake.sendPort_keeps moved).1
  | acceptConnection session => exact wired.acceptConnection performed
  | fails session =>
      rcases Option.map_eq_some_iff.mp performed with ⟨after, moved, rfl⟩
      exact wired.setSession ((wired.1 session).fails moved) (Handshake.socket_fails moved)
  | receivePacket session stat =>
      rcases Option.map_eq_some_iff.mp performed with ⟨after, moved, rfl⟩
      exact wired.setSession ((wired.1 session).receivePacket moved)
        (Handshake.receivePacket_keeps moved).1
  | connect session channel => exact wired.connect performed

theorem wired_of_reachable {allowed : Handshakes Session → HandshakeEvent Session → Prop}
    (reached : Reachable Handshakes.step allowed start state) : state.Wired := by
  apply reached.invariant wired_start
  intro _ _ _ wired _ performed
  exact wired.step performed

/-! ### The main results -/

/-- However the handshakes of any number of clients are interleaved, and wherever a constructor
fails, a device accepts on each of its sockets only the thread of its own client that belongs
there; no attempt to connect is refused; and a client that is not refused fails only if the
constructor of its device has failed, or for want of a directory. -/
theorem connections_own
    (reached : Reachable Handshakes.step (fun _ _ => True) start state) (session : Session) :
    (∀ channel port peer, (state.sessions session).socket channel = .accepted port peer →
        peer = (session, channel)) ∧
      (∀ channel port retries,
        (state.sessions session).thread channel = .connecting port retries → retries = 0) ∧
      (∀ channel, (state.sessions session).thread channel ≠ .gaveUp) ∧
      ∀ exception, (state.sessions session).client = .threw exception →
        (state.sessions session).failed = true ∧ exception = Handshake.connectionClosed ∨
          ∃ stat, Handshake.openDirectories stat = .error exception := by
  have wired := (wired_of_reachable reached).1 session
  refine ⟨?_, ?_, ?_, wired.closed⟩
  · intro channel port peer accepted
    have linked := wired.linked channel
    rw [accepted] at linked
    generalize (state.sessions session).thread channel = thread at linked
    cases linked
    rfl
  · intro channel port retries connecting
    have linked := wired.linked channel
    rw [connecting] at linked
    rcases linked.of_connecting with ⟨-, -, unrefused, -⟩
    exact unrefused
  · intro channel gaveUp
    have linked := wired.linked channel
    rw [gaveUp] at linked
    cases linked

/-- The next ports that are free. -/
def nextPort : Fin 4 → Port
  | 0 => .first
  | 1 => { number := 1025, positive := by decide, bounded := by decide }
  | 2 => { number := 1026, positive := by decide, bounded := by decide }
  | 3 => { number := 1027, positive := by decide, bounded := by decide }

/-- Two clients at the same time; the file thread of one and the push thread of the other are the
first to connect. -/
def served : List (HandshakeEvent Bool) :=
  [.testLimit false false, .testLimit true false, .createAndSetupSocket false (nextPort 0),
    .createAndSetupSocket true (nextPort 1), .sendPort true, .sendPort false,
    .receivePacket true fun _ => .directory, .receivePacket false fun _ => .directory,
    .createAndSetupSocket true (nextPort 2), .createAndSetupSocket false (nextPort 3),
    .sendPort false, .receivePacket false fun _ => .missing true, .connect false .watcher,
    .sendPort true, .receivePacket true fun _ => .directory, .connect true .push,
    .connect false .push, .acceptConnection true, .connect true .watcher,
    .acceptConnection false, .acceptConnection false, .acceptConnection true]

/-- Both handshakes come to their ends, and leave the ports free. -/
theorem run_served : ∃ last : Handshakes Bool, run Handshakes.step start served = some last ∧
    last.ports 1024 = none ∧ ∀ session, (last.sessions session).stepsLeft = 0 := by
  have performed : (run Handshakes.step (start : Handshakes Bool) served).map (fun last =>
      (last.ports 1024, (last.sessions false).stepsLeft, (last.sessions true).stepsLeft)) =
        some (none, 0, 0) := by
    decide
  rcases Option.map_eq_some_iff.mp performed with ⟨last, reached, ends⟩
  rcases Prod.mk.inj ends with ⟨free, both⟩
  rcases Prod.mk.inj both with ⟨first, second⟩
  refine ⟨last, reached, free, ?_⟩
  rintro (_ | _)
  · exact first
  · exact second

theorem connections_own_served :
    ∃ last : Handshakes Bool, run Handshakes.step start served = some last ∧
      ∀ session channel port peer, (last.sessions session).socket channel = .accepted port peer →
        peer = (session, channel) := by
  rcases run_served with ⟨last, reached, -⟩
  have reachable := Reachable.of_run (fun _ _ _ => trivial) .start reached
  exact ⟨last, reached, fun session => (connections_own reachable session).1⟩

/-- The device runs with the connections of its client, or the client has been refused. -/
def Complete (state : Handshakes Session) (session : Session) : Prop :=
  ((state.sessions session).device = .started ∧ (state.sessions session).client = .running ∧
      ∀ channel, (state.sessions session).thread channel = .connected ∧
        ∃ port, (state.sessions session).socket channel = .accepted port (session, channel)) ∨
    (state.sessions session).device = .refused ∧
      (state.sessions session).client = .refused Handshake.limitMessage

/-- The constructors do not fail. -/
def Succeeds (_state : Handshakes Session) : HandshakeEvent Session → Prop
  | .fails _ => False
  | .receivePacket _ stat => Handshake.openDirectories stat = .ok ()
  | _ => True

def Stuck (state : Handshakes Session) : Prop :=
  ∀ event, state.Succeeds event → state.step event = none

/-- No constructor has failed. -/
def Unfailed (state : Handshakes Session) : Prop :=
  ∀ session, (state.sessions session).failed = false ∧
    ∀ exception, (state.sessions session).client ≠ .threw exception

theorem Unfailed.setSession (unfailed : state.Unfailed) {handshake : Handshake Session}
    (device : handshake.failed = (state.sessions session).failed)
    (client : ∀ exception, handshake.client ≠ .threw exception) :
    (state.setSession session handshake).Unfailed := by
  intro other
  by_cases moved : other = session
  · subst moved
    simpa [Handshakes.setSession, device, (unfailed other).1] using client
  · simpa [Handshakes.setSession, Function.update_of_ne moved] using unfailed other

theorem Unfailed.step (unfailed : state.Unfailed) (wired : state.Wired)
    {event : HandshakeEvent Session} (succeeds : state.Succeeds event)
    (performed : state.step event = some next) : next.Unfailed := by
  cases event with
  | testLimit session atLimit =>
      rcases Option.map_eq_some_iff.mp performed with ⟨after, moved, rfl⟩
      rcases Handshake.testLimit_keeps moved with ⟨-, device, client⟩
      exact unfailed.setSession device (client ▸ (unfailed session).2)
  | createAndSetupSocket session port =>
      simp only [Handshakes.step, createAndSetupSocket] at performed
      split at performed
      · split_ifs at performed
        cases performed
        exact unfailed.setSession rfl (unfailed session).2
      · cases performed
  | sendPort session =>
      rcases Option.map_eq_some_iff.mp performed with ⟨after, moved, rfl⟩
      rcases Handshake.sendPort_keeps moved with ⟨-, device, client⟩
      exact unfailed.setSession device (client ▸ (unfailed session).2)
  | acceptConnection session =>
      simp only [Handshakes.step, acceptConnection] at performed
      split at performed
      · split at performed
        · cases performed
          exact unfailed.setSession rfl (unfailed session).2
        · cases performed
      · cases performed
  | fails session => exact absurd succeeds id
  | receivePacket session stat =>
      rcases Option.map_eq_some_iff.mp performed with ⟨after, moved, rfl⟩
      apply unfailed.setSession (Handshake.receivePacket_keeps moved).2
      intro exception threw
      rcases (wired.1 session).threw_receivePacket moved threw with ⟨failed, -⟩ | failed
      · rw [(unfailed session).1] at failed
        cases failed
      · rw [show Handshake.openDirectories stat = .ok () from succeeds] at failed
        cases failed
  | connect session channel =>
      simp only [Handshakes.step] at performed
      cases thread : (state.sessions session).thread channel with
      | connecting port retries =>
          rcases wired.connect_eq thread with ⟨listening, -, -, -, connected⟩
          rw [connected] at performed
          cases performed
          exact unfailed.setSession rfl (unfailed session).2
      | unstarted | connected | gaveUp =>
          rw [connect, thread] at performed
          cases performed

theorem unfailed_of_reachable (reached : Reachable Handshakes.step Succeeds start state) :
    state.Unfailed := by
  have both : state.Wired ∧ state.Unfailed := by
    apply reached.invariant ⟨wired_start, fun _ => ⟨rfl, by simp [start, Handshake.start]⟩⟩
    rintro _ _ _ ⟨wired, unfailed⟩ succeeds performed
    exact ⟨wired.step performed, unfailed.step wired succeeds performed⟩
  exact both.2

/-- A client has received all that has been sent, as packets are only on their way while it waits
for them. -/
theorem Stuck.toClient_eq_nil (stuck : state.Stuck) (wired : state.Wired) :
    (state.sessions session).toClient = [] := by
  have told := (wired.1 session).told
  cases arrived : (state.sessions session).toClient with
  | nil => rfl
  | cons pkt toClient =>
      rw [arrived] at told
      have blocked := Option.map_eq_none_iff.mp
        (stuck (.receivePacket session fun _ => .directory) rfl)
      rcases told.waiting with waiting | ⟨push_port, waiting⟩
      · simp [Handshake.receivePacket, waiting, arrived] at blocked
      · simp only [Handshake.receivePacket, waiting, arrived] at blocked
        split at blocked
        · cases blocked
        · split at blocked <;> cases blocked

/-- When both ports have been sent, the client is running with both of them. -/
theorem Stuck.running (stuck : state.Stuck) (wired : state.Wired) (unfailed : state.Unfailed)
    (sent : (state.sessions session).device.sent = [.push, .watcher]) :
    (state.sessions session).client = .running := by
  have told := (wired.1 session).told
  rw [stuck.toClient_eq_nil wired] at told
  exact told.received sent (unfailed session).2

/-- A running client is connected to both sockets. -/
theorem Stuck.connected (stuck : state.Stuck) (wired : state.Wired)
    (running : (state.sessions session).client = .running) (channel : DeviceChannel) :
    (state.sessions session).thread channel = .connected := by
  have linked := (wired.1 session).linked channel
  cases thread : (state.sessions session).thread channel with
  | connected => rfl
  | unstarted => exact absurd running (((wired.1 session).unstarted_iff channel).mp thread)
  | connecting port retries =>
      rcases wired.connect_eq thread with ⟨_, -, -, -, connected⟩
      have blocked := stuck (.connect session channel) trivial
      rw [step, connected] at blocked
      cases blocked
  | gaveUp =>
      rw [thread] at linked
      cases linked

theorem Wired.complete (wired : state.Wired) (unfailed : state.Unfailed)
    (free : ∃ port : Port, state.ports port.number = none) (stuck : state.Stuck)
    (session : Session) : state.Complete session := by
  have own := wired.1 session
  cases device : (state.sessions session).device with
  | testLimit =>
      have blocked := Option.map_eq_none_iff.mp (stuck (.testLimit session false) trivial)
      simp [Handshake.testLimit, (unfailed session).1, device] at blocked
  | setup channel =>
      rcases free with ⟨port, unused⟩
      have blocked := stuck (.createAndSetupSocket session port) trivial
      simp [Handshakes.step, Handshakes.createAndSetupSocket, (unfailed session).1, device,
        unused] at blocked
  | sendPort channel port =>
      have blocked := Option.map_eq_none_iff.mp (stuck (.sendPort session) trivial)
      simp [Handshake.sendPort, (unfailed session).1, device] at blocked
  | accept channel =>
      have running := stuck.running wired unfailed (by rw [device]; rfl)
      have connected := stuck.connected wired running channel
      have linked := own.linked channel
      rw [connected] at linked
      generalize same : (state.sessions session).socket channel = socket at linked
      cases linked with
      | pending port =>
          have blocked := stuck (.acceptConnection session) trivial
          simp [Handshakes.step, Handshakes.acceptConnection, (unfailed session).1, device,
            same] at blocked
      | accepted port =>
          have early := own.accepted_iff channel
          rw [device, same] at early
          cases channel <;> simp [DeviceSocket.IsAccepted, DevicePoint.connected] at early
  | started =>
      have running := stuck.running wired unfailed (by rw [device]; rfl)
      refine Or.inl ⟨device, running, ?_⟩
      intro channel
      have connected := stuck.connected wired running channel
      have linked := own.linked channel
      rw [connected] at linked
      refine ⟨connected, ?_⟩
      generalize same : (state.sessions session).socket channel = socket at linked
      cases linked with
      | pending port =>
          have late := own.accepted_iff channel
          rw [device, same] at late
          cases channel <;> simp [DeviceSocket.IsAccepted, DevicePoint.connected] at late
      | accepted port => exact ⟨port, rfl⟩
  | refused =>
      have told := own.told
      rw [device, stuck.toClient_eq_nil wired] at told
      exact Or.inr ⟨device, told.refused_received (unfailed session).2⟩

/-- Handshakes of finitely many clients whose constructors do not fail come to an end, and then
every device runs with the connections of its own client, unless the manager has been full and the
client has been told so. -/
theorem handshakes_complete [Fintype Session]
    (reached : Reachable Handshakes.step Succeeds start state)
    (free : ∃ port : Port, state.ports port.number = none) :
    ¬Endless Handshakes.step Succeeds state ∧
      (state.Stuck → ∀ session, state.Complete session) := by
  refine ⟨not_endless Succeeds state, ?_⟩
  intro stuck session
  exact (wired_of_reachable reached).complete (unfailed_of_reachable reached) free stuck session

theorem stuck_of_stepsLeft (finished : ∀ session, (state.sessions session).stepsLeft = 0) :
    state.Stuck := by
  intro event _
  cases performed : state.step event with
  | none => rfl
  | some next =>
      rcases advanced_step performed with ⟨session, -, less⟩
      rw [finished session] at less
      exact absurd less (Nat.not_lt_zero _)

theorem handshakes_complete_served :
    ∃ last : Handshakes Bool, run Handshakes.step start served = some last ∧
      ¬Endless Handshakes.step Succeeds last ∧ ∀ session, last.Complete session := by
  rcases run_served with ⟨last, performed, free, finished⟩
  have succeeds : ∀ event ∈ served, ∀ state : Handshakes Bool, state.Succeeds event := by
    intro event event_mem state
    cases event with
    | fails session => simp [served] at event_mem
    | receivePacket session stat =>
        simp only [served, List.mem_cons, List.not_mem_nil, or_false, reduceCtorEq,
          HandshakeEvent.receivePacket.injEq, false_or] at event_mem
        rcases event_mem with ⟨-, rfl⟩ | ⟨-, rfl⟩ | ⟨-, rfl⟩ | ⟨-, rfl⟩ <;> rfl
    | _ => trivial
  have reached := Reachable.of_run succeeds .start performed
  rcases handshakes_complete reached ⟨.first, free⟩ with ⟨ends, complete⟩
  exact ⟨last, performed, ends, complete (stuck_of_stepsLeft finished)⟩

end Handshakes

end SyncDir
