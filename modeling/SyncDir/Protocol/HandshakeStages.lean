import SyncDir.Protocol.Handshake

/-!
# The stages of a handshake

What a client knows follows what its device has sent: it has received a part of
the packets, and the others are on their way.  What a thread of the client does
follows the socket that it is to be connected to, which listens before the
client knows its port.
-/

namespace SyncDir

open NetworkManager PacketType

namespace DevicePoint

/-- The channels whose ports have been sent. -/
def sent : DevicePoint → List DeviceChannel
  | .testLimit | .refused | .setup .push | .sendPort .push _ => []
  | .setup .watcher | .sendPort .watcher _ => [.push]
  | .accept _ | .started => [.push, .watcher]

/-- The channels with a socket. -/
def opened : DevicePoint → List DeviceChannel
  | .testLimit | .refused | .setup .push => []
  | .sendPort .push _ | .setup .watcher => [.push]
  | .sendPort .watcher _ | .accept _ | .started => [.push, .watcher]

/-- The channels with a connection. -/
def connected : DevicePoint → List DeviceChannel
  | .accept .watcher => [.push]
  | .started => [.push, .watcher]
  | _ => []

end DevicePoint

namespace DeviceSocket

variable {Session : Type*}

def number : DeviceSocket Session → ℕ
  | .created => 0
  | .listening port _ | .accepted port _ => port.number

/-- The port that the socket listens on. -/
def listens : DeviceSocket Session → Option ℕ
  | .listening port _ => some port.number
  | .created | .accepted _ _ => none

def IsAccepted : DeviceSocket Session → Prop
  | .accepted _ _ => True
  | .created | .listening _ _ => False

end DeviceSocket

namespace Handshake

variable {Session : Type*}

/-- How far a thread of a client and the socket that it is to be connected to have come. -/
inductive Linked (session : Session) (channel : DeviceChannel) :
    ClientThread → DeviceSocket Session → Prop
  | created : Linked session channel .unstarted .created
  | offered (port : Port) : Linked session channel .unstarted (.listening port [])
  | connecting (port : Port) :
      Linked session channel (.connecting port.number 0) (.listening port [])
  | pending (port : Port) :
      Linked session channel .connected (.listening port [(session, channel)])
  | accepted (port : Port) : Linked session channel .connected (.accepted port (session, channel))

def limitPacket : Packet :=
  Packet.build t_ERROR.value 0 limitMessage

def portPacket (number : DeviceChannel → ℕ) (channel : DeviceChannel) : Packet :=
  Packet.build t_PORT.value 1 (to_string (number channel))

/-- The client has received a part of what the device has sent, and the rest is on its way. -/
inductive Told (number : DeviceChannel → ℕ) : DevicePoint → ClientPoint → List Packet → Prop
  | nothing {device : DevicePoint} (admitted : device ≠ .refused) :
      Told number device .awaitPushPort (device.sent.map (portPacket number))
  | first {device : DevicePoint} {rest : List DeviceChannel} (sent : device.sent = .push :: rest) :
      Told number device (.awaitWatcherPort (number .push)) (rest.map (portPacket number))
  | both {device : DevicePoint} (sent : device.sent = [.push, .watcher]) :
      Told number device .running []
  | refusing : Told number .refused .awaitPushPort [limitPacket]
  | refused : Told number .refused (.refused limitMessage) []
  | closed {device : DevicePoint} : Told number device (.threw connectionClosed) []
  /-- It has no directory. -/
  | homeless {device : DevicePoint} {exception : Exception}
      (sent : device.sent = [.push, .watcher]) : Told number device (.threw exception) []

structure Wired (session : Session) (handshake : Handshake Session) : Prop where
  linked : ∀ channel, Linked session channel (handshake.thread channel) (handshake.socket channel)
  created_iff : ∀ channel, handshake.socket channel = .created ↔ channel ∉ handshake.device.opened
  accepted_iff : ∀ channel,
    (handshake.socket channel).IsAccepted ↔ channel ∈ handshake.device.connected
  unstarted_iff : ∀ channel, handshake.thread channel = .unstarted ↔ handshake.client ≠ .running
  sending : ∀ channel port, handshake.device = .sendPort channel port →
    (handshake.socket channel).number = port.number
  told : Told (fun channel => (handshake.socket channel).number) handshake.device handshake.client
    handshake.toClient
  closed : ∀ exception, handshake.client = .threw exception →
    handshake.failed = true ∧ exception = connectionClosed ∨
      ∃ stat, openDirectories stat = .error exception

variable {session : Session} {handshake next : Handshake Session}

theorem Linked.eq_unstarted {channel : DeviceChannel} {thread : ClientThread}
    (linked : Linked session channel thread .created) : thread = .unstarted := by
  cases linked
  rfl

theorem Linked.of_connecting {channel : DeviceChannel} {port : ℤ} {retries : ℕ}
    {socket : DeviceSocket Session}
    (linked : Linked session channel (.connecting port retries) socket) :
    ∃ listening : Port, port = listening.number ∧ retries = 0 ∧
      socket = .listening listening [] := by
  cases linked with
  | connecting listening => exact ⟨listening, rfl, rfl, rfl⟩

theorem Told.congr {number other : DeviceChannel → ℕ} {device : DevicePoint} {client : ClientPoint}
    {toClient : List Packet} (same : ∀ channel ∈ device.sent, number channel = other channel)
    (told : Told number device client toClient) : Told other device client toClient := by
  cases told with
  | nothing admitted =>
      have messages : device.sent.map (portPacket number) = device.sent.map (portPacket other) := by
        apply List.map_congr_left
        intro channel channel_mem
        rw [portPacket, portPacket, same channel channel_mem]
      rw [messages]
      exact .nothing admitted
  | @first _ rest sent =>
      rw [sent] at same
      have messages : rest.map (portPacket number) = rest.map (portPacket other) := by
        apply List.map_congr_left
        intro channel channel_mem
        rw [portPacket, portPacket, same channel (List.mem_cons_of_mem _ channel_mem)]
      rw [messages, same .push List.mem_cons_self]
      exact .first sent
  | both sent => exact .both sent
  | refusing => exact .refusing
  | refused => exact .refused
  | closed => exact .closed
  | homeless sent => exact .homeless sent

theorem wired_start : Wired session start where
  linked _ := .created
  created_iff _ := by simp [start, DevicePoint.opened]
  accepted_iff _ := by simp [start, DeviceSocket.IsAccepted, DevicePoint.connected]
  unstarted_iff _ := by simp [start]
  sending _ _ := by simp [start]
  told := .nothing (by simp [start])
  closed _ := by simp [start]

/-- A missing directory and a closed connection are different errors. -/
theorem openDirectories_ne_connectionClosed (stat : Bytes → PathStatus) :
    openDirectories stat ≠ .error connectionClosed := by
  have distinct : ∀ status, FileManager.openDirectory status ≠ .error connectionClosed := by
    rintro ((_ | _) | _ | _) <;>
      simp [FileManager.openDirectory, connectionClosed]
  intro failed
  rw [openDirectories] at failed
  cases opened : FileManager.openDirectory (stat (ascii "sync_dir")) with
  | error exception =>
      rw [opened] at failed
      exact distinct _ (opened.trans failed)
  | ok =>
      rw [opened] at failed
      exact distinct _ failed

theorem Wired.unclosed (wired : handshake.Wired session) (unfailed : handshake.failed = false) :
    handshake.client ≠ .threw connectionClosed := by
  intro threw
  rcases wired.closed connectionClosed threw with ⟨failed, -⟩ | ⟨stat, failed⟩
  · rw [unfailed] at failed
    cases failed
  · exact openDirectories_ne_connectionClosed stat failed

theorem sendPort_packet (port : Port) (arrived : List Packet) :
    (sendPacket t_PORT.value 1 (to_string port.number)).on (.healthy arrived) =
      (.ok (), .healthy (arrived ++ [Packet.build t_PORT.value 1 (to_string port.number)])) := by
  have bounded : port.number < 10 ^ 5 := port.bounded.trans (by decide)
  have short := length_to_string_le (by decide) bounded
  exact sendPacket_healthy (to_string_ne_nil _) (short.trans (by decide)) ..

theorem Wired.testLimit (wired : handshake.Wired session) {atLimit : Bool}
    (performed : handshake.testLimit atLimit = some next) : next.Wired session := by
  rw [Handshake.testLimit] at performed
  split at performed
  case h_1 unfailed point =>
    have unclosed := wired.unclosed unfailed
    have told := wired.told
    have created := wired.created_iff
    have accepted := wired.accepted_iff
    rw [point] at told created accepted
    have waiting : handshake.client = .awaitPushPort ∧ handshake.toClient = [] := by
      generalize handshake.client = client, handshake.toClient = toClient at told unclosed
      cases told with
      | nothing _ => exact ⟨rfl, rfl⟩
      | first sent => cases sent
      | both sent => cases sent
      | closed => exact absurd rfl unclosed
      | homeless sent => cases sent
    split_ifs at performed with full
    · cases performed
      have fits : limitMessage.length ≤ MAX_PACKET_SIZE := by decide
      refine ⟨wired.linked, created, accepted, wired.unstarted_iff, ?_, ?_, wired.closed⟩
      · intro _ _ sending
        cases sending
      · rw [waiting.1, waiting.2, sendPacket_healthy (by decide) fits]
        exact .refusing
    · cases performed
      refine ⟨wired.linked, created, accepted, wired.unstarted_iff, ?_, ?_, wired.closed⟩
      · intro _ _ sending
        cases sending
      · rw [waiting.1, waiting.2]
        have admitted : DevicePoint.setup .push ≠ .refused := by simp
        exact .nothing admitted
  case h_2 => cases performed

/-- While the device is in its constructor, the client has received some of the ports sent. -/
theorem Told.append {number : DeviceChannel → ℕ} {device after : DevicePoint}
    {client : ClientPoint} {toClient : List Packet} {channel : DeviceChannel}
    (told : Told number device client toClient) (constructing : device.connected = [])
    (admitted : device ≠ .refused) (notRefused : after ≠ .refused)
    (sent : after.sent = device.sent ++ [channel])
    (unclosed : client ≠ .threw connectionClosed) :
    Told number after client (toClient ++ [portPacket number channel]) := by
  have incomplete : device.sent ≠ [.push, .watcher] := by
    intro all
    have tooMany := congrArg List.length sent
    rw [all] at tooMany
    cases after with
    | setup channel => cases channel <;> cases tooMany
    | sendPort channel port => cases channel <;> cases tooMany
    | testLimit | refused | accept | started => cases tooMany
  cases told with
  | nothing _ =>
      have messages : device.sent.map (portPacket number) ++ [portPacket number channel] =
          after.sent.map (portPacket number) := by
        rw [sent, List.map_append, List.map_singleton]
      rw [messages]
      exact .nothing notRefused
  | @first _ rest begun =>
      have messages : rest.map (portPacket number) ++ [portPacket number channel] =
          (rest ++ [channel]).map (portPacket number) := by
        rw [List.map_append, List.map_singleton]
      rw [messages]
      exact .first (by rw [sent, begun, List.cons_append])
  | both all => exact absurd all incomplete
  | refusing => exact absurd rfl admitted
  | refused => exact absurd rfl admitted
  | closed => exact absurd rfl unclosed
  | homeless all => exact absurd all incomplete

theorem Wired.sendPort (wired : handshake.Wired session)
    (performed : handshake.sendPort = some next) : next.Wired session := by
  rw [Handshake.sendPort] at performed
  split at performed
  case h_1 channel port unfailed point =>
    cases performed
    have told := wired.told
    have created := wired.created_iff
    have accepted := wired.accepted_iff
    have number := wired.sending channel port point
    rw [point] at told created accepted
    have opened : (DevicePoint.sendPort channel port).opened = (afterPort channel).opened := by
      cases channel <;> rfl
    have connected : (DevicePoint.sendPort channel port).connected =
        (afterPort channel).connected := by
      cases channel <;> rfl
    rw [opened] at created
    rw [connected] at accepted
    refine ⟨wired.linked, created, accepted, wired.unstarted_iff, ?_, ?_, wired.closed⟩
    · intro other otherPort sending
      cases channel <;> cases sending
    · have packet : Packet.build t_PORT.value 1 (to_string port.number) =
          portPacket (fun channel => (handshake.socket channel).number) channel := by
        rw [portPacket, number]
      rw [sendPort_packet, packet]
      apply told.append
      · cases channel <;> rfl
      · simp
      · cases channel <;> simp [afterPort]
      · cases channel <;> rfl
      · exact wired.unclosed unfailed
  case h_2 => cases performed

theorem Wired.fails (wired : handshake.Wired session) (performed : handshake.fails = some next) :
    next.Wired session := by
  rw [Handshake.fails] at performed
  split at performed
  case h_4 => cases performed
  all_goals
    cases performed
    refine ⟨wired.linked, wired.created_iff, wired.accepted_iff, wired.unstarted_iff,
      wired.sending, wired.told, ?_⟩
    intro exception threw
    exact (wired.closed exception threw).imp_left fun closed => ⟨rfl, closed.2⟩

/-- The socket of a channel has been opened, and the thread for it has not been started. -/
theorem Wired.offered (wired : handshake.Wired session) {channel : DeviceChannel}
    (opened : channel ∈ handshake.device.opened) (waiting : handshake.client ≠ .running) :
    ∃ port, handshake.socket channel = .listening port [] := by
  have linked := wired.linked channel
  have unstarted := (wired.unstarted_iff channel).mpr waiting
  rw [unstarted] at linked
  generalize same : handshake.socket channel = socket at linked
  cases linked with
  | created => exact absurd opened ((wired.created_iff channel).mp same)
  | offered port => exact ⟨port, rfl⟩

theorem number_lt (socket : DeviceSocket Session) : socket.number < 65536 := by
  cases socket with
  | created => exact Nat.zero_lt_of_lt (by decide : 1 < 65536)
  | listening port backlog => exact port.bounded
  | accepted port peer => exact port.bounded

theorem portPacket_read (number : DeviceChannel → ℕ) (channel : DeviceChannel)
    (bounded : number channel < 65536) :
    (portPacket number channel).c_str >>= stoi = .ok (number channel : ℤ) := by
  rw [portPacket, Packet.build_c_str, cString_to_string]
  apply stoi_to_string
  omega

theorem readPushPort_portPacket (number : DeviceChannel → ℕ) (bounded : number .push < 65536) :
    readPushPort (portPacket number .push) = .awaitWatcherPort (number .push) := by
  have noError : (portPacket number .push).type ≠ t_ERROR.value := by
    rw [portPacket, Packet.build_type]
    decide
  have read := portPacket_read number .push bounded
  rw [readPushPort]
  cases text : (portPacket number .push).c_str with
  | error exception =>
      rw [text] at read
      cases read
  | ok port_str =>
      rw [text] at read
      have parsed : stoi port_str = .ok (number .push : ℤ) := read
      simp only [if_neg noError, parsed]

/-- A client reads the ports of the sockets. -/
theorem read_ports (handshake : Handshake Session) :
    readPushPort (portPacket (fun channel => (handshake.socket channel).number) .push) =
        .awaitWatcherPort (handshake.socket .push).number ∧
      (portPacket (fun channel => (handshake.socket channel).number) .watcher).c_str >>= stoi =
        .ok ((handshake.socket .watcher).number : ℤ) :=
  ⟨readPushPort_portPacket _ (number_lt _), portPacket_read _ _ (number_lt _)⟩

theorem readPushPort_limitPacket : readPushPort limitPacket = .refused limitMessage := by decide

theorem opened_of_sent {device : DevicePoint} (sent : device.sent = [.push, .watcher]) :
    device.opened = [.push, .watcher] := by
  cases device with
  | setup channel => cases channel <;> cases sent
  | sendPort channel port => cases channel <;> cases sent
  | testLimit | refused => cases sent
  | accept | started => rfl

theorem sent_eq_cons {device : DevicePoint} {channel : DeviceChannel} {rest : List DeviceChannel}
    (sent : device.sent = channel :: rest) : channel = .push ∧ (rest = [] ∨ rest = [.watcher]) := by
  cases device with
  | testLimit | refused => cases sent
  | setup opening =>
      cases opening <;> cases sent
      exact ⟨rfl, Or.inl rfl⟩
  | sendPort opening port =>
      cases opening <;> cases sent
      exact ⟨rfl, Or.inl rfl⟩
  | accept _ | started =>
      cases sent
      exact ⟨rfl, Or.inr rfl⟩

/-- The first packet is the refusal or the port for the pushes. -/
theorem Told.first_packet {number : DeviceChannel → ℕ} {device : DevicePoint} {pkt : Packet}
    {toClient : List Packet} (told : Told number device .awaitPushPort (pkt :: toClient)) :
    device = .refused ∧ pkt = limitPacket ∧ toClient = [] ∨
      ∃ rest, device.sent = .push :: rest ∧ pkt = portPacket number .push ∧
        toClient = rest.map (portPacket number) := by
  generalize received : pkt :: toClient = packets at told
  cases told with
  | nothing _ =>
      cases sent : device.sent with
      | nil =>
          rw [sent] at received
          cases received
      | cons channel rest =>
          rcases sent_eq_cons sent with ⟨rfl, -⟩
          rw [sent] at received
          cases received
          exact Or.inr ⟨rest, rfl, rfl, rfl⟩
  | refusing =>
      cases received
      exact Or.inl ⟨rfl, rfl, rfl⟩

/-- The second packet is the port for the reports. -/
theorem Told.second_packet {number : DeviceChannel → ℕ} {device : DevicePoint} {pkt : Packet}
    {toClient : List Packet} {push_port : ℤ}
    (told : Told number device (.awaitWatcherPort push_port) (pkt :: toClient)) :
    device.sent = [.push, .watcher] ∧ push_port = number .push ∧
      pkt = portPacket number .watcher ∧ toClient = [] := by
  generalize received : pkt :: toClient = packets at told
  cases told with
  | first sent =>
      rcases sent_eq_cons sent with ⟨-, rfl | rfl⟩
      · cases received
      · cases received
        exact ⟨sent, rfl, rfl, rfl⟩

theorem Told.received {number : DeviceChannel → ℕ} {device : DevicePoint} {client : ClientPoint}
    (told : Told number device client []) (sent : device.sent = [.push, .watcher])
    (unthrown : ∀ exception, client ≠ .threw exception) : client = .running := by
  generalize nothing : ([] : List Packet) = packets at told
  cases told with
  | nothing _ =>
      rw [sent] at nothing
      cases nothing
  | first begun =>
      rw [sent] at begun
      cases begun
      cases nothing
  | both _ => rfl
  | refusing => cases sent
  | refused => cases sent
  | closed | homeless _ => exact absurd rfl (unthrown _)

theorem Told.refused_received {number : DeviceChannel → ℕ} {client : ClientPoint}
    (told : Told number .refused client []) (unthrown : ∀ exception, client ≠ .threw exception) :
    client = .refused limitMessage := by
  generalize nothing : ([] : List Packet) = packets at told
  cases told with
  | nothing admitted => exact absurd rfl admitted
  | first begun => cases begun
  | both all => cases all
  | refusing => cases nothing
  | refused => rfl
  | closed | homeless _ => exact absurd rfl (unthrown _)

/-- Packets are on their way only to a client that waits for them. -/
theorem Told.waiting {number : DeviceChannel → ℕ} {device : DevicePoint} {client : ClientPoint}
    {pkt : Packet} {toClient : List Packet} (told : Told number device client (pkt :: toClient)) :
    client = .awaitPushPort ∨ ∃ push_port, client = .awaitWatcherPort push_port := by
  generalize received : pkt :: toClient = packets at told
  cases told with
  | nothing _ => exact Or.inl rfl
  | first _ => exact Or.inr ⟨_, rfl⟩
  | both _ => cases received
  | refusing => exact Or.inl rfl
  | refused => cases received
  | closed => cases received
  | homeless _ => cases received

/-- What a client reads leads to no exception. -/
theorem Wired.threw_receivePacket (wired : handshake.Wired session) {stat : Bytes → PathStatus}
    (performed : handshake.receivePacket stat = some next) {exception : Exception}
    (threw : next.client = .threw exception) :
    handshake.failed = true ∧ exception = connectionClosed ∨
      openDirectories stat = .error exception := by
  rw [Handshake.receivePacket] at performed
  have told := wired.told
  split at performed
  case h_1 pkt toClient client arrived =>
    cases performed
    rw [client, arrived] at told
    rcases told.first_packet with ⟨-, rfl, -⟩ | ⟨rest, -, rfl, -⟩
    · simp [readPushPort_limitPacket] at threw
    · simp [handshake.read_ports.1] at threw
  case h_2 push_port pkt2 toClient client arrived =>
    rw [client, arrived] at told
    rcases told.second_packet with ⟨-, -, rfl, -⟩
    rw [handshake.read_ports.2] at performed
    cases opened : openDirectories stat with
    | error exception =>
        simp only [opened] at performed
        cases performed
        cases threw
        exact Or.inr rfl
    | ok =>
        simp only [opened] at performed
        cases performed
        cases threw
  case h_3 client arrived =>
    split_ifs at performed with failed
    cases performed
    cases threw
    exact Or.inl ⟨failed, rfl⟩
  case h_4 push_port client arrived =>
    split_ifs at performed with failed
    cases performed
    cases threw
    exact Or.inl ⟨failed, rfl⟩
  case h_5 => cases performed

/-- The threads of a client connect to the ports that it has been told. -/
theorem Wired.run (wired : handshake.Wired session) {push_port : ℤ}
    (client : handshake.client = .awaitWatcherPort push_port)
    (sent : handshake.device.sent = [.push, .watcher]) :
    Wired session { handshake with
      toClient := []
      client := .running
      thread := fun channel => .connecting (portOf (handshake.socket .push).number
        (handshake.socket .watcher).number channel) 0 } := by
  have waiting : handshake.client ≠ .running := by simp [client]
  refine ⟨?_, wired.created_iff, wired.accepted_iff, ?_, wired.sending, .both sent, ?_⟩
  · intro channel
    have opened : channel ∈ handshake.device.opened := by
      rw [opened_of_sent sent]
      cases channel <;> decide
    rcases wired.offered opened waiting with ⟨port, listening⟩
    have dialled : portOf (handshake.socket .push).number (handshake.socket .watcher).number
        channel = port.number := by
      have own : (handshake.socket channel).number = port.number := by
        rw [listening]
        rfl
      cases channel <;> rw [portOf, own]
    simp only [listening, dialled]
    exact .connecting port
  · intro channel
    simp
  · simp

/-- A client goes on, or ends, without having started a thread. -/
theorem Wired.setClient (wired : handshake.Wired session) {toClient : List Packet}
    {client : ClientPoint} (waiting : handshake.client ≠ .running) (before : client ≠ .running)
    (told : Told (fun channel => (handshake.socket channel).number) handshake.device client
      toClient)
    (closed : ∀ exception, client = .threw exception →
      handshake.failed = true ∧ exception = connectionClosed ∨
        ∃ stat, openDirectories stat = .error exception) :
    Wired session { handshake with toClient, client } := by
  refine ⟨wired.linked, wired.created_iff, wired.accepted_iff, ?_, wired.sending, told, closed⟩
  intro channel
  simp [(wired.unstarted_iff channel).mpr waiting, before]

theorem Wired.receivePacket (wired : handshake.Wired session) {stat : Bytes → PathStatus}
    (performed : handshake.receivePacket stat = some next) : next.Wired session := by
  have closed : ∀ exception, next.client = .threw exception →
      handshake.failed = true ∧ exception = connectionClosed ∨
        ∃ stat, openDirectories stat = .error exception := by
    intro exception threw
    exact (wired.threw_receivePacket performed threw).imp_right fun failed => ⟨stat, failed⟩
  have told := wired.told
  rw [Handshake.receivePacket] at performed
  split at performed
  case h_1 pkt toClient client arrived =>
    cases performed
    have waiting : handshake.client ≠ .running := by simp [client]
    rw [client, arrived] at told
    rcases told.first_packet with ⟨device, rfl, rfl⟩ | ⟨rest, sent, rfl, rfl⟩
    · rw [readPushPort_limitPacket] at closed ⊢
      apply wired.setClient waiting (by simp) _ closed
      rw [device]
      exact .refused
    · rw [handshake.read_ports.1] at closed ⊢
      exact wired.setClient waiting (by simp) (.first sent) closed
  case h_2 push_port pkt2 toClient client arrived =>
    rw [client, arrived] at told
    rcases told.second_packet with ⟨sent, rfl, rfl, rfl⟩
    rw [handshake.read_ports.2] at performed
    cases opened : openDirectories stat with
    | error exception =>
        simp only [opened] at performed
        cases performed
        exact wired.setClient (by simp [client]) (by simp) (.homeless sent) closed
    | ok =>
        simp only [opened] at performed
        cases performed
        exact wired.run client sent
  case h_3 client arrived =>
    split_ifs at performed with failed
    cases performed
    rw [arrived] at told ⊢
    exact wired.setClient (by simp [client]) (by simp) .closed closed
  case h_4 push_port client arrived =>
    split_ifs at performed with failed
    cases performed
    rw [arrived] at told ⊢
    exact wired.setClient (by simp [client]) (by simp) .closed closed
  case h_5 => cases performed

theorem number_update {socket : DeviceChannel → DeviceSocket Session} {channel : DeviceChannel}
    {changed : DeviceSocket Session} (same : changed.number = (socket channel).number)
    (other : DeviceChannel) :
    (Function.update socket channel changed other).number = (socket other).number := by
  by_cases isChannel : other = channel
  · rw [isChannel, Function.update_self, same]
  · rw [Function.update_of_ne isChannel]

theorem Wired.setup (wired : handshake.Wired session) (unfailed : handshake.failed = false)
    {channel : DeviceChannel} (device : handshake.device = .setup channel) (port : Port) :
    Wired session { handshake with
      device := .sendPort channel port
      socket := Function.update handshake.socket channel (.listening port []) } := by
  have closed : handshake.socket channel = .created := by
    apply (wired.created_iff channel).mpr
    rw [device]
    cases channel <;> decide
  have linked := wired.linked channel
  rw [closed] at linked
  have unstarted := linked.eq_unstarted
  have told := wired.told
  have unclosed := wired.unclosed unfailed
  refine ⟨?_, ?_, ?_, wired.unstarted_iff, ?_, ?_, wired.closed⟩
  · intro other
    by_cases same : other = channel
    · subst same
      simp only [Function.update_self, unstarted]
      exact .offered port
    · simpa only [Function.update_of_ne same] using wired.linked other
  · intro other
    have created := wired.created_iff other
    rw [device] at created
    cases channel <;> cases other <;>
      simp_all [DevicePoint.opened]
  · intro other
    have accepted := wired.accepted_iff other
    rw [device] at accepted
    cases channel <;> cases other <;>
      simp_all [DevicePoint.connected, DeviceSocket.IsAccepted]
  · intro other otherPort sending
    cases sending
    simp [DeviceSocket.number]
  · rw [device] at told
    have sent : (DevicePoint.setup channel).sent = (DevicePoint.sendPort channel port).sent := by
      cases channel <;> rfl
    have apart : channel ∉ (DevicePoint.setup channel).sent := by cases channel <;> decide
    have untouched : ∀ other ∈ (DevicePoint.setup channel).sent,
        (handshake.socket other).number =
          (Function.update handshake.socket channel (.listening port []) other).number := by
      intro other other_mem
      have different : other ≠ channel := by
        rintro rfl
        exact apart other_mem
      rw [Function.update_of_ne different]
    have kept := told.congr untouched
    generalize handshake.client = client, handshake.toClient = toClient at kept unclosed
    cases kept with
    | nothing _ =>
        rw [sent]
        exact .nothing (by simp)
    | first begun => exact .first (sent ▸ begun)
    | both all => exact .both (sent ▸ all)
    | closed => exact absurd rfl unclosed
    | homeless all => exact .homeless (sent ▸ all)

/-- The connection that a device accepts is the one of its own client. -/
theorem Wired.accept (wired : handshake.Wired session) (unfailed : handshake.failed = false)
    {channel : DeviceChannel} (device : handshake.device = .accept channel) {port : Port}
    {peer : Session × DeviceChannel} {backlog : List (Session × DeviceChannel)}
    (waiting : handshake.socket channel = .listening port (peer :: backlog)) :
    Wired session { handshake with
      device := afterAccept channel
      socket := Function.update handshake.socket channel (.accepted port peer) } := by
  have linked := wired.linked channel
  rw [waiting] at linked
  generalize pending : handshake.thread channel = thread at linked
  cases linked with
  | pending =>
      have told := wired.told
      have unclosed := wired.unclosed unfailed
      refine ⟨?_, ?_, ?_, wired.unstarted_iff, ?_, ?_, wired.closed⟩
      · intro other
        by_cases same : other = channel
        · subst same
          simp only [Function.update_self, pending]
          exact .accepted port
        · simpa only [Function.update_of_ne same] using wired.linked other
      · intro other
        have created := wired.created_iff other
        rw [device] at created
        cases channel <;> cases other <;>
          simp_all [DevicePoint.opened, afterAccept]
      · intro other
        have accepted := wired.accepted_iff other
        rw [device] at accepted
        cases channel <;> cases other <;>
          simp_all [DevicePoint.connected, DeviceSocket.IsAccepted, afterAccept]
      · intro other otherPort sending
        cases channel <;> cases sending
      · rw [device] at told
        have sent : (DevicePoint.accept channel).sent = (afterAccept channel).sent := by
          cases channel <;> rfl
        have same : (DeviceSocket.accepted port (session, channel)).number =
            (handshake.socket channel).number := by
          rw [waiting]
          rfl
        have kept := told.congr fun other _ => (number_update same other).symm
        generalize handshake.client = client, handshake.toClient = toClient at kept unclosed
        cases kept with
        | nothing _ =>
            rw [sent]
            exact .nothing (by cases channel <;> simp [afterAccept])
        | first begun => exact .first (sent ▸ begun)
        | both all => exact .both (sent ▸ all)
        | closed => exact absurd rfl unclosed
        | homeless all => exact .homeless (sent ▸ all)

/-- A thread connects to the socket that has been opened for it. -/
theorem Wired.connect (wired : handshake.Wired session) {channel : DeviceChannel} {port : Port}
    {retries : ℕ} (connecting : handshake.thread channel = .connecting port.number retries)
    (listening : handshake.socket channel = .listening port []) :
    Wired session { handshake with
      thread := Function.update handshake.thread channel .connected
      socket := Function.update handshake.socket channel
        (.listening port [(session, channel)]) } := by
  have same : (DeviceSocket.listening port [(session, channel)]).number =
      (handshake.socket channel).number := by
    rw [listening]
    rfl
  refine ⟨?_, ?_, ?_, ?_, ?_, ?_, wired.closed⟩
  · intro other
    by_cases same : other = channel
    · subst same
      simp only [Function.update_self]
      exact .pending port
    · simpa only [Function.update_of_ne same] using wired.linked other
  · intro other
    have created := wired.created_iff other
    by_cases same : other = channel
    · subst same
      simpa [listening] using created
    · simpa only [Function.update_of_ne same] using created
  · intro other
    have accepted := wired.accepted_iff other
    by_cases same : other = channel
    · subst same
      simpa [listening, DeviceSocket.IsAccepted] using accepted
    · simpa only [Function.update_of_ne same] using accepted
  · intro other
    have unstarted := wired.unstarted_iff other
    by_cases same : other = channel
    · subst same
      simpa [connecting] using unstarted
    · simpa only [Function.update_of_ne same] using unstarted
  · intro other otherPort sending
    exact (number_update same other).trans (wired.sending other otherPort sending)
  · exact wired.told.congr fun other _ => (number_update same other).symm

theorem testLimit_keeps {atLimit : Bool} (performed : handshake.testLimit atLimit = some next) :
    next.socket = handshake.socket ∧ next.failed = handshake.failed ∧
      next.client = handshake.client := by
  rw [Handshake.testLimit] at performed
  split at performed
  · split_ifs at performed
    · cases performed
      exact ⟨rfl, rfl, rfl⟩
    · cases performed
      exact ⟨rfl, rfl, rfl⟩
  · cases performed

theorem sendPort_keeps (performed : handshake.sendPort = some next) :
    next.socket = handshake.socket ∧ next.failed = handshake.failed ∧
      next.client = handshake.client := by
  rw [Handshake.sendPort] at performed
  split at performed
  · cases performed
    exact ⟨rfl, rfl, rfl⟩
  · cases performed

theorem socket_fails (performed : handshake.fails = some next) :
    next.socket = handshake.socket := by
  rw [Handshake.fails] at performed
  split at performed
  case h_4 => cases performed
  all_goals
    cases performed
    rfl

theorem receivePacket_keeps {stat : Bytes → PathStatus}
    (performed : handshake.receivePacket stat = some next) :
    next.socket = handshake.socket ∧ next.failed = handshake.failed := by
  rw [Handshake.receivePacket] at performed
  split at performed
  · cases performed
    exact ⟨rfl, rfl⟩
  · split at performed
    · cases performed
      exact ⟨rfl, rfl⟩
    · split at performed
      all_goals
        cases performed
        exact ⟨rfl, rfl⟩
  · split_ifs at performed
    cases performed
    exact ⟨rfl, rfl⟩
  · split_ifs at performed
    cases performed
    exact ⟨rfl, rfl⟩
  · cases performed

end Handshake

end SyncDir
