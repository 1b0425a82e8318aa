import SyncDir.Library.BigEndian
import SyncDir.Utils.NetworkManager

/-!
# Packet framing on a byte stream

A packet travels as a header of ten bytes, in network byte order, followed by
its payload.  A stream socket keeps neither the boundaries of writes nor those
of reads: every `send` may accept, and every `recv` may return, any nonempty
part of what it is asked for, which is what a `Splitting` chooses.

The main result is that packets arrive unchanged whatever the splittings of both
sides are, which justifies the packet-level view of a connection in
`SyncDir.Utils.NetworkManager`.

The loop of `receivePayload` does not stop when the peer has closed the
connection, so it takes the number of `recv` calls it may still make.
-/

namespace SyncDir

/-- How many of the bytes available to its `call`-th call a socket takes. -/
structure Splitting where
  size : ℕ → ℕ → ℕ
  positive : ∀ call available, 0 < available → 0 < size call available
  bounded : ∀ call available, size call available ≤ available

/-- A connected socket: how it splits the stream, and which of its calls return -1. -/
structure Socket where
  splitting : Splitting
  fails : ℕ → Bool

def Socket.healthy (splitting : Splitting) : Socket :=
  { splitting, fails := fun _ => false }

/-- The sending side: the bytes accepted so far, and the number of `send` calls. -/
structure Outgoing where
  wire : Bytes
  calls : ℕ

/-- The receiving side: the bytes not yet read, and the number of `recv` calls. -/
structure Incoming where
  stream : Bytes
  calls : ℕ

/-- What `recv` returns: -1, 0 when the peer has closed, or a part of the stream. -/
inductive RecvResult
  | failed
  | closed
  | bytes (data : Bytes)

namespace NetworkManager

/-! ### Serialization -/

def serializeHeader (pkt : Packet) : Bytes :=
  BigEndian.encode 2 pkt.type.toNat ++ BigEndian.encode 2 pkt.seqn.toNat ++
    BigEndian.encode 4 pkt.total_size.toNat ++ BigEndian.encode 2 pkt.length.toNat

/-- `serializePacket` writes a packet over the beginning of a buffer. -/
def serializePacket (pkt : Packet) (buffer : Bytes) : Except Exception Bytes :=
  if buffer.length < HEADER_SIZE + pkt.length.toNat then
    .error (.runtime_error "Buffer size is too small for serialization")
  else
    let header := serializeHeader pkt
    let rest := buffer.drop HEADER_SIZE
    match pkt.payload with
    | some payload => .ok (header ++ payload.take pkt.length.toNat ++ rest.drop pkt.length.toNat)
    | none => .ok (header ++ rest)

/-- `deserializeHeader` reads the fields of a header and leaves the payload pointer unset. -/
def deserializeHeader (header_buffer : Bytes) : Packet where
  type := UInt16.ofNat (BigEndian.decode (header_buffer.take 2))
  seqn := UInt16.ofNat (BigEndian.decode ((header_buffer.drop 2).take 2))
  total_size := UInt32.ofNat (BigEndian.decode ((header_buffer.drop 4).take 4))
  length := UInt16.ofNat (BigEndian.decode ((header_buffer.drop 8).take 2))
  payload := none

/-! ### Sending -/

/-- The `send` loop of `sendPacket`. -/
def sendLoop (socket : Socket) (buffer : Bytes) (total_sent : ℕ) (out : Outgoing) :
    Except Exception Unit × Outgoing :=
  if total_sent < buffer.length then
    if socket.fails out.calls then
      (.error (.runtime_error "Failed to send packet on "), { out with calls := out.calls + 1 })
    else
      let sent := socket.splitting.size out.calls (buffer.length - total_sent)
      sendLoop socket buffer (total_sent + sent)
        { wire := out.wire ++ (buffer.drop total_sent).take sent, calls := out.calls + 1 }
  else
    (.ok (), out)
termination_by buffer.length - total_sent
decreasing_by
  have := socket.splitting.positive out.calls (buffer.length - total_sent) (by omega)
  omega

/-- `sendPacket(type, seqn, payload)` on a byte stream. -/
def sendPacketBytes (socket : Socket) (type seqn : UInt16) (payload : Bytes) (out : Outgoing) :
    Except Exception Unit × Outgoing :=
  let pkt := Packet.build type seqn payload
  if pkt.isPacketValid = false then
    (.error (.runtime_error "Invalid packet"), out)
  else
    match serializePacket pkt (List.replicate (HEADER_SIZE + pkt.length.toNat) 0) with
    | .error exception => (.error exception, out)
    | .ok buffer => sendLoop socket buffer 0 out

def sendPackets (socket : Socket) : List Message → Outgoing → Except Exception Unit × Outgoing
  | [], out => (.ok (), out)
  | message :: messages, out =>
      match sendPacketBytes socket message.type message.seqn message.payload out with
      | (.error exception, after) => (.error exception, after)
      | (.ok (), after) => sendPackets socket messages after

/-! ### Receiving -/

/-- `recv`: an empty stream means that the peer has closed the connection. -/
def recv (socket : Socket) (asked : ℕ) (incoming : Incoming) : RecvResult × Incoming :=
  if socket.fails incoming.calls then
    (.failed, { incoming with calls := incoming.calls + 1 })
  else if incoming.stream = [] then
    (.closed, { incoming with calls := incoming.calls + 1 })
  else
    let received := socket.splitting.size incoming.calls (min asked incoming.stream.length)
    (.bytes (incoming.stream.take received),
      { stream := incoming.stream.drop received, calls := incoming.calls + 1 })

theorem length_pos_of_recv {socket : Socket} {asked : ℕ} {incoming after : Incoming}
    {data : Bytes} (positive : 0 < asked)
    (returned : recv socket asked incoming = (.bytes data, after)) : 0 < data.length := by
  unfold recv at returned
  split at returned
  · simp at returned
  · split at returned
    · simp at returned
    · rename_i nonempty
      have available := List.length_pos_iff.mpr nonempty
      have taken := socket.splitting.positive incoming.calls (min asked incoming.stream.length)
        (by omega)
      simp only [Prod.mk.injEq, RecvResult.bytes.injEq] at returned
      rw [← returned.1, List.length_take]
      omega

/-- The loop of `receiveHeader`. -/
def receiveHeader (socket : Socket) (header_buffer : Bytes) (incoming : Incoming) :
    Except Exception Bytes × Incoming :=
  if header_buffer.length < HEADER_SIZE then
    match _result : recv socket (HEADER_SIZE - header_buffer.length) incoming with
    | (.failed, after) =>
        (.error (.runtime_error "Failed to receive packet header\n"), after)
    | (.closed, after) => (.error (.runtime_error "Connection closed by peer\n"), after)
    | (.bytes data, after) => receiveHeader socket (header_buffer ++ data) after
  else
    (.ok header_buffer, incoming)
termination_by HEADER_SIZE - header_buffer.length
decreasing_by
  have := length_pos_of_recv (by omega) _result
  rw [List.length_append]
  omega

/-- The loop of `receivePayload`; `none` when it has not ended after `fuel` calls of `recv`. -/
def receivePayload (socket : Socket) (length : ℕ) :
    ℕ → Bytes → Incoming → Option (Except Exception Bytes × Incoming)
  | fuel, payload, incoming =>
      if payload.length < length then
        match fuel with
        | 0 => none
        | fuel + 1 =>
            match recv socket (length - payload.length) incoming with
            | (.failed, after) =>
                some (.error (.runtime_error "Failed to receive packet payload\n"), after)
            | (.closed, after) => receivePayload socket length fuel payload after
            | (.bytes data, after) => receivePayload socket length fuel (payload ++ data) after
      else
        some (.ok payload, incoming)

/-- `receivePacket`: the header, and the payload if its length is not zero. -/
def receivePacket (fuel : ℕ) (socket : Socket) (incoming : Incoming) :
    Option (Except Exception Packet × Incoming) :=
  match receiveHeader socket [] incoming with
  | (.error exception, after) => some (.error exception, after)
  | (.ok header_buffer, after) =>
      let pkt := deserializeHeader header_buffer
      if 0 < pkt.length.toNat then
        match receivePayload socket pkt.length.toNat fuel [] after with
        | none => none
        | some (.error exception, last) => some (.error exception, last)
        | some (.ok payload, last) => some (.ok { pkt with payload := some payload }, last)
      else
        some (.ok pkt, after)

def receivePackets (fuel : ℕ) (socket : Socket) :
    ℕ → Incoming → Option (Except Exception (List Packet) × Incoming)
  | 0, incoming => some (.ok [], incoming)
  | count + 1, incoming =>
      match receivePacket fuel socket incoming with
      | none => none
      | some (.error exception, after) => some (.error exception, after)
      | some (.ok pkt, after) =>
          (receivePackets fuel socket count after).map fun (result, last) =>
            (result.map (pkt :: ·), last)

/-! ### Healthy sockets -/

/-- On a healthy socket the send loop gets the rest of the buffer out. -/
theorem sendLoop_healthy (splitting : Splitting) (buffer : Bytes) (total_sent : ℕ)
    (out : Outgoing) :
    ∃ calls, sendLoop (.healthy splitting) buffer total_sent out =
      (.ok (), { wire := out.wire ++ buffer.drop total_sent, calls }) := by
  induction total_sent, out using sendLoop.induct (.healthy splitting) buffer with
  | case1 total_sent out unfinished failing => simp [Socket.healthy] at failing
  | case2 total_sent out unfinished working sent ih =>
      rcases ih with ⟨calls, sentRest⟩
      refine ⟨calls, ?_⟩
      rw [sendLoop, if_pos unfinished, if_neg working, sentRest, List.append_assoc,
        ← List.drop_drop, List.take_append_drop]
  | case3 total_sent out finished =>
      refine ⟨out.calls, ?_⟩
      rw [sendLoop, if_neg finished, List.drop_eq_nil_of_le (by omega), List.append_nil]

/-- A healthy `recv` on a nonempty stream returns a nonempty part of what is asked for. -/
theorem recv_healthy (splitting : Splitting) {asked : ℕ} (positive : 0 < asked)
    {incoming : Incoming} (nonempty : incoming.stream ≠ []) :
    ∃ count, 0 < count ∧ count ≤ asked ∧ count ≤ incoming.stream.length ∧
      recv (.healthy splitting) asked incoming = (.bytes (incoming.stream.take count),
        { stream := incoming.stream.drop count, calls := incoming.calls + 1 }) := by
  have available := List.length_pos_iff.mpr nonempty
  have lower := splitting.positive incoming.calls (min asked incoming.stream.length) (by omega)
  have upper := splitting.bounded incoming.calls (min asked incoming.stream.length)
  exact ⟨_, lower, by omega, by omega, by simp [recv, Socket.healthy, nonempty]⟩

/-- Taking a first part of what is missing leaves the same bytes to be collected. -/
theorem collect_step {collected stream : Bytes} {count goal : ℕ} (within : count ≤ stream.length)
    (missing : count ≤ goal - collected.length) :
    collected ++ stream.take count ++
        (stream.drop count).take (goal - (collected ++ stream.take count).length) =
      collected ++ stream.take (goal - collected.length) ∧
    (stream.drop count).drop (goal - (collected ++ stream.take count).length) =
      stream.drop (goal - collected.length) := by
  have length : (collected ++ stream.take count).length = collected.length + count := by
    rw [List.length_append, List.length_take]
    omega
  have split : goal - collected.length = count + (goal - (collected.length + count)) := by omega
  rw [length]
  constructor
  · rw [split, List.take_add, List.append_assoc]
  · rw [List.drop_drop, ← split]

/-- The header loop collects exactly the bytes that are missing. -/
theorem receiveHeader_healthy (splitting : Splitting) (header_buffer : Bytes)
    (incoming : Incoming) (short : header_buffer.length ≤ HEADER_SIZE)
    (enough : HEADER_SIZE - header_buffer.length ≤ incoming.stream.length) :
    ∃ calls, receiveHeader (.healthy splitting) header_buffer incoming =
      (.ok (header_buffer ++ incoming.stream.take (HEADER_SIZE - header_buffer.length)),
        { stream := incoming.stream.drop (HEADER_SIZE - header_buffer.length), calls }) := by
  induction missing : HEADER_SIZE - header_buffer.length using Nat.strong_induction_on
    generalizing header_buffer incoming with
  | _ remaining ih =>
      subst missing
      by_cases unfinished : header_buffer.length < HEADER_SIZE
      · have nonempty : incoming.stream ≠ [] := by
          intro empty
          simp [empty] at enough
          omega
        rcases recv_healthy splitting
          (Nat.sub_pos_of_lt unfinished) nonempty with ⟨count, positive, asked, within, returned⟩
        have longer : (header_buffer ++ incoming.stream.take count).length =
            header_buffer.length + count := by
          rw [List.length_append, List.length_take]
          omega
        rcases ih _ (by omega) (header_buffer ++ incoming.stream.take count)
          { stream := incoming.stream.drop count, calls := incoming.calls + 1 }
          (by omega) (by simp only [List.length_drop]; omega) rfl with ⟨calls, collected⟩
        rcases collect_step within asked with ⟨sameBytes, sameRest⟩
        refine ⟨calls, ?_⟩
        rw [receiveHeader, if_pos unfinished, returned]
        simp only
        rw [collected, sameBytes, sameRest]
      · refine ⟨incoming.calls, ?_⟩
        have complete : HEADER_SIZE - header_buffer.length = 0 := by omega
        rw [receiveHeader, if_neg unfinished, complete]
        simp

/-- So does the payload loop, which needs at most one call for each missing byte. -/
theorem receivePayload_healthy (splitting : Splitting) (length fuel : ℕ)
    (payload : Bytes) (incoming : Incoming) (short : payload.length ≤ length)
    (fuelled : length - payload.length ≤ fuel)
    (enough : length - payload.length ≤ incoming.stream.length) :
    ∃ calls, receivePayload (.healthy splitting) length fuel payload incoming =
      some (.ok (payload ++ incoming.stream.take (length - payload.length)),
        { stream := incoming.stream.drop (length - payload.length), calls }) := by
  induction fuel generalizing payload incoming with
  | zero =>
      refine ⟨incoming.calls, ?_⟩
      have complete : length - payload.length = 0 := by omega
      rw [receivePayload, if_neg (by omega), complete]
      simp
  | succ fuel ih =>
      by_cases unfinished : payload.length < length
      · have nonempty : incoming.stream ≠ [] := by
          intro empty
          simp [empty] at enough
          omega
        rcases recv_healthy splitting
          (Nat.sub_pos_of_lt unfinished) nonempty with ⟨count, positive, asked, within, returned⟩
        have longer : (payload ++ incoming.stream.take count).length = payload.length + count := by
          rw [List.length_append, List.length_take]
          omega
        rcases ih (payload ++ incoming.stream.take count)
          { stream := incoming.stream.drop count, calls := incoming.calls + 1 }
          (by omega) (by omega) (by simp only [List.length_drop]; omega) with ⟨calls, collected⟩
        rcases collect_step within asked with ⟨sameBytes, sameRest⟩
        refine ⟨calls, ?_⟩
        rw [receivePayload, if_pos unfinished]
        simp only [returned]
        rw [collected, sameBytes, sameRest]
      · refine ⟨incoming.calls, ?_⟩
        have complete : length - payload.length = 0 := by omega
        rw [receivePayload, if_neg unfinished, complete]
        simp

/-! ### Round trip -/

@[simp]
theorem serializeHeader_length (pkt : Packet) : (serializeHeader pkt).length = HEADER_SIZE := by
  simp [serializeHeader, HEADER_SIZE]

theorem deserializeHeader_serializeHeader (pkt : Packet) :
    deserializeHeader (serializeHeader pkt) = { pkt with payload := none } := by
  have type := BigEndian.decode_encode_of_lt 2 pkt.type.toNat_lt
  have seqn := BigEndian.decode_encode_of_lt 2 pkt.seqn.toNat_lt
  have total := BigEndian.decode_encode_of_lt 4 pkt.total_size.toNat_lt
  have length := BigEndian.decode_encode_of_lt 2 pkt.length.toNat_lt
  -- The encoded fields have literal lengths, so each of them is cut out by computation.
  have fields : deserializeHeader (serializeHeader pkt) =
      { type := UInt16.ofNat (BigEndian.decode (BigEndian.encode 2 pkt.type.toNat)),
        seqn := UInt16.ofNat (BigEndian.decode (BigEndian.encode 2 pkt.seqn.toNat)),
        total_size := UInt32.ofNat (BigEndian.decode (BigEndian.encode 4 pkt.total_size.toNat)),
        length := UInt16.ofNat (BigEndian.decode (BigEndian.encode 2 pkt.length.toNat)),
        payload := none } := rfl
  rw [fields, type, seqn, total, length]
  simp

def frame (message : Message) : Bytes :=
  serializeHeader message.packet ++ message.payload

theorem serializePacket_message (message : Message) :
    serializePacket message.packet
        (List.replicate (HEADER_SIZE + message.packet.length.toNat) 0) =
      .ok (frame message) := by
  have length := message.packet_length
  simp only [serializePacket, List.length_replicate, lt_irrefl, if_false, length]
  simp [Message.packet, Packet.build, frame]

theorem sendPacketBytes_message (splitting : Splitting) (message : Message) (out : Outgoing) :
    ∃ calls, sendPacketBytes (.healthy splitting) message.type message.seqn message.payload out =
      (.ok (), { wire := out.wire ++ frame message, calls }) := by
  rcases sendLoop_healthy splitting (frame message) 0 out with ⟨calls, sent⟩
  have valid := message.packet_valid
  have serialized := serializePacket_message message
  simp only [Message.packet] at valid serialized
  refine ⟨calls, ?_⟩
  simp only [sendPacketBytes, valid, Bool.true_eq_false, if_false, serialized]
  simpa using sent

theorem sendPackets_healthy (splitting : Splitting) (messages : List Message) (out : Outgoing) :
    ∃ calls, sendPackets (.healthy splitting) messages out =
      (.ok (), { wire := out.wire ++ (messages.map frame).flatten, calls }) := by
  induction messages generalizing out with
  | nil => exact ⟨out.calls, by simp [sendPackets]⟩
  | cons message messages ih =>
      rcases sendPacketBytes_message splitting message out with ⟨calls, sent⟩
      rcases ih { wire := out.wire ++ frame message, calls } with ⟨lastCalls, sentRest⟩
      exact ⟨lastCalls, by simp [sendPackets, sent, sentRest]⟩

/-- A frame at the head of the stream is received as the packet that was sent. -/
theorem receivePacket_frame (splitting : Splitting) (message : Message) (rest : Bytes)
    (calls extra : ℕ) :
    ∃ last, receivePacket (MAX_PACKET_SIZE + extra) (.healthy splitting)
        { stream := frame message ++ rest, calls } =
      some (.ok message.packet, { stream := rest, calls := last }) := by
  have length := message.packet_length
  have positive := message.length_pos
  have header : (serializeHeader message.packet).length = 10 := serializeHeader_length _
  rcases receiveHeader_healthy splitting []
    { stream := frame message ++ rest, calls } (by simp) (by simp [frame, HEADER_SIZE])
      with ⟨headerCalls, headerRead⟩
  have headerBytes : (frame message ++ rest).take HEADER_SIZE =
      serializeHeader message.packet := by
    rw [frame, List.append_assoc, List.take_left' (serializeHeader_length _)]
  have afterHeader : (frame message ++ rest).drop HEADER_SIZE = message.payload ++ rest := by
    rw [frame, List.append_assoc, List.drop_left' (serializeHeader_length _)]
  simp only [List.length_nil, Nat.sub_zero, List.nil_append, headerBytes, afterHeader]
    at headerRead
  rcases receivePayload_healthy splitting
    message.packet.length.toNat (MAX_PACKET_SIZE + extra) []
    { stream := message.payload ++ rest, calls := headerCalls } (by simp)
    (by have := message.fits; simp only [length, List.length_nil]; omega) (by simp [length])
      with ⟨payloadCalls, payloadRead⟩
  simp only [List.length_nil, Nat.sub_zero, List.nil_append, length, List.take_left,
    List.drop_left] at payloadRead
  refine ⟨payloadCalls, ?_⟩
  simp only [receivePacket, headerRead, deserializeHeader_serializeHeader, length, positive,
    if_true, payloadRead]
  rfl

theorem receivePackets_frames (splitting : Splitting) (messages : List Message) (rest : Bytes)
    (calls extra : ℕ) :
    ∃ last, receivePackets (MAX_PACKET_SIZE + extra) (.healthy splitting) messages.length
        { stream := (messages.map frame).flatten ++ rest, calls } =
      some (.ok (messages.map Message.packet), { stream := rest, calls := last }) := by
  induction messages generalizing calls with
  | nil => exact ⟨calls, rfl⟩
  | cons message messages ih =>
      rcases receivePacket_frame splitting message
        ((messages.map frame).flatten ++ rest) calls extra with ⟨nextCalls, received⟩
      rcases ih nextCalls with ⟨last, receivedRest⟩
      refine ⟨last, ?_⟩
      rw [List.map_cons, List.flatten_cons, List.append_assoc, List.length_cons, receivePackets,
        received]
      simp only [receivedRest]
      rfl

/-- Packets arrive as they were sent, whatever parts of them the sockets take at a time, and
what follows them on the stream is left for the next reader. -/
theorem receivePackets_sendPackets (sending receiving : Splitting) (messages : List Message)
    (rest : Bytes) (extra : ℕ) :
    ∃ wire sendCalls recvCalls,
      sendPackets (.healthy sending) messages { wire := [], calls := 0 } =
        (.ok (), { wire, calls := sendCalls }) ∧
      receivePackets (MAX_PACKET_SIZE + extra) (.healthy receiving) messages.length
          { stream := wire ++ rest, calls := 0 } =
        some (.ok (messages.map fun message =>
          { type := message.type, seqn := message.seqn,
            total_size := UInt32.ofNat (HEADER_SIZE + message.payload.length),
            length := UInt16.ofNat message.payload.length, payload := some message.payload }),
          { stream := rest, calls := recvCalls }) := by
  rcases sendPackets_healthy sending messages { wire := [], calls := 0 } with ⟨sendCalls, sent⟩
  rcases receivePackets_frames receiving messages rest 0 extra with ⟨recvCalls, received⟩
  refine ⟨_, sendCalls, recvCalls, sent, ?_⟩
  have fields : messages.map Message.packet = messages.map fun message =>
      { type := message.type, seqn := message.seqn,
        total_size := UInt32.ofNat (HEADER_SIZE + message.payload.length),
        length := UInt16.ofNat message.payload.length, payload := some message.payload } := by
    apply List.map_congr_left
    intro message _
    have length := message.packet_length
    simp only [Message.packet, Packet.build] at length ⊢
    rw [length]
  rw [List.nil_append, received, fields]

end NetworkManager

end SyncDir
