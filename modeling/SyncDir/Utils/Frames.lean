import SyncDir.Utils.Stream

/-!
# Frames

What `sendPacket` puts on the wire is a frame: a header with a length between 1 and
`MAX_PACKET_SIZE` and the total size that belongs to it, and a payload of this length.

The length passes through sixteen bits before it is checked, so that a payload of 65536 bytes and
more can become a frame of its first bytes.  The receiver checks neither the length nor the total
size, and it does not notice that the peer has closed the connection inside a payload.
-/

namespace SyncDir

def Splitting.whole : Splitting where
  size := fun _ available => available
  positive := fun _ _ => id
  bounded := fun _ _ => le_rfl

namespace NetworkManager

open PacketType

/-! ### What is sent -/

def lengthField (payload : Bytes) : ℕ :=
  payload.length % 65536

theorem build_length (type seqn : UInt16) (payload : Bytes) :
    (Packet.build type seqn payload).length.toNat = lengthField payload := by
  rw [Packet.build, UInt16.toNat_ofNat', lengthField]

/-- Only the length decides whether a packet is sent. -/
theorem isPacketValid_build_iff (type seqn : UInt16) (payload : Bytes) :
    (Packet.build type seqn payload).isPacketValid = true ↔
      0 < lengthField payload ∧ lengthField payload ≤ MAX_PACKET_SIZE := by
  have length := build_length type seqn payload
  have bounded : lengthField payload < 65536 := Nat.mod_lt _ (by decide)
  have total : ¬(Packet.build type seqn payload).total_size < UInt32.ofNat HEADER_SIZE := by
    simp only [Packet.build] at length ⊢
    rw [UInt32.lt_iff_toNat_lt, length, UInt32.toNat_ofNat', UInt32.toNat_ofNat', HEADER_SIZE]
    omega
  have zero : (Packet.build type seqn payload).length = 0 ↔ lengthField payload = 0 := by
    rw [← length, ← UInt16.toNat_inj]
    rfl
  have present : (Packet.build type seqn payload).payload.isSome = true := rfl
  simp only [Packet.isPacketValid, total, length, present, decide_false, Bool.false_or,
    Bool.and_true, Bool.and_eq_true, Bool.not_eq_true', decide_eq_false_iff_not, Nat.not_lt,
    beq_eq_false_iff_ne, ne_eq, zero]
  omega

section SentPart

variable (splitting : Splitting) (type seqn : UInt16) {payload : Bytes}
  (positive : 0 < lengthField payload) (fits : lengthField payload ≤ MAX_PACKET_SIZE)

/-- The part of a payload that is sent. -/
def sentPart : Message where
  type := type
  seqn := seqn
  payload := payload.take (lengthField payload)
  nonempty := by
    have within := Nat.mod_le payload.length 65536
    rw [← List.length_pos_iff, List.length_take]
    rw [lengthField] at positive ⊢
    omega
  fits := (List.length_take_le ..).trans fits

theorem sentPart_length :
    (sentPart type seqn positive fits).payload.length = lengthField payload := by
  have within : lengthField payload ≤ payload.length := Nat.mod_le _ _
  rw [sentPart, List.length_take, min_eq_left within]

/-- A payload whose length fits into sixteen bits is sent as a whole. -/
theorem sentPart_payload_eq_iff :
    (sentPart type seqn positive fits).payload = payload ↔ payload.length < 65536 := by
  have length := sentPart_length type seqn positive fits
  constructor
  · intro whole
    rw [whole, lengthField] at length
    omega
  · intro short
    have field : lengthField payload = payload.length := Nat.mod_eq_of_lt short
    change payload.take (lengthField payload) = payload
    rw [field, List.take_length]

/-- The header is that of the part, so that the packet is serialized to its frame. -/
theorem serializePacket_build :
    serializePacket (Packet.build type seqn payload)
        (List.replicate (HEADER_SIZE + (Packet.build type seqn payload).length.toNat) 0) =
      .ok (frame (sentPart type seqn positive fits)) := by
  have length : (sentPart type seqn positive fits).packet.length =
      (Packet.build type seqn payload).length := by
    rw [← UInt16.toNat_inj, Message.packet_length, sentPart_length, build_length]
  have header : serializeHeader (sentPart type seqn positive fits).packet =
      serializeHeader (Packet.build type seqn payload) := by
    simp only [Message.packet, Packet.build, serializeHeader] at length ⊢
    rw [length]
    rfl
  have field := build_length type seqn payload
  have present : (Packet.build type seqn payload).payload = some payload := rfl
  simp only [serializePacket, List.length_replicate, lt_irrefl, if_false, frame, header, present,
    field]
  simp [sentPart]

theorem sendPacketBytes_build (out : Outgoing) :
    ∃ calls, sendPacketBytes (.healthy splitting) type seqn payload out =
      (.ok (), { wire := out.wire ++ frame (sentPart type seqn positive fits), calls }) := by
  rcases sendLoop_healthy splitting (frame (sentPart type seqn positive fits)) 0 out
    with ⟨calls, sent⟩
  have valid := (isPacketValid_build_iff type seqn payload).mpr ⟨positive, fits⟩
  have serialized := serializePacket_build type seqn positive fits
  refine ⟨calls, ?_⟩
  simp only [sendPacketBytes, valid, Bool.true_eq_false, if_false, serialized]
  simpa using sent

end SentPart

theorem sendPacketBytes_of_invalid (socket : Socket) (type seqn : UInt16) {payload : Bytes}
    (invalid : ¬(0 < lengthField payload ∧ lengthField payload ≤ MAX_PACKET_SIZE))
    (out : Outgoing) :
    sendPacketBytes socket type seqn payload out =
      (.error (.runtime_error "Invalid packet"), out) := by
  have refused := (isPacketValid_build_iff type seqn payload).not.mpr invalid
  simp only [sendPacketBytes, Bool.eq_false_of_not_eq_true refused, if_true]

/-- The sending throws before it has sent a byte, or it sends a frame from which the whole payload
is received. -/
def AllOrNothing (splitting : Splitting) (type seqn : UInt16) (payload : Bytes)
    (out : Outgoing) : Prop :=
  (∃ exception, sendPacketBytes (.healthy splitting) type seqn payload out =
      (.error exception, out)) ∨
    ∃ sent calls, sendPacketBytes (.healthy splitting) type seqn payload out =
        (.ok (), { wire := out.wire ++ sent, calls }) ∧
      ∀ receiving rest extra calls, ∃ pkt last,
        receivePacket (MAX_PACKET_SIZE + extra) (.healthy receiving)
            { stream := sent ++ rest, calls } =
          some (.ok pkt, { stream := rest, calls := last }) ∧
        pkt.type = type ∧ pkt.seqn = seqn ∧ pkt.payload = some payload

theorem allOrNothing_iff_whole (splitting : Splitting) (type seqn : UInt16) {payload : Bytes}
    (positive : 0 < lengthField payload) (fits : lengthField payload ≤ MAX_PACKET_SIZE)
    (out : Outgoing) :
    AllOrNothing splitting type seqn payload out ↔
      (sentPart type seqn positive fits).payload = payload := by
  rcases sendPacketBytes_build splitting type seqn positive fits out with ⟨calls, sentFrame⟩
  constructor
  · rintro (⟨exception, failed⟩ | ⟨sent, _, wholeSent, received⟩)
    · rw [sentFrame] at failed
      cases failed
    · rw [sentFrame, Prod.mk.injEq, Outgoing.mk.injEq] at wholeSent
      have same : frame (sentPart type seqn positive fits) = sent :=
        List.append_cancel_left wholeSent.2.1
      rcases received splitting [] 0 0 with ⟨pkt, _, whole, _, _, payloadEq⟩
      rcases receivePacket_frame splitting (sentPart type seqn positive fits) [] 0 0
        with ⟨_, part⟩
      rw [← same, part, Option.some_inj, Prod.mk.injEq, Except.ok.injEq] at whole
      rw [← whole.1] at payloadEq
      exact Option.some_injective _ payloadEq
  · intro whole
    refine Or.inr ⟨_, calls, sentFrame, ?_⟩
    intro receiving rest extra calls
    rcases receivePacket_frame receiving (sentPart type seqn positive fits) rest calls extra
      with ⟨last, received⟩
    exact ⟨_, last, received, rfl, rfl, congrArg some whole⟩

/-- A payload is sent as a whole or not at all unless its length is beyond sixteen bits, and the
remainder is a length that is accepted. -/
theorem allOrNothing_iff (splitting : Splitting) (type seqn : UInt16) (payload : Bytes)
    (out : Outgoing) :
    AllOrNothing splitting type seqn payload out ↔
      ¬(65536 ≤ payload.length ∧ 1 ≤ payload.length % 65536 ∧
        payload.length % 65536 ≤ MAX_PACKET_SIZE) := by
  by_cases valid : 0 < lengthField payload ∧ lengthField payload ≤ MAX_PACKET_SIZE
  · rcases valid with ⟨positive, fits⟩
    have wrapped : (65536 ≤ payload.length ∧ 1 ≤ payload.length % 65536 ∧
        payload.length % 65536 ≤ MAX_PACKET_SIZE) ↔ 65536 ≤ payload.length :=
      and_iff_left ⟨positive, fits⟩
    rw [wrapped, Nat.not_le, ← sentPart_payload_eq_iff type seqn positive fits]
    exact allOrNothing_iff_whole splitting type seqn positive fits out
  · have refused := sendPacketBytes_of_invalid (.healthy splitting) type seqn valid out
    exact iff_of_true (Or.inl ⟨_, refused⟩) fun wrapped => valid wrapped.2

theorem sendPacketBytes_wrapped :
    ∃ calls, sendPacketBytes (.healthy Splitting.whole) t_DATA.value 0 (List.replicate 65537 7)
        { wire := [], calls := 0 } =
      (.ok (), { wire := [0, 0, 0, 0, 0, 0, 0, 11, 0, 1, 7], calls }) := by
  have field : lengthField (List.replicate 65537 (7 : UInt8)) = 1 := by
    rw [lengthField, List.length_replicate]
  have positive : 0 < lengthField (List.replicate 65537 (7 : UInt8)) := by omega
  have fits : lengthField (List.replicate 65537 (7 : UInt8)) ≤ MAX_PACKET_SIZE := by
    rw [field]
    decide
  have part : sentPart t_DATA.value 0 positive fits =
      ⟨t_DATA.value, 0, [7], by decide, by decide⟩ := by
    simp only [sentPart, field, List.take_replicate]
    rfl
  rcases sendPacketBytes_build Splitting.whole t_DATA.value 0 positive fits
    { wire := [], calls := 0 } with ⟨calls, sent⟩
  rw [part] at sent
  exact ⟨calls, sent⟩

/-! ### What is accepted -/

def Returns (splitting : Splitting) (stream : Bytes) (calls : ℕ) : Prop :=
  ∃ fuel pkt after, receivePacket fuel (.healthy splitting) { stream, calls } =
    some (.ok pkt, after)

def Throws (splitting : Splitting) (stream : Bytes) (calls : ℕ) : Prop :=
  ∃ fuel exception after, receivePacket fuel (.healthy splitting) { stream, calls } =
    some (.error exception, after)

def BeginsWithFrame (stream : Bytes) : Prop :=
  ∃ sending type seqn payload emitted calls rest,
    sendPacketBytes (.healthy sending) type seqn payload { wire := [], calls := 0 } =
        (.ok (), { wire := emitted, calls }) ∧
      stream = emitted ++ rest

/-- The stream has a header with an admissible length and the total size for it, and a payload of
this length. -/
def WellFramed (stream : Bytes) : Prop :=
  HEADER_SIZE ≤ stream.length ∧
    let pkt := deserializeHeader (stream.take HEADER_SIZE)
    1 ≤ pkt.length.toNat ∧ pkt.length.toNat ≤ MAX_PACKET_SIZE ∧
      pkt.total_size.toNat = HEADER_SIZE + pkt.length.toNat ∧
      HEADER_SIZE + pkt.length.toNat ≤ stream.length

/-- A header of ten bytes is what its fields are serialized to. -/
theorem serializeHeader_deserializeHeader {header_buffer : Bytes}
    (length : header_buffer.length = HEADER_SIZE) :
    serializeHeader (deserializeHeader header_buffer) = header_buffer := by
  rw [HEADER_SIZE] at length
  have reencoded (width : ℕ) (bytes : Bytes) (full : bytes.length = width) :
      BigEndian.encode width (BigEndian.decode bytes) = bytes := by
    rw [← full, BigEndian.encode_decode]
  have short (bytes : Bytes) (full : bytes.length = 2) :
      (UInt16.ofNat (BigEndian.decode bytes)).toNat = BigEndian.decode bytes := by
    have bounded := BigEndian.decode_lt bytes
    rw [full] at bounded
    exact UInt16.toNat_ofNat_of_lt' bounded
  have long (bytes : Bytes) (full : bytes.length = 4) :
      (UInt32.ofNat (BigEndian.decode bytes)).toNat = BigEndian.decode bytes := by
    have bounded := BigEndian.decode_lt bytes
    rw [full] at bounded
    exact UInt32.toNat_ofNat_of_lt' bounded
  have cut (start width : ℕ) (within : start + width ≤ 10) :
      ((header_buffer.drop start).take width).length = width := by
    rw [List.length_take, List.length_drop]
    omega
  have type : (header_buffer.take 2).length = 2 := cut 0 2 (by decide)
  have seqn := cut 2 2 (by decide)
  have total := cut 4 4 (by decide)
  have payload := cut 8 2 (by decide)
  simp only [serializeHeader, deserializeHeader, short _ type, short _ seqn, long _ total,
    short _ payload, reencoded _ _ type, reencoded _ _ seqn, reencoded _ _ total,
    reencoded _ _ payload]
  rw [← List.take_add, ← List.take_add, ← List.take_add, List.take_of_length_le length.le]

theorem beginsWithFrame_iff_message (stream : Bytes) :
    BeginsWithFrame stream ↔ ∃ message rest, stream = frame message ++ rest := by
  constructor
  · rintro ⟨sending, type, seqn, payload, emitted, calls, rest, sent, rfl⟩
    by_cases valid : 0 < lengthField payload ∧ lengthField payload ≤ MAX_PACKET_SIZE
    · rcases sendPacketBytes_build sending type seqn valid.1 valid.2 { wire := [], calls := 0 }
        with ⟨_, sentFrame⟩
      rw [sentFrame, Prod.mk.injEq, Outgoing.mk.injEq, List.nil_append] at sent
      exact ⟨_, rest, by rw [sent.2.1]⟩
    · rw [sendPacketBytes_of_invalid _ _ _ valid] at sent
      cases sent
  · rintro ⟨message, rest, rfl⟩
    rcases sendPacketBytes_message Splitting.whole message { wire := [], calls := 0 }
      with ⟨calls, sent⟩
    exact ⟨_, _, _, _, _, calls, rest, sent, rfl⟩

/-- The frames that are sent are those that a header describes. -/
theorem beginsWithFrame_iff (stream : Bytes) : BeginsWithFrame stream ↔ WellFramed stream := by
  rw [beginsWithFrame_iff_message]
  constructor
  · rintro ⟨message, rest, rfl⟩
    have header : (frame message ++ rest).take HEADER_SIZE = serializeHeader message.packet := by
      rw [frame, List.append_assoc, List.take_left' (serializeHeader_length _)]
    have length : (frame message ++ rest).length =
        HEADER_SIZE + message.payload.length + rest.length := by
      rw [frame, List.length_append, List.length_append, serializeHeader_length]
    have positive := message.length_pos
    rw [WellFramed, header, deserializeHeader_serializeHeader, length]
    simp only [message.packet_length, message.packet_total_size]
    refine ⟨by omega, positive, message.fits, trivial, by omega⟩
  · rintro ⟨long, positive, fits, total, whole⟩
    have header : (stream.take HEADER_SIZE).length = HEADER_SIZE := List.length_take_of_le long
    set pkt := deserializeHeader (stream.take HEADER_SIZE) with described
    have payload : ((stream.drop HEADER_SIZE).take pkt.length.toNat).length =
        pkt.length.toNat := by
      rw [List.length_take, List.length_drop]
      omega
    refine ⟨⟨pkt.type, pkt.seqn, (stream.drop HEADER_SIZE).take pkt.length.toNat,
      List.length_pos_iff.mp (payload.symm ▸ positive), payload.le.trans fits⟩,
      (stream.drop HEADER_SIZE).drop pkt.length.toNat, ?_⟩
    have sameHeader : serializeHeader (Packet.build pkt.type pkt.seqn
        ((stream.drop HEADER_SIZE).take pkt.length.toNat)) = stream.take HEADER_SIZE := by
      rw [← serializeHeader_deserializeHeader header, ← described]
      simp only [serializeHeader, Packet.build, payload, UInt16.ofNat_toNat, ← total,
        UInt32.ofNat_toNat]
    rw [frame, Message.packet, sameHeader, List.append_assoc, List.take_append_drop,
      List.take_append_drop]

/-! ### What is received -/

section Receive

variable (splitting : Splitting) {stream : Bytes} (calls : ℕ)

theorem returns_of_packet {pkt : Packet} {rest : Bytes}
    (found : nextPacket stream = .packet pkt rest) : Returns splitting stream calls := by
  rcases receivePacket_packet splitting found 0 calls with ⟨last, received⟩
  exact ⟨_, pkt, _, received⟩

theorem throws_of_closed (found : nextPacket stream = .closed) :
    Throws splitting stream calls := by
  rcases receivePacket_closed splitting found 0 calls with ⟨last, closed⟩
  exact ⟨0, _, last, closed⟩

theorem not_returns_of_closed (found : nextPacket stream = .closed) :
    ¬Returns splitting stream calls := by
  rintro ⟨fuel, pkt, after, received⟩
  rcases receivePacket_closed splitting found fuel calls with ⟨last, closed⟩
  rw [closed] at received
  cases received

theorem not_throws_of_truncated (found : nextPacket stream = .truncated) :
    ¬Throws splitting stream calls := by
  rintro ⟨fuel, exception, after, thrown⟩
  rw [receivePacket_truncated splitting found] at thrown
  cases thrown

end Receive

theorem nextPacket_eq_closed_iff (stream : Bytes) :
    nextPacket stream = .closed ↔ stream.length < HEADER_SIZE := by
  simp only [nextPacket]
  split_ifs <;> simp_all

theorem nextPacket_of_wellFramed {stream : Bytes} (wellFramed : WellFramed stream) :
    ∃ pkt rest, nextPacket stream = .packet pkt rest := by
  rcases wellFramed with ⟨long, _, _, _, whole⟩
  have present : ¬(stream.drop HEADER_SIZE).length <
      (deserializeHeader (stream.take HEADER_SIZE)).length.toNat := by
    rw [List.length_drop]
    omega
  simp only [nextPacket, if_neg (Nat.not_lt.mpr long), if_neg present]
  split_ifs
  · exact ⟨_, _, rfl⟩
  · exact ⟨_, _, rfl⟩

/-- `receivePacket` returns a packet just if the stream begins with a frame, and throws
otherwise. -/
def AcceptsFrames (splitting : Splitting) (stream : Bytes) (calls : ℕ) : Prop :=
  (Returns splitting stream calls ↔ BeginsWithFrame stream) ∧
    (¬BeginsWithFrame stream → Throws splitting stream calls)

/-- So it does exactly for streams that are shorter than a header, or begin with a frame: behind
any other header it returns something else, or waits for ever. -/
theorem acceptsFrames_iff (splitting : Splitting) (stream : Bytes) (calls : ℕ) :
    AcceptsFrames splitting stream calls ↔
      stream.length < HEADER_SIZE ∨ WellFramed stream := by
  rw [AcceptsFrames, beginsWithFrame_iff, ← nextPacket_eq_closed_iff]
  by_cases wellFramed : WellFramed stream
  · rcases nextPacket_of_wellFramed wellFramed with ⟨pkt, rest, found⟩
    have returns := returns_of_packet splitting calls found
    exact iff_of_true ⟨iff_of_true returns wellFramed, absurd wellFramed⟩ (Or.inr wellFramed)
  · rw [or_iff_left wellFramed]
    cases found : nextPacket stream with
    | packet pkt rest =>
        have returns := returns_of_packet splitting calls found
        refine iff_of_false (fun accepts => wellFramed (accepts.1.mp returns)) ?_
        exact Received.noConfusion
    | closed =>
        have refused := not_returns_of_closed splitting calls found
        have throws := throws_of_closed splitting calls found
        exact iff_of_true ⟨iff_of_false refused wellFramed, fun _ => throws⟩ rfl
    | truncated =>
        have silent := not_throws_of_truncated splitting calls found
        refine iff_of_false (fun accepts => silent (accepts.2 wellFramed)) ?_
        exact Received.noConfusion

/-- A header alone, with the length zero, is received as a packet; behind a header with the length
one, `receivePacket` waits for a byte that never comes. -/
theorem receivePacket_unchecked :
    (∃ last, receivePacket 65535 (.healthy Splitting.whole)
        { stream := List.replicate 10 0, calls := 0 } =
      some (.ok { type := 0, seqn := 0, total_size := 0, length := 0, payload := none }, last)) ∧
      ¬BeginsWithFrame (List.replicate 10 0) ∧
      ∀ fuel, receivePacket fuel (.healthy Splitting.whole)
        { stream := [0, 0, 0, 0, 0, 0, 0, 11, 0, 1], calls := 0 } = none := by
  refine ⟨?_, ?_, ?_⟩
  · have found : nextPacket (List.replicate 10 0) =
        .packet { type := 0, seqn := 0, total_size := 0, length := 0, payload := none } [] := rfl
    rcases receivePacket_packet Splitting.whole found 0 0 with ⟨last, received⟩
    exact ⟨_, received⟩
  · rw [beginsWithFrame_iff]
    rintro ⟨_, positive, _⟩
    exact absurd positive (by decide)
  · have found : nextPacket [0, 0, 0, 0, 0, 0, 0, 11, 0, 1] = .truncated := rfl
    intro fuel
    exact receivePacket_truncated Splitting.whole found fuel 0

end NetworkManager

end SyncDir
