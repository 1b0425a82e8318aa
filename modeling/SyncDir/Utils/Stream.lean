import SyncDir.Utils.Framing

/-!
# What a peer sends before it closes

A peer can send any bytes and then close the connection.  `receivePacket` finds
either a packet at their head, or the end of the stream inside the header, which
raises an exception, or the end of the stream inside the payload, where its loop
goes on for ever.
-/

namespace SyncDir

namespace NetworkManager

inductive Received
  | packet (pkt : Packet) (rest : Bytes)
  /-- The stream ends before or inside a header. -/
  | closed
  /-- The stream ends inside a payload. -/
  | truncated

/-- What `receivePacket` finds at the head of a stream. -/
def nextPacket (stream : Bytes) : Received :=
  if stream.length < HEADER_SIZE then .closed
  else
    let pkt := deserializeHeader (stream.take HEADER_SIZE)
    let rest := stream.drop HEADER_SIZE
    if pkt.length = 0 then .packet pkt rest
    else if rest.length < pkt.length.toNat then .truncated
    else
      .packet { pkt with payload := some (rest.take pkt.length.toNat) }
        (rest.drop pkt.length.toNat)

theorem length_lt_of_nextPacket {stream rest : Bytes} {pkt : Packet}
    (found : nextPacket stream = .packet pkt rest) : rest.length < stream.length := by
  have headerSize : HEADER_SIZE = 10 := rfl
  simp only [nextPacket] at found
  split_ifs at found with short empty cut
  · cases found
    rw [List.length_drop]
    omega
  · cases found
    rw [List.length_drop, List.length_drop]
    omega

/-- How a stream ends after its last whole packet. -/
inductive Tail
  | closed
  | truncated
  deriving DecidableEq

def packetsOf (stream : Bytes) : List Packet × Tail :=
  match _found : nextPacket stream with
  | .packet pkt rest => (pkt :: (packetsOf rest).1, (packetsOf rest).2)
  | .closed => ([], .closed)
  | .truncated => ([], .truncated)
termination_by stream.length
decreasing_by all_goals exact length_lt_of_nextPacket _found

/-! ### Reading the stream from a socket -/

section Receive

variable (splitting : Splitting) {stream : Bytes}

theorem receiveHeader_closed (header_buffer : Bytes) (incoming : Incoming)
    (short : header_buffer.length + incoming.stream.length < HEADER_SIZE) :
    ∃ last, receiveHeader (.healthy splitting) header_buffer incoming =
      (.error (.runtime_error "Connection closed by peer\n"), last) := by
  induction missing : HEADER_SIZE - header_buffer.length using Nat.strong_induction_on
    generalizing header_buffer incoming with
  | _ remaining ih =>
      subst missing
      have unfinished : header_buffer.length < HEADER_SIZE := by omega
      rw [receiveHeader, if_pos unfinished]
      by_cases empty : incoming.stream = []
      · have closed : recv (.healthy splitting) (HEADER_SIZE - header_buffer.length) incoming =
            (.closed, { incoming with calls := incoming.calls + 1 }) := by
          simp [recv, Socket.healthy, empty]
        rw [closed]
        exact ⟨_, rfl⟩
      · rcases recv_healthy splitting (Nat.sub_pos_of_lt unfinished) empty
          with ⟨count, positive, asked, within, returned⟩
        have longer : (header_buffer ++ incoming.stream.take count).length =
            header_buffer.length + count := by
          rw [List.length_append, List.length_take]
          omega
        rw [returned]
        exact ih _ (by omega) (header_buffer ++ incoming.stream.take count)
          { stream := incoming.stream.drop count, calls := incoming.calls + 1 }
          (by simp only [longer, List.length_drop]; omega) rfl

/-- When the peer has closed inside a payload, no number of `recv` calls is enough. -/
theorem receivePayload_truncated (length fuel : ℕ) (payload : Bytes) (incoming : Incoming)
    (short : payload.length + incoming.stream.length < length) :
    receivePayload (.healthy splitting) length fuel payload incoming = none := by
  induction fuel generalizing payload incoming with
  | zero =>
      have unfinished : payload.length < length := by omega
      rw [receivePayload, if_pos unfinished]
  | succ fuel ih =>
      have unfinished : payload.length < length := by omega
      rw [receivePayload, if_pos unfinished]
      by_cases empty : incoming.stream = []
      · have closed : recv (.healthy splitting) (length - payload.length) incoming =
            (.closed, { incoming with calls := incoming.calls + 1 }) := by
          simp [recv, Socket.healthy, empty]
        simp only [closed]
        exact ih payload _ short
      · rcases recv_healthy splitting (Nat.sub_pos_of_lt unfinished) empty
          with ⟨count, positive, asked, within, returned⟩
        simp only [returned]
        apply ih
        simp only [List.length_append, List.length_take, List.length_drop]
        omega

/-- A connection that is closed before the end of a header raises an exception. -/
theorem receivePacket_closed (found : nextPacket stream = .closed) (fuel calls : ℕ) :
    ∃ last, receivePacket fuel (.healthy splitting) { stream, calls } =
      some (.error (.runtime_error "Connection closed by peer\n"), last) := by
  simp only [nextPacket] at found
  split_ifs at found with short empty cut
  have noHeader : ([] : Bytes).length + stream.length < HEADER_SIZE := by simpa using short
  rcases receiveHeader_closed splitting [] { stream, calls } noHeader with ⟨last, closed⟩
  exact ⟨last, by simp only [receivePacket, closed]⟩

theorem receiveHeader_stream (long : HEADER_SIZE ≤ stream.length) (calls : ℕ) :
    ∃ last, receiveHeader (.healthy splitting) [] { stream, calls } =
      (.ok (stream.take HEADER_SIZE), { stream := stream.drop HEADER_SIZE, calls := last }) := by
  rcases receiveHeader_healthy splitting [] { stream, calls } (by simp) (by simpa using long)
    with ⟨last, read⟩
  exact ⟨last, by simpa using read⟩

/-- A connection that is closed inside a payload keeps `receivePacket` busy for ever. -/
theorem receivePacket_truncated (found : nextPacket stream = .truncated) (fuel calls : ℕ) :
    receivePacket fuel (.healthy splitting) { stream, calls } = none := by
  simp only [nextPacket] at found
  split_ifs at found with short empty cut
  rcases receiveHeader_stream splitting (Nat.not_lt.mp short) calls with ⟨last, read⟩
  have positive : 0 < (deserializeHeader (stream.take HEADER_SIZE)).length.toNat := by
    rw [Nat.pos_iff_ne_zero]
    simpa [← UInt16.toNat_inj] using empty
  have unread : ([] : Bytes).length + (stream.drop HEADER_SIZE).length <
      (deserializeHeader (stream.take HEADER_SIZE)).length.toNat := by simpa using cut
  have busy := receivePayload_truncated splitting _ fuel []
    { stream := stream.drop HEADER_SIZE, calls := last } unread
  simp only [receivePacket, read, if_pos positive, busy]

/-- Otherwise the packet at the head of the stream is received. -/
theorem receivePacket_packet {pkt : Packet} {rest : Bytes}
    (found : nextPacket stream = .packet pkt rest) (extra calls : ℕ) :
    ∃ last, receivePacket (65535 + extra) (.healthy splitting) { stream, calls } =
      some (.ok pkt, { stream := rest, calls := last }) := by
  simp only [nextPacket] at found
  split_ifs at found with short empty cut
  · rcases receiveHeader_stream splitting (Nat.not_lt.mp short) calls with ⟨last, read⟩
    cases found
    exact ⟨last, by simp [receivePacket, read, empty]⟩
  · rcases receiveHeader_stream splitting (Nat.not_lt.mp short) calls with ⟨headerCalls, read⟩
    have positive : 0 < (deserializeHeader (stream.take HEADER_SIZE)).length.toNat := by
      rw [Nat.pos_iff_ne_zero]
      simpa [← UInt16.toNat_inj] using empty
    have bounded := (deserializeHeader (stream.take HEADER_SIZE)).length.toNat_lt
    rcases receivePayload_healthy splitting
      (deserializeHeader (stream.take HEADER_SIZE)).length.toNat (65535 + extra) []
      { stream := stream.drop HEADER_SIZE, calls := headerCalls } (Nat.zero_le _)
      (by simp only [List.length_nil]; omega) (by simpa using cut) with ⟨last, payloadRead⟩
    cases found
    refine ⟨last, ?_⟩
    simp only [receivePacket, read, if_pos positive, payloadRead]
    simp

end Receive

end NetworkManager

end SyncDir
