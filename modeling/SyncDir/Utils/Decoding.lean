import SyncDir.Utils.Frames

/-!
# Decoding

`receivePacket` takes a packet from a stream, and `deserializePacket` takes one from a buffer that
holds it as a whole.  What the first one has taken is what `serializePacket` makes of the packet.

The two differ where the payload is empty, which is a null pointer only for `receivePacket`, and
where the payload is cut off, which only `deserializePacket` notices.
-/

namespace SyncDir

namespace NetworkManager

/-! ### The end of the connection -/

/-- `receivePacket` ends after finitely many calls of `recv`. -/
def Ends (splitting : Splitting) (stream : Bytes) (calls : ℕ) : Prop :=
  Returns splitting stream calls ∨ Throws splitting stream calls

def announcedLength (stream : Bytes) : ℕ :=
  (deserializeHeader (stream.take HEADER_SIZE)).length.toNat

theorem nextPacket_eq_truncated_iff (stream : Bytes) :
    nextPacket stream = .truncated ↔
      HEADER_SIZE ≤ stream.length ∧ stream.length < HEADER_SIZE + announcedLength stream := by
  have zero : (deserializeHeader (stream.take HEADER_SIZE)).length = 0 ↔
      announcedLength stream = 0 := by
    rw [announcedLength, ← UInt16.toNat_inj]
    rfl
  simp only [nextPacket, zero, List.length_drop]
  rw [← announcedLength]
  split_ifs with short empty cut
  · exact iff_of_false (by simp) (by omega)
  · exact iff_of_false (by simp) (by omega)
  · exact iff_of_true rfl (by omega)
  · exact iff_of_false (by simp) (by omega)

theorem not_ends_of_truncated (splitting : Splitting) {stream : Bytes}
    (found : nextPacket stream = .truncated) (calls : ℕ) : ¬Ends splitting stream calls := by
  rintro (⟨fuel, pkt, after, received⟩ | thrown)
  · rw [receivePacket_truncated splitting found] at received
    cases received
  · exact not_throws_of_truncated splitting calls found thrown

/-- `receivePacket` ends exactly if the connection is not closed inside a payload. -/
theorem ends_iff_announced (splitting : Splitting) (stream : Bytes) (calls : ℕ) :
    Ends splitting stream calls ↔
      stream.length < HEADER_SIZE ∨ HEADER_SIZE + announcedLength stream ≤ stream.length := by
  have cut := nextPacket_eq_truncated_iff stream
  cases found : nextPacket stream with
  | packet pkt rest =>
      have whole : ¬nextPacket stream = .truncated := found ▸ Received.noConfusion
      rw [cut] at whole
      exact iff_of_true (Or.inl (returns_of_packet splitting calls found)) (by omega)
  | closed =>
      have whole : ¬nextPacket stream = .truncated := found ▸ Received.noConfusion
      rw [cut] at whole
      exact iff_of_true (Or.inr (throws_of_closed splitting calls found)) (by omega)
  | truncated =>
      rw [cut] at found
      exact iff_of_false (not_ends_of_truncated splitting (cut.mpr found) calls) (by omega)

/-- A connection that is closed after one of two bytes of a payload. -/
theorem not_ends_halfPayload :
    ¬Ends Splitting.whole [0, 0, 0, 0, 0, 0, 0, 12, 0, 2, 7] 0 :=
  not_ends_of_truncated _ rfl 0

/-! ### What has been taken -/

section Taken

variable {socket : Socket} {incoming after : Incoming}

theorem recv_takes {asked : ℕ} {data : Bytes}
    (returned : recv socket asked incoming = (.bytes data, after)) :
    incoming.stream = data ++ after.stream ∧ data.length ≤ asked := by
  unfold recv at returned
  split at returned
  · cases returned
  · split at returned
    · cases returned
    · have bounded := socket.splitting.bounded incoming.calls
        (min asked incoming.stream.length)
      cases returned
      refine ⟨(List.take_append_drop _ _).symm, ?_⟩
      rw [List.length_take]
      omega

theorem recv_closed_stream {asked : ℕ} (returned : recv socket asked incoming = (.closed, after)) :
    after.stream = incoming.stream := by
  unfold recv at returned
  split at returned
  · cases returned
  · split at returned <;> cases returned
    rfl

/-- The loop of `receiveHeader` ends with the ten bytes that it has taken. -/
theorem receiveHeader_takes {header_buffer header : Bytes}
    (short : header_buffer.length ≤ HEADER_SIZE)
    (read : receiveHeader socket header_buffer incoming = (.ok header, after)) :
    header.length = HEADER_SIZE ∧ header_buffer ++ incoming.stream = header ++ after.stream := by
  induction header_buffer, incoming using receiveHeader.induct socket with
  | case1 header_buffer incoming unfinished last result =>
      rw [receiveHeader, if_pos unfinished, result] at read
      cases read
  | case2 header_buffer incoming unfinished last result =>
      rw [receiveHeader, if_pos unfinished, result] at read
      cases read
  | case3 header_buffer incoming unfinished data last result ih =>
      rw [receiveHeader, if_pos unfinished, result] at read
      rcases recv_takes result with ⟨taken, bounded⟩
      have longer : (header_buffer ++ data).length ≤ HEADER_SIZE := by
        rw [List.length_append]
        omega
      rcases ih longer read with ⟨full, same⟩
      refine ⟨full, ?_⟩
      rw [taken, ← same, List.append_assoc]
  | case4 header_buffer incoming finished =>
      rw [receiveHeader, if_neg finished] at read
      cases read
      exact ⟨by omega, rfl⟩

/-- So does the loop of `receivePayload` with the bytes that the header has announced. -/
theorem receivePayload_takes {length fuel : ℕ} {payload read : Bytes}
    (short : payload.length ≤ length)
    (received : receivePayload socket length fuel payload incoming = some (.ok read, after)) :
    read.length = length ∧ payload ++ incoming.stream = read ++ after.stream := by
  induction fuel generalizing payload incoming with
  | zero =>
      rw [receivePayload] at received
      split at received
      · cases received
      · cases received
        exact ⟨by omega, rfl⟩
  | succ fuel ih =>
      rw [receivePayload] at received
      split at received
      · rename_i unfinished
        split at received
        · cases received
        · rename_i last result
          rw [← recv_closed_stream result]
          exact ih short received
        · rename_i data last result
          rcases recv_takes result with ⟨taken, bounded⟩
          have longer : (payload ++ data).length ≤ length := by
            rw [List.length_append]
            omega
          rcases ih longer received with ⟨full, same⟩
          refine ⟨full, ?_⟩
          rw [taken, ← same, List.append_assoc]
      · cases received
        exact ⟨by omega, rfl⟩

/-- What has been taken is a header and a payload, which is a null pointer if it is empty. -/
theorem receivePacket_takes {fuel : ℕ} {pkt : Packet}
    (received : receivePacket fuel socket incoming = some (.ok pkt, after)) :
    ∃ payload : Bytes, payload.length = pkt.length.toNat ∧
      pkt.payload = (if pkt.length.toNat = 0 then none else some payload) ∧
      incoming.stream = serializeHeader pkt ++ payload ++ after.stream := by
  unfold receivePacket at received
  split at received
  · cases received
  · rename_i header last read
    rcases receiveHeader_takes (Nat.zero_le _) read with ⟨full, headerTaken⟩
    have header_eq := serializeHeader_deserializeHeader full
    rw [List.nil_append] at headerTaken
    simp only at received
    split at received
    · rename_i positive
      split at received
      · cases received
      · cases received
      · rename_i payload _ payloadRead
        rcases receivePayload_takes (Nat.zero_le _) payloadRead with ⟨whole, payloadTaken⟩
        rw [List.nil_append] at payloadTaken
        cases received
        refine ⟨payload, whole, (if_neg (Nat.ne_of_gt positive)).symm, ?_⟩
        rw [headerTaken, payloadTaken, List.append_assoc]
        exact congrArg (· ++ _) header_eq.symm
    · rename_i empty
      cases received
      refine ⟨[], ?_, ?_, ?_⟩
      · rw [List.length_nil]
        omega
      · exact (if_pos (Nat.eq_zero_of_not_pos empty)).symm
      · rw [headerTaken, header_eq, List.append_nil]

end Taken

/-- Every packet that is received is serialized to the bytes that it has been read from. -/
theorem serializePacket_receivePacket {socket : Socket} {fuel : ℕ} {incoming after : Incoming}
    {pkt : Packet} {buffer : Bytes}
    (received : receivePacket fuel socket incoming = some (.ok pkt, after))
    (sized : buffer.length = HEADER_SIZE + pkt.length.toNat) :
    ∃ consumed, serializePacket pkt buffer = .ok consumed ∧
      incoming.stream = consumed ++ after.stream := by
  rcases receivePacket_takes received with ⟨payload, whole, payload_eq, taken⟩
  have enough : ¬buffer.length < HEADER_SIZE + pkt.length.toNat := by omega
  refine ⟨serializeHeader pkt ++ payload, ?_, taken⟩
  by_cases empty : pkt.length.toNat = 0
  · have noPayload : payload = [] := List.eq_nil_of_length_eq_zero (whole.trans empty)
    have noRest : buffer.drop HEADER_SIZE = [] := List.drop_eq_nil_of_le (by omega)
    rw [if_pos empty] at payload_eq
    simp only [serializePacket, if_neg enough, payload_eq, noRest, noPayload]
  · have noRest : (buffer.drop HEADER_SIZE).drop pkt.length.toNat = [] := by
      apply List.drop_eq_nil_of_le
      rw [List.length_drop]
      omega
    have all : payload.take pkt.length.toNat = payload := List.take_of_length_le whole.le
    rw [if_neg empty] at payload_eq
    simp only [serializePacket, if_neg enough, payload_eq, noRest, all, List.append_nil]

/-- A packet with the length two and a total size of zero. -/
theorem serializePacket_receivePacket_mismatched :
    ∃ consumed, serializePacket
        { type := 0, seqn := 0, total_size := 0, length := 2, payload := some [7, 8] }
        (List.replicate 12 0) = .ok consumed ∧
      [0, 0, 0, 0, 0, 0, 0, 0, 0, 2, 7, 8, 9] = consumed ++ [9] := by
  have found : nextPacket [0, 0, 0, 0, 0, 0, 0, 0, 0, 2, 7, 8, 9] =
      .packet { type := 0, seqn := 0, total_size := 0, length := 2, payload := some [7, 8] } [9] :=
    rfl
  rcases receivePacket_packet Splitting.whole found 0 0 with ⟨last, received⟩
  exact serializePacket_receivePacket received rfl

/-! ### The two decoders -/

/-- `deserializePacket` reads a packet from a buffer, and always allocates a payload. -/
def deserializePacket (buffer : Bytes) : Except Exception Packet :=
  if buffer.length < HEADER_SIZE then
    .error (.runtime_error "Buffer size is too small")
  else
    let pkt := deserializeHeader (buffer.take HEADER_SIZE)
    if buffer.length - HEADER_SIZE < pkt.length.toNat then
      .error (.runtime_error ("Invalid packet length " ++ toString pkt.length.toNat))
    else
      .ok { pkt with payload := some ((buffer.drop HEADER_SIZE).take pkt.length.toNat) }

/-- The packet of a buffer is received from a stream with the same bytes, and if the buffer is
refused, the receiving throws. -/
def Agrees (splitting : Splitting) (buffer : Bytes) (calls : ℕ) : Prop :=
  (∀ pkt, deserializePacket buffer = .ok pkt → ∃ fuel after,
      receivePacket fuel (.healthy splitting) { stream := buffer, calls } =
        some (.ok pkt, after)) ∧
    ∀ exception, deserializePacket buffer = .error exception → Throws splitting buffer calls

section Agreement

variable {splitting : Splitting} {buffer : Bytes} {calls : ℕ}

theorem deserializePacket_of_whole
    (whole : HEADER_SIZE + announcedLength buffer ≤ buffer.length) :
    deserializePacket buffer = .ok { deserializeHeader (buffer.take HEADER_SIZE) with
      payload := some ((buffer.drop HEADER_SIZE).take (announcedLength buffer)) } := by
  rw [announcedLength] at whole ⊢
  rw [deserializePacket, if_neg (by omega)]
  exact if_neg (by omega)

theorem deserializePacket_of_cut
    (cut : ¬HEADER_SIZE + announcedLength buffer ≤ buffer.length) :
    ∃ exception, deserializePacket buffer = .error exception := by
  rw [announcedLength] at cut
  rw [deserializePacket]
  split
  · exact ⟨_, rfl⟩
  · exact ⟨_, if_pos (by omega)⟩

theorem nextPacket_of_whole (positive : 0 < announcedLength buffer)
    (whole : HEADER_SIZE + announcedLength buffer ≤ buffer.length) :
    nextPacket buffer = .packet { deserializeHeader (buffer.take HEADER_SIZE) with
      payload := some ((buffer.drop HEADER_SIZE).take (announcedLength buffer)) }
      ((buffer.drop HEADER_SIZE).drop (announcedLength buffer)) := by
  have nonzero : ¬(deserializeHeader (buffer.take HEADER_SIZE)).length = 0 := by
    rw [← UInt16.toNat_inj]
    exact positive.ne'
  rw [announcedLength] at whole ⊢
  simp only [nextPacket, if_neg nonzero, List.length_drop]
  rw [if_neg (by omega), if_neg (by omega)]

/-- Where the length is zero, only one of the payloads is a null pointer. -/
theorem not_agrees_of_empty (long : HEADER_SIZE ≤ buffer.length)
    (empty : announcedLength buffer = 0) : ¬Agrees splitting buffer calls := by
  intro agrees
  have decoded : deserializePacket buffer = _ := deserializePacket_of_whole (by omega)
  rcases agrees.1 _ decoded with ⟨fuel, after, received⟩
  rcases receivePacket_takes received with ⟨_, _, payload_eq, _⟩
  have zero : (deserializeHeader (buffer.take HEADER_SIZE)).length.toNat = 0 := empty
  rw [if_pos zero] at payload_eq
  cases payload_eq

/-- The two decoders agree exactly on the buffers that end inside a header and on those that hold a
nonempty payload as a whole. -/
theorem agrees_iff (splitting : Splitting) (buffer : Bytes) (calls : ℕ) :
    Agrees splitting buffer calls ↔ buffer.length < HEADER_SIZE ∨
      0 < announcedLength buffer ∧ HEADER_SIZE + announcedLength buffer ≤ buffer.length := by
  by_cases short : buffer.length < HEADER_SIZE
  · have closed := (nextPacket_eq_closed_iff buffer).mpr short
    refine iff_of_true ⟨?_, ?_⟩ (Or.inl short)
    · intro pkt decoded
      rw [deserializePacket, if_pos short] at decoded
      cases decoded
    · intro _ _
      exact throws_of_closed splitting calls closed
  rw [or_iff_right short]
  by_cases whole : HEADER_SIZE + announcedLength buffer ≤ buffer.length
  · rw [and_iff_left whole]
    by_cases positive : 0 < announcedLength buffer
    · have decoded := deserializePacket_of_whole whole
      refine iff_of_true ⟨?_, ?_⟩ positive
      · intro pkt same
        rw [decoded] at same
        cases same
        rcases receivePacket_packet splitting (nextPacket_of_whole positive whole) 0 calls
          with ⟨last, received⟩
        exact ⟨_, _, received⟩
      · intro exception failed
        rw [decoded] at failed
        cases failed
    · exact iff_of_false (not_agrees_of_empty (by omega) (by omega)) positive
  · rcases deserializePacket_of_cut whole with ⟨exception, failed⟩
    have cut := (nextPacket_eq_truncated_iff buffer).mpr (by omega)
    refine iff_of_false ?_ fun holds => whole holds.2
    intro agrees
    exact not_throws_of_truncated splitting calls cut (agrees.2 exception failed)

end Agreement

/-- The packet of a header with the length zero can be sent on only if it has been received from a
stream; and a header with the length one alone is refused, while the receiving goes on for ever. -/
theorem decoders_disagree :
    ((∃ pkt, deserializePacket [0, 0, 0, 0, 0, 0, 0, 10, 0, 0] = .ok pkt ∧
        pkt.payload = some [] ∧ pkt.isPacketValid = false) ∧
      ∃ pkt last, receivePacket 65535 (.healthy Splitting.whole)
          { stream := [0, 0, 0, 0, 0, 0, 0, 10, 0, 0], calls := 0 } = some (.ok pkt, last) ∧
        pkt.payload = none ∧ pkt.isPacketValid = true) ∧
    (∃ exception, deserializePacket [0, 0, 0, 0, 0, 0, 0, 11, 0, 1] = .error exception) ∧
      ∀ fuel, receivePacket fuel (.healthy Splitting.whole)
        { stream := [0, 0, 0, 0, 0, 0, 0, 11, 0, 1], calls := 0 } = none := by
  refine ⟨⟨⟨_, rfl, rfl, by decide⟩, ?_⟩, deserializePacket_of_cut (by decide), ?_⟩
  · have found : nextPacket [0, 0, 0, 0, 0, 0, 0, 10, 0, 0] =
        .packet { type := 0, seqn := 0, total_size := 10, length := 0, payload := none } [] := rfl
    rcases receivePacket_packet Splitting.whole found 0 0 with ⟨last, received⟩
    exact ⟨_, _, received, rfl, by decide⟩
  · have found : nextPacket [0, 0, 0, 0, 0, 0, 0, 11, 0, 1] = .truncated := rfl
    intro fuel
    exact receivePacket_truncated Splitting.whole found fuel 0

end NetworkManager

end SyncDir
