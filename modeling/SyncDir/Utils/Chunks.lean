import SyncDir.Utils.NetworkManager

/-!
# Files in chunks

`sendFileInChunks` cuts a file into pieces of the size of its buffer, of which only the last one can
be shorter, and numbers the packets with sixteen bits.
-/

namespace SyncDir

namespace NetworkManager

open PacketType

theorem chunks_length (bufferSize : ℕ+) (data : Bytes) :
    (chunks bufferSize data).length = (data.length + bufferSize - 1) / bufferSize := by
  have positive := bufferSize.pos
  induction data using chunks.induct bufferSize with
  | case1 =>
      rw [chunks, if_pos rfl, List.length_nil, List.length_nil, Nat.div_eq_of_lt (by omega)]
  | case2 data nonempty ih =>
      have data_pos := List.length_pos_iff.mpr nonempty
      rw [chunks, if_neg nonempty, List.length_cons, ih, List.length_drop]
      by_cases last : data.length ≤ bufferSize
      · have one : data.length + bufferSize - 1 = (data.length - 1) + bufferSize := by omega
        have none : data.length - bufferSize + bufferSize - 1 = bufferSize - 1 := by omega
        rw [one, none, Nat.add_div_right _ positive, Nat.div_eq_of_lt (by omega),
          Nat.div_eq_of_lt (by omega)]
      · have more : data.length + bufferSize - 1 =
            (data.length - bufferSize + bufferSize - 1) + bufferSize := by omega
        rw [more, Nat.add_div_right _ positive]

/-- All pieces but the last one are as long as the buffer. -/
theorem length_of_mem_dropLast_chunks {bufferSize : ℕ+} {data chunk : Bytes}
    (chunk_mem : chunk ∈ (chunks bufferSize data).dropLast) : chunk.length = bufferSize := by
  induction data using chunks.induct bufferSize with
  | case1 => simp [chunks] at chunk_mem
  | case2 data nonempty ih =>
      rw [chunks, if_neg nonempty] at chunk_mem
      by_cases last : data.drop bufferSize = []
      · rw [last, chunks, if_pos rfl] at chunk_mem
        cases chunk_mem
      · have later : chunks bufferSize (data.drop bufferSize) ≠ [] := by
          rw [chunks, if_neg last]
          exact List.cons_ne_nil _ _
        rw [List.dropLast_cons_of_ne_nil later] at chunk_mem
        rcases List.mem_cons.mp chunk_mem with rfl | chunk_mem
        · have long : ¬data.length ≤ bufferSize := by rwa [← List.drop_eq_nil_iff]
          rw [List.length_take]
          omega
        · exact ih chunk_mem

/-! ### The packets of a transfer -/

def dataPackets (sequenceNumber : UInt16) : List Bytes → List Packet
  | [] => []
  | chunk :: rest =>
      Packet.build t_DATA.value sequenceNumber chunk :: dataPackets (sequenceNumber + 1) rest

theorem dataPackets_length (sequenceNumber : UInt16) (pieces : List Bytes) :
    (dataPackets sequenceNumber pieces).length = pieces.length := by
  induction pieces generalizing sequenceNumber with
  | nil => rfl
  | cons chunk pieces ih => rw [dataPackets, List.length_cons, List.length_cons, ih]

theorem transfer_eq (sequenceNumber : UInt16) (pieces : List Bytes) :
    transfer sequenceNumber pieces = dataPackets sequenceNumber pieces ++
      [Packet.build t_END_OF_FILE.value (sequenceNumber + UInt16.ofNat pieces.length)
        (ascii "xxx")] := by
  induction pieces generalizing sequenceNumber with
  | nil => simp [transfer, dataPackets]
  | cons chunk pieces ih =>
      have counted : sequenceNumber + 1 + UInt16.ofNat pieces.length =
          sequenceNumber + UInt16.ofNat (pieces.length + 1) := by
        rw [UInt16.add_assoc, UInt16.ofNat_add, UInt16.add_comm 1]
        rfl
      rw [transfer, ih, dataPackets, List.length_cons, counted, List.cons_append]

theorem seqn_of_getElem?_dataPackets {sequenceNumber : UInt16} {pieces : List Bytes} {k : ℕ}
    {pkt : Packet} (at_ : (dataPackets sequenceNumber pieces)[k]? = some pkt) :
    pkt.seqn = sequenceNumber + UInt16.ofNat k := by
  induction pieces generalizing sequenceNumber k with
  | nil => cases at_
  | cons chunk pieces ih =>
      cases k with
      | zero =>
          cases at_
          simp [Packet.build]
      | succ k =>
          rw [dataPackets, List.getElem?_cons_succ] at at_
          rw [ih at_, UInt16.add_assoc, UInt16.ofNat_add, UInt16.add_comm 1]
          rfl

theorem mem_dataPackets {sequenceNumber : UInt16} {pieces : List Bytes} {pkt : Packet}
    (pkt_mem : pkt ∈ dataPackets sequenceNumber pieces) :
    ∃ seqn, ∃ chunk ∈ pieces, pkt = Packet.build t_DATA.value seqn chunk := by
  induction pieces generalizing sequenceNumber with
  | nil => cases pkt_mem
  | cons chunk pieces ih =>
      rcases List.mem_cons.mp pkt_mem with rfl | later
      · exact ⟨_, chunk, List.mem_cons_self, rfl⟩
      · rcases ih later with ⟨seqn, piece, piece_mem, built⟩
        exact ⟨seqn, piece, List.mem_cons_of_mem _ piece_mem, built⟩

theorem dataPackets_map_content {sequenceNumber : UInt16} {pieces : List Bytes}
    (fit : ∀ chunk ∈ pieces, chunk.length ≤ MAX_PACKET_SIZE) :
    (dataPackets sequenceNumber pieces).map Packet.content = pieces := by
  induction pieces generalizing sequenceNumber with
  | nil => rfl
  | cons chunk pieces ih =>
      rw [dataPackets, List.map_cons, Packet.build_content (fit chunk List.mem_cons_self),
        ih fun later later_mem => fit later (List.mem_cons_of_mem _ later_mem)]

/-- The packets of a transfer: full pieces of the file but for the last one, and an end packet. -/
structure ExactTransfer (bufferSize : ℕ+) (fileData : Bytes) (data : List Packet)
    (last : Packet) : Prop where
  count : data.length = (fileData.length + bufferSize - 1) / bufferSize
  types : (∀ pkt ∈ data, pkt.type = t_DATA.value) ∧ last.type = t_END_OF_FILE.value
  nonempty : ∀ pkt ∈ data, pkt.content ≠ []
  full : ∀ pkt ∈ data.dropLast, pkt.content.length = bufferSize
  bounded : ∀ pkt ∈ data, pkt.content.length ≤ bufferSize
  whole : (data.map Packet.content).flatten = fileData
  numbered : ∀ k pkt, (data ++ [last])[k]? = some pkt → pkt.seqn.toNat = k % 2 ^ 16
  valid : ∀ pkt ∈ data ++ [last], pkt.isPacketValid = true

theorem transfer_exact {bufferSize : ℕ+} (small : bufferSize ≤ MAX_PACKET_SIZE)
    (fileData : Bytes) :
    ∃ data last, transfer 0 (chunks bufferSize fileData) = data ++ [last] ∧
      ExactTransfer bufferSize fileData data last := by
  set pieces := chunks bufferSize fileData with cut
  have fit : ∀ chunk ∈ pieces, chunk.length ≤ MAX_PACKET_SIZE := by
    intro chunk chunk_mem
    exact (chunks_length_le chunk_mem).trans small
  have contents : (dataPackets 0 pieces).map Packet.content = pieces :=
    dataPackets_map_content fit
  have piece_of_mem {pkt : Packet} (pkt_mem : pkt ∈ dataPackets 0 pieces) :
      pkt.content ∈ pieces := by
    rw [← contents]
    exact List.mem_map_of_mem pkt_mem
  refine ⟨_, _, transfer_eq 0 pieces, ?_⟩
  constructor
  case count => rw [dataPackets_length, cut, chunks_length]
  case types =>
    refine ⟨?_, rfl⟩
    intro pkt pkt_mem
    rcases mem_dataPackets pkt_mem with ⟨seqn, chunk, _, rfl⟩
    rfl
  case nonempty =>
    intro pkt pkt_mem
    exact chunks_ne_nil (piece_of_mem pkt_mem)
  case full =>
    intro pkt pkt_mem
    have piece_mem : pkt.content ∈ pieces.dropLast := by
      rw [← contents, ← List.map_dropLast]
      exact List.mem_map_of_mem pkt_mem
    exact length_of_mem_dropLast_chunks piece_mem
  case bounded =>
    intro pkt pkt_mem
    exact chunks_length_le (piece_of_mem pkt_mem)
  case whole => rw [contents, cut, chunks_flatten]
  case numbered =>
    intro k pkt at_
    have number : pkt.seqn = UInt16.ofNat k := by
      rw [List.getElem?_append, dataPackets_length] at at_
      split at at_
      · rw [seqn_of_getElem?_dataPackets at_, UInt16.zero_add]
      · rcases List.getElem?_eq_some_iff.mp at_ with ⟨within, rfl⟩
        have end_ : k = pieces.length := by
          rw [List.length_singleton] at within
          omega
        simp [Packet.build, end_]
    rw [number, UInt16.toNat_ofNat']
  case valid =>
    intro pkt pkt_mem
    rcases List.mem_append.mp pkt_mem with data_mem | last_mem
    · rcases mem_dataPackets data_mem with ⟨seqn, chunk, chunk_mem, rfl⟩
      exact Message.packet_valid
        ⟨t_DATA.value, seqn, chunk, chunks_ne_nil chunk_mem, fit chunk chunk_mem⟩
    · rw [List.mem_singleton.mp last_mem]
      exact Message.packet_valid ⟨t_END_OF_FILE.value, _, ascii "xxx", by decide, by decide⟩

/-- On a healthy connection, the loop of `sendFileInChunks` and the end packet behind it raise no
exception, and what is sent is an exact transfer of the file. -/
theorem sendFileInChunks_exact {bufferSize : ℕ+} (small : bufferSize ≤ MAX_PACKET_SIZE)
    {filepath fileData : Bytes} {disk : Directory} (stored : disk filepath = some fileData)
    (arrived : List Packet) :
    ∃ data last, ExactTransfer bufferSize fileData data last ∧
      (sendChunks bufferSize fileData 0 0 >>= sendPacketXxx t_END_OF_FILE.value).on
          (.healthy arrived) = (.ok (), .healthy (arrived ++ (data ++ [last]))) ∧
      (sendFileInChunks filepath bufferSize disk).on (.healthy arrived) =
        (.ok (), .healthy (arrived ++ (data ++ [last]))) := by
  rcases transfer_exact small fileData with ⟨data, last, split, exact_⟩
  refine ⟨data, last, exact_, ?_, ?_⟩
  · rw [sendChunks_healthy small, List.drop_zero, split]
  · rw [sendFileInChunks_healthy small, stored, body, split]

/-- A file of five bytes in pieces of two. -/
theorem sendFileInChunks_exact_fiveBytes :
    ∃ data last, ExactTransfer 2 [1, 2, 3, 4, 5] data last ∧
      (sendFileInChunks (ascii "f") 2 fun _ => some [1, 2, 3, 4, 5]).on (.healthy []) =
        (.ok (), .healthy (data ++ [last])) := by
  have small : (2 : ℕ+) ≤ MAX_PACKET_SIZE := by decide
  have stored : (fun _ => some [1, 2, 3, 4, 5] : Directory) (ascii "f") = some [1, 2, 3, 4, 5] :=
    rfl
  rcases sendFileInChunks_exact small stored [] with ⟨data, last, exact_, -, sent⟩
  exact ⟨data, last, exact_, sent⟩

end NetworkManager

end SyncDir
