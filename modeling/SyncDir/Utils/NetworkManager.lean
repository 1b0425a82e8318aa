import Mathlib.Data.PNat.Basic
import SyncDir.Utils.FileManager

/-!
# Packets and connections

A `NetworkManager` sends packets on a socket.  Here a connection is the list of
packets that arrive at the other end, in order; that the bytes on the socket are
read back as these packets is the subject of `SyncDir.Utils.Framing`.

An action of a thread that sends is a state transformer on the connection that
may end with an exception; what was sent before the exception stays sent.  On a
healthy connection each function has a closed form, which the models of the
threads use instead of its definition.
-/

namespace SyncDir

/-- `MAX_PACKET_SIZE`, the largest payload of a packet. -/
def MAX_PACKET_SIZE : ℕ+ := 2048

def HEADER_SIZE : ℕ := 10

theorem FileName.length_le_packet (file_name : FileName) :
    file_name.bytes.length ≤ MAX_PACKET_SIZE :=
  file_name.length_le.trans (by decide)

inductive PacketType
  | t_DATA | t_DELETE | t_WRITE | t_FILE | t_PORT | t_CLIENT | t_GET_CLIENTS | t_CLIENTS
  | t_PEER | t_WHO_IS_LEADER | t_LEADER | t_CLIENT_CONNECTION | t_FILE_NOT_FOUND
  | t_FILE_FOUND | t_UPLOAD | t_DOWNLOAD | t_LIST | t_END_OF_FILE | t_ERROR
  deriving DecidableEq

/-- The value of the enumerator in the `type` field of a packet. -/
def PacketType.value : PacketType → UInt16
  | t_DATA => 0
  | t_DELETE => 1
  | t_WRITE => 2
  | t_FILE => 3
  | t_PORT => 4
  | t_CLIENT => 5
  | t_GET_CLIENTS => 6
  | t_CLIENTS => 7
  | t_PEER => 8
  | t_WHO_IS_LEADER => 9
  | t_LEADER => 10
  | t_CLIENT_CONNECTION => 11
  | t_FILE_NOT_FOUND => 12
  | t_FILE_FOUND => 13
  | t_UPLOAD => 14
  | t_DOWNLOAD => 15
  | t_LIST => 16
  | t_END_OF_FILE => 17
  | t_ERROR => 18

@[simp]
theorem PacketType.value_inj {first second : PacketType} :
    first.value = second.value ↔ first = second := by
  cases first <;> cases second <;> decide

/-- A packet; the payload is `none` for a null pointer. -/
structure Packet where
  type : UInt16
  seqn : UInt16
  total_size : UInt32
  length : UInt16
  payload : Option Bytes
  deriving DecidableEq

namespace Packet

/-- The packet that `sendPacket(type, seqn, payload)` fills in. -/
def build (type seqn : UInt16) (payload : Bytes) : Packet :=
  let length := UInt16.ofNat payload.length
  { type, seqn, total_size := UInt32.ofNat (HEADER_SIZE + length.toNat), length,
    payload := some payload }

/-- The packet that arrives when the header and `length` bytes of the payload are sent. -/
def received (pkt : Packet) : Packet :=
  { pkt with
    payload := if pkt.length = 0 then none else pkt.payload.map (·.take pkt.length.toNat) }

/-- `std::string(pkt._payload)`: the payload as a C string. -/
def c_str (pkt : Packet) : Except Exception Bytes :=
  match pkt.payload with
  | none => .error (.logic_error "basic_string: construction from null is not valid")
  | some payload => .ok (cString payload)

/-- `std::string(pkt._payload, pkt.length)`: the payload with its length. -/
def content (pkt : Packet) : Bytes :=
  (pkt.payload.getD []).take pkt.length.toNat

/-- `isPacketValid` checks a packet before it is sent. -/
def isPacketValid (pkt : Packet) : Bool :=
  !(pkt.total_size < UInt32.ofNat HEADER_SIZE || MAX_PACKET_SIZE < pkt.length.toNat) &&
    !(pkt.length == 0 && pkt.payload.isSome)

@[simp]
theorem build_type (type seqn : UInt16) (payload : Bytes) : (build type seqn payload).type = type :=
  rfl

@[simp]
theorem build_c_str (type seqn : UInt16) (payload : Bytes) :
    (build type seqn payload).c_str = .ok (cString payload) :=
  rfl

theorem length_content_le (pkt : Packet) : pkt.content.length ≤ pkt.length.toNat :=
  List.length_take_le _ _

theorem length_le_of_isPacketValid {pkt : Packet} (valid : pkt.isPacketValid = true) :
    pkt.length.toNat ≤ MAX_PACKET_SIZE := by
  simp only [isPacketValid, Bool.and_eq_true, Bool.not_eq_true', Bool.or_eq_false_iff,
    decide_eq_false_iff_not, Nat.not_lt] at valid
  exact valid.1.2

theorem build_content {payload : Bytes} (fits : payload.length ≤ MAX_PACKET_SIZE)
    (type seqn : UInt16) : (build type seqn payload).content = payload := by
  have bound : payload.length ≤ 2048 := fits
  have length : payload.length % 65536 = payload.length := Nat.mod_eq_of_lt (by omega)
  simp [build, content, length]

end Packet

/-- What can be sent in one packet. -/
structure Message where
  type : UInt16
  seqn : UInt16
  payload : Bytes
  nonempty : payload ≠ []
  fits : payload.length ≤ MAX_PACKET_SIZE

namespace Message

def packet (message : Message) : Packet :=
  Packet.build message.type message.seqn message.payload

theorem length_pos (message : Message) : 0 < message.payload.length :=
  List.length_pos_iff.mpr message.nonempty

theorem length_le (message : Message) : message.payload.length ≤ 2048 :=
  message.fits

theorem packet_length (message : Message) :
    message.packet.length.toNat = message.payload.length := by
  have fits := message.length_le
  simp only [packet, Packet.build, UInt16.toNat_ofNat']
  omega

theorem packet_total_size (message : Message) :
    message.packet.total_size.toNat = HEADER_SIZE + message.payload.length := by
  have fits := message.length_le
  have length := message.packet_length
  simp only [packet, Packet.build] at length ⊢
  rw [length, UInt32.toNat_ofNat', HEADER_SIZE]
  omega

theorem packet_length_ne_zero (message : Message) : message.packet.length ≠ 0 := by
  intro zero
  have length := message.packet_length
  have positive := message.length_pos
  rw [zero] at length
  simp at length
  omega

theorem packet_valid (message : Message) : message.packet.isPacketValid = true := by
  have length := message.packet_length
  have total := message.packet_total_size
  have fits := message.length_le
  have header : ¬message.packet.total_size < UInt32.ofNat HEADER_SIZE := by
    rw [UInt32.lt_iff_toNat_lt, total]
    simp [HEADER_SIZE]
  have short : ¬(MAX_PACKET_SIZE : ℕ) < message.packet.length.toNat := by
    rw [length]
    exact Nat.not_lt.mpr message.fits
  simp [Packet.isPacketValid, header, short, message.packet_length_ne_zero]

@[simp]
theorem packet_received (message : Message) : message.packet.received = message.packet := by
  have length := message.packet_length
  simp only [Packet.received, if_neg message.packet_length_ne_zero, length]
  simp [packet, Packet.build]

end Message

/-- The sending end of a connection: what has arrived at the other end, and which `sendPacket`
fails because of the socket. -/
structure Connection where
  arrived : List Packet
  fails : ℕ → Bool

def Connection.healthy (arrived : List Packet) : Connection :=
  { arrived, fails := fun _ => false }

/-- No `sendPacket` fails because of the socket. -/
def Connection.Healthy (connection : Connection) : Prop :=
  ∀ sent, connection.fails sent = false

theorem Connection.Healthy.eq {connection : Connection} (healthy : connection.Healthy) :
    connection = .healthy connection.arrived := by
  have never : connection.fails = fun _ => false := funext healthy
  rw [Connection.healthy, ← never]

/-- An action that sends on a connection and may throw. -/
abbrev Send := ExceptT Exception (StateM Connection)

namespace Send

def on {α : Type} (action : Send α) (connection : Connection) : Except Exception α × Connection :=
  (ExceptT.run action).run connection

/-- The packets that an action sends on a healthy connection. -/
def packets {α : Type} (action : Send α) : List Packet :=
  (action.on (.healthy [])).2.arrived

variable {α β : Type}

@[simp]
theorem on_pure (value : α) (connection : Connection) :
    (pure value : Send α).on connection = (.ok value, connection) :=
  rfl

@[simp]
theorem on_throw (exception : Exception) (connection : Connection) :
    (throw exception : Send α).on connection = (.error exception, connection) :=
  rfl

theorem on_bind (action : Send α) (next : α → Send β) (connection : Connection) :
    (action >>= next).on connection =
      match action.on connection with
      | (.ok value, after) => (next value).on after
      | (.error exception, after) => (.error exception, after) := by
  simp only [on, ExceptT.run_bind, StateT.run_bind]
  rcases (ExceptT.run action).run connection with ⟨_ | _, _⟩ <;> rfl

theorem on_get_bind (next : Connection → Send β) (connection : Connection) :
    ((get : Send Connection) >>= next).on connection = (next connection).on connection :=
  rfl

@[simp]
theorem liftM_ok (value : α) :
    (liftM (Except.ok value : Except Exception α) : Send α) = pure value :=
  rfl

@[simp]
theorem liftM_error (exception : Exception) :
    (liftM (Except.error exception : Except Exception α) : Send α) = throw exception :=
  rfl

/-- `try action catch (const std::exception &) {}`: every exception is swallowed. -/
def swallow (action : Send Unit) : Send Unit :=
  tryCatch action fun _ => pure ()

theorem on_swallow (action : Send Unit) (connection : Connection) :
    (swallow action).on connection = (.ok (), (action.on connection).2) := by
  simp only [swallow, on, ExceptT.run_tryCatch, StateT.run_bind]
  rcases (ExceptT.run action).run connection with ⟨_ | _, _⟩ <;> rfl

/-- A loop that handles one input after the other until an exception ends it. -/
def each (handle : α → Send Unit) : List α → Send Unit
  | [] => pure ()
  | input :: inputs => do
      handle input
      each handle inputs

theorem each_map (handle : β → Send Unit) (input : α → β) (inputs : List α) :
    each handle (inputs.map input) = each (fun element => handle (input element)) inputs := by
  induction inputs with
  | nil => rfl
  | cons element inputs ih => rw [List.map_cons, each, ih, each]

theorem each_healthy {handle : α → Send Unit} (sent : α → List Packet)
    (sends : ∀ input arrived,
      (handle input).on (.healthy arrived) = (.ok (), .healthy (arrived ++ sent input)))
    (inputs : List α) (arrived : List Packet) :
    (each handle inputs).on (.healthy arrived) =
      (.ok (), .healthy (arrived ++ inputs.flatMap sent)) := by
  induction inputs generalizing arrived with
  | nil => simp [each]
  | cons input inputs ih =>
      rw [each, on_bind, sends]
      simp only
      rw [ih, List.flatMap_cons, List.append_assoc]

/-- A loop sends what its rounds send, up to the first round that fails without sending. -/
theorem packets_each {handle : α → Send Unit} (fails : α → Bool) (sent : α → List Packet)
    (sends : ∀ input arrived, fails input = false →
      (handle input).on (.healthy arrived) = (.ok (), .healthy (arrived ++ sent input)))
    (stops : ∀ input arrived, fails input = true →
      ∃ exception, (handle input).on (.healthy arrived) = (.error exception, .healthy arrived))
    (inputs : List α) :
    (each handle inputs).packets = (inputs.takeWhile fun input => !fails input).flatMap sent := by
  have run : ∀ arrived, ((each handle inputs).on (.healthy arrived)).2 =
      .healthy (arrived ++ (inputs.takeWhile fun input => !fails input).flatMap sent) := by
    induction inputs with
    | nil => simp [each]
    | cons input inputs ih =>
        intro arrived
        cases failing : fails input with
        | true =>
            rcases stops input arrived failing with ⟨exception, stopped⟩
            simp [each, on_bind, stopped, failing]
        | false => simp [each, on_bind, sends input arrived failing, ih, failing]
  rw [packets, run]
  rfl

end Send

namespace NetworkManager

open PacketType

def sendPacket (type seqn : UInt16) (payload : Bytes) : Send Unit := do
  let pkt := Packet.build type seqn payload
  if pkt.isPacketValid = false then
    throw (.runtime_error "Invalid packet")
  let connection ← get
  if connection.fails connection.arrived.length then
    throw (.runtime_error "Failed to send packet on ")
  set { connection with arrived := connection.arrived ++ [pkt.received] }

/-- `sendPacket(type, seqn)` has the payload `xxx`. -/
def sendPacketXxx (type seqn : UInt16) : Send Unit :=
  sendPacket type seqn (ascii "xxx")

/-- The `while` loop of `sendFileInChunks`, which returns the next sequence number. -/
def sendChunks (bufferSize : ℕ+) (fileData : Bytes) (offset : ℕ) (sequenceNumber : UInt16) :
    Send UInt16 :=
  if offset < fileData.length then do
    let chunkSize := min (bufferSize : ℕ) (fileData.length - offset)
    sendPacket t_DATA.value sequenceNumber ((fileData.drop offset).take chunkSize)
    sendChunks bufferSize fileData (offset + chunkSize) (sequenceNumber + 1)
  else
    return sequenceNumber
termination_by fileData.length - offset
decreasing_by
  have := bufferSize.pos
  omega

/-- `sendFileInChunks`: the file is read as a whole, and no exception leaves the function. -/
def sendFileInChunks (filepath : Bytes) (bufferSize : ℕ+) (disk : Directory) : Send Unit :=
  Send.swallow do
    let fileData ← (FileManager.readFile disk filepath : Except Exception Bytes)
    let sequenceNumber ← sendChunks bufferSize fileData 0 0
    sendPacketXxx t_END_OF_FILE.value sequenceNumber

/-! ### Closed forms -/

theorem sendPacket_of_valid {type seqn : UInt16} {payload : Bytes}
    (valid : (Packet.build type seqn payload).isPacketValid = true) (connection : Connection) :
    (sendPacket type seqn payload).on connection =
      if connection.fails connection.arrived.length then
        (.error (.runtime_error "Failed to send packet on "), connection)
      else
        (.ok (), { connection with
          arrived := connection.arrived ++ [(Packet.build type seqn payload).received] }) := by
  simp only [sendPacket, valid, Bool.true_eq_false, if_false]
  refine (Send.on_get_bind _ connection).trans ?_
  cases connection.fails connection.arrived.length <;> rfl

theorem sendPacket_valid {type seqn : UInt16} {payload : Bytes}
    (valid : (Packet.build type seqn payload).isPacketValid = true) (arrived : List Packet) :
    (sendPacket type seqn payload).on (.healthy arrived) =
      (.ok (), .healthy (arrived ++ [(Packet.build type seqn payload).received])) :=
  sendPacket_of_valid valid (.healthy arrived)

theorem sendPacket_invalid {type seqn : UInt16} {payload : Bytes}
    (invalid : (Packet.build type seqn payload).isPacketValid = false) (connection : Connection) :
    (sendPacket type seqn payload).on connection =
      (.error (.runtime_error "Invalid packet"), connection) := by
  simp only [sendPacket, invalid, if_true]
  rfl

theorem sendPacket_eq_ok_iff {type seqn : UInt16} {payload : Bytes} {connection : Connection} :
    ((sendPacket type seqn payload).on connection).1 = .ok () ↔
      (Packet.build type seqn payload).isPacketValid = true ∧
        connection.fails connection.arrived.length = false := by
  cases valid : (Packet.build type seqn payload).isPacketValid with
  | false => simp [sendPacket_invalid valid]
  | true =>
      rw [sendPacket_of_valid valid]
      cases connection.fails connection.arrived.length <;> simp

theorem sendPacket_healthy {payload : Bytes} (nonempty : payload ≠ [])
    (fits : payload.length ≤ MAX_PACKET_SIZE) (type seqn : UInt16) (arrived : List Packet) :
    (sendPacket type seqn payload).on (.healthy arrived) =
      (.ok (), .healthy (arrived ++ [Packet.build type seqn payload])) := by
  have valid := Message.packet_valid ⟨type, seqn, payload, nonempty, fits⟩
  have received := Message.packet_received ⟨type, seqn, payload, nonempty, fits⟩
  rw [Message.packet] at valid received
  rw [sendPacket_valid valid, received]

theorem sendPacketXxx_healthy (type seqn : UInt16) (arrived : List Packet) :
    (sendPacketXxx type seqn).on (.healthy arrived) =
      (.ok (), .healthy (arrived ++ [Packet.build type seqn (ascii "xxx")])) :=
  sendPacket_healthy (by decide) (by decide) type seqn arrived

def chunks (bufferSize : ℕ+) (data : Bytes) : List Bytes :=
  if data = [] then []
  else data.take bufferSize :: chunks bufferSize (data.drop bufferSize)
termination_by data.length
decreasing_by
  have := bufferSize.pos
  have := List.length_pos_iff.mpr ‹data ≠ []›
  rw [List.length_drop]
  omega

/-- The packets of a transfer: numbered data packets and a final packet. -/
def transfer (sequenceNumber : UInt16) : List Bytes → List Packet
  | [] => [Packet.build t_END_OF_FILE.value sequenceNumber (ascii "xxx")]
  | chunk :: rest =>
      Packet.build t_DATA.value sequenceNumber chunk ::
        transfer (sequenceNumber + 1) rest

theorem transfer_eq_concat (sequenceNumber : UInt16) (pieces : List Bytes) :
    ∃ data last, transfer sequenceNumber pieces =
      data ++ [Packet.build t_END_OF_FILE.value last (ascii "xxx")] := by
  induction pieces generalizing sequenceNumber with
  | nil => exact ⟨[], sequenceNumber, rfl⟩
  | cons chunk pieces ih =>
      rcases ih (sequenceNumber + 1) with ⟨data, last, split⟩
      exact ⟨_ :: data, last, by rw [transfer, split, List.cons_append]⟩

theorem chunks_ne_nil {bufferSize : ℕ+} {data chunk : Bytes}
    (chunk_mem : chunk ∈ chunks bufferSize data) : chunk ≠ [] := by
  induction data using chunks.induct bufferSize with
  | case1 => simp [chunks] at chunk_mem
  | case2 data nonempty ih =>
      rw [chunks, if_neg nonempty] at chunk_mem
      rcases List.mem_cons.mp chunk_mem with rfl | later
      · have positive := bufferSize.pos
        simp [List.take_eq_nil_iff, nonempty]
      · exact ih later

theorem chunks_length_le {bufferSize : ℕ+} {data chunk : Bytes}
    (chunk_mem : chunk ∈ chunks bufferSize data) : chunk.length ≤ bufferSize := by
  induction data using chunks.induct bufferSize with
  | case1 => simp [chunks] at chunk_mem
  | case2 data nonempty ih =>
      rw [chunks, if_neg nonempty] at chunk_mem
      rcases List.mem_cons.mp chunk_mem with rfl | later
      · exact List.length_take_le _ _
      · exact ih later

theorem chunks_of_length_le {bufferSize : ℕ+} {data : Bytes} (nonempty : data ≠ [])
    (fits : data.length ≤ bufferSize) : chunks bufferSize data = [data] := by
  rw [chunks, if_neg nonempty, List.take_of_length_le fits, List.drop_eq_nil_of_le fits, chunks,
    if_pos rfl]

theorem chunks_flatten (bufferSize : ℕ+) (data : Bytes) :
    (chunks bufferSize data).flatten = data := by
  induction data using chunks.induct bufferSize with
  | case1 => simp [chunks]
  | case2 data nonempty ih =>
      rw [chunks, if_neg nonempty, List.flatten_cons, ih, List.take_append_drop]

/-- The loop sends the pieces of what is left of the file, and the final packet ends it. -/
theorem sendChunks_healthy {bufferSize : ℕ+} (small : bufferSize ≤ MAX_PACKET_SIZE)
    (fileData : Bytes) (offset : ℕ) (sequenceNumber : UInt16) (arrived : List Packet) :
    (sendChunks bufferSize fileData offset sequenceNumber >>=
        sendPacketXxx t_END_OF_FILE.value).on (.healthy arrived) =
      (.ok (), .healthy
        (arrived ++ transfer sequenceNumber (chunks bufferSize (fileData.drop offset)))) := by
  induction offset, sequenceNumber using sendChunks.induct bufferSize fileData
    generalizing arrived with
  | case1 offset sequenceNumber unfinished chunkSize ih =>
      have rest : fileData.drop offset ≠ [] := by simpa using unfinished
      have piece : (fileData.drop offset).take chunkSize =
          (fileData.drop offset).take bufferSize := by
        rw [List.take_eq_take_iff, List.length_drop]
        omega
      have skipped : (fileData.drop offset).drop bufferSize =
          fileData.drop (offset + chunkSize) := by
        rw [List.drop_drop]
        by_cases fits : (bufferSize : ℕ) ≤ fileData.length - offset
        · rw [show chunkSize = bufferSize from min_eq_left fits]
        · rw [List.drop_eq_nil_of_le (by omega), List.drop_eq_nil_of_le (by omega)]
      have nonempty : (fileData.drop offset).take chunkSize ≠ [] := by
        have positive := bufferSize.pos
        rw [piece]
        simp [List.take_eq_nil_iff, rest]
      have fits : ((fileData.drop offset).take chunkSize).length ≤ MAX_PACKET_SIZE := by
        have bound : (bufferSize : ℕ) ≤ MAX_PACKET_SIZE := small
        rw [List.length_take]
        omega
      rw [sendChunks, if_pos unfinished, bind_assoc, Send.on_bind,
        sendPacket_healthy nonempty fits]
      have unrolled : chunks bufferSize (fileData.drop offset) =
          (fileData.drop offset).take bufferSize ::
            chunks bufferSize (fileData.drop (offset + chunkSize)) := by
        rw [chunks, if_neg rest, skipped]
      simp only
      rw [ih, unrolled, transfer, piece, List.append_assoc, List.singleton_append]
  | case2 offset sequenceNumber finished =>
      have nothing : fileData.drop offset = [] := by simpa using finished
      rw [sendChunks, if_neg finished, pure_bind, sendPacketXxx_healthy, nothing, chunks,
        if_pos rfl, transfer]

/-- What `sendFileInChunks` sends for what it reads: a transfer, or nothing if it cannot read. -/
def body (bufferSize : ℕ+) : Option Bytes → List Packet
  | none => []
  | some content => transfer 0 (chunks bufferSize content)

/-- A file that can be read is sent as a transfer; otherwise nobody is told. -/
theorem sendFileInChunks_healthy {bufferSize : ℕ+} (small : bufferSize ≤ MAX_PACKET_SIZE)
    (filepath : Bytes) (disk : Directory) (arrived : List Packet) :
    (sendFileInChunks filepath bufferSize disk).on (.healthy arrived) =
      (.ok (), .healthy (arrived ++ body bufferSize (disk filepath))) := by
  rw [sendFileInChunks, Send.on_swallow]
  cases stored : disk filepath with
  | none =>
      rcases FileManager.readFile_of_none stored with ⟨exception, unreadable⟩
      rw [unreadable, body, List.append_nil]
      rfl
  | some content =>
      have read : FileManager.readFile disk filepath = .ok content := by
        simp [FileManager.readFile, stored]
      rw [read]
      exact congrArg (fun result => (Except.ok (), result.2))
        (sendChunks_healthy small content 0 0 arrived)

theorem announce_healthy {payload : Bytes} (nonempty : payload ≠ [])
    (fits : payload.length ≤ MAX_PACKET_SIZE) (type seqn : UInt16) (filepath : Bytes)
    (disk : Directory) (arrived : List Packet) :
    (do sendPacket type seqn payload
        sendFileInChunks filepath MAX_PACKET_SIZE disk).on (.healthy arrived) =
      (.ok (), .healthy (arrived ++
        Packet.build type seqn payload :: body MAX_PACKET_SIZE (disk filepath))) := by
  rw [Send.on_bind, sendPacket_healthy nonempty fits]
  simp only
  rw [sendFileInChunks_healthy le_rfl, List.append_assoc, List.singleton_append]

end NetworkManager

end SyncDir
