import SyncDir.Client.Client
import SyncDir.Library.BigEndian

/-!
# The read buffer of the file thread

`read` fills the buffer of `handleFileThread` with inotify records, each a
header of sixteen bytes in the byte order of the host, which is little-endian
here, and a name with NULs behind it, whose length is in the header.  The inner
loop moves through the buffer by these lengths.  A read past the end of the
buffer is undefined, and `none` here.

The buffer has 32768 bytes, so that the positions fit into an `int`.  The
`watcher_push_lock` is taken to be free when the loop asks for it.
-/

namespace SyncDir

namespace Client

open FileManager NetworkManager PacketType

/-! ### The inner loop -/

/-- The size of a `struct inotify_event` without the name. -/
def EVENT_SIZE : ℕ := 16

def hostValue (bytes : Bytes) : UInt32 :=
  UInt32.ofNat (BigEndian.decode bytes.reverse)

def readUInt32 (buffer : Bytes) (position : ℕ) : Option UInt32 :=
  if position + 4 ≤ buffer.length then some (hostValue ((buffer.drop position).take 4)) else none

/-- A `char *` is read up to a NUL. -/
def readCString (buffer : Bytes) (position : ℕ) : Option Bytes :=
  if 0 ∈ buffer.drop position then some (cString (buffer.drop position)) else none

/-- What the loop reads of an event: the mask and the name only if `len` is not zero. -/
structure EventRead where
  len : UInt32
  named : Option (UInt32 × Bytes)

def readEvent (buffer : Bytes) (i : ℕ) : Option EventRead := do
  let len ← readUInt32 buffer (i + 12)
  if 0 < len then
    let name ← readCString buffer (i + EVENT_SIZE)
    let mask ← readUInt32 buffer (i + 4)
    return { len, named := some (mask, name) }
  else
    return { len, named := none }

/-- The body of the inner loop, for an event that has been read. -/
def handleNamed (named : Option (UInt32 × Bytes)) (disk : Directory) : Send Unit :=
  match named with
  | none => pure ()
  | some (mask, name) =>
      if mask &&& IN_CLOSE_WRITE ≠ 0 then do
        sendPacket t_WRITE.value 1 name
        sendFileInChunks name MAX_PACKET_SIZE disk
      else if mask &&& IN_DELETE ≠ 0 then
        sendPacket t_DELETE.value 1 name
      else
        pure ()

/-- The inner loop, with the directory that it finds for each position.  The result is the last
position and the positions at which it has looked at an event. -/
def handleEvents (buffer : Bytes) (disk : ℕ → Directory) (i : ℕ) (visited : List ℕ) :
    Send (Option (ℕ × List ℕ)) :=
  if i < buffer.length then
    match readEvent buffer i with
    | none => return none
    | some event => do
        handleNamed event.named (disk i)
        handleEvents buffer disk (i + (EVENT_SIZE + event.len.toNat)) (visited ++ [i])
  else
    return some (i, visited)
termination_by buffer.length - i
decreasing_by
  have eventSize : EVENT_SIZE = 16 := rfl
  omega

/-! ### Records -/

def hostBytes (value : UInt32) : Bytes :=
  (BigEndian.encode 4 value.toNat).reverse

@[simp]
theorem hostBytes_length (value : UInt32) : (hostBytes value).length = 4 := by
  simp [hostBytes]

theorem hostValue_hostBytes (value : UInt32) : hostValue (hostBytes value) = value := by
  have fits : value.toNat < 256 ^ 4 := value.toNat_lt
  rw [hostValue, hostBytes, List.reverse_reverse, BigEndian.decode_encode_of_lt 4 fits,
    UInt32.ofNat_toNat]

/-- The name behind a header, and how many NULs follow it. -/
def nameField : Option (FileName × ℕ+) → Bytes
  | none => []
  | some (file_name, padding) => file_name.bytes ++ List.replicate padding 0

/-- A well-formed record, with the name if there is one. -/
structure InotifyRecord where
  wd : UInt32
  mask : UInt32
  cookie : UInt32
  name : Option (FileName × ℕ+)
  fits : (nameField name).length < 2 ^ 32

namespace InotifyRecord

def len (record : InotifyRecord) : UInt32 :=
  UInt32.ofNat (nameField record.name).length

def bytes (record : InotifyRecord) : Bytes :=
  hostBytes record.wd ++ hostBytes record.mask ++ hostBytes record.cookie ++
    hostBytes record.len ++ nameField record.name

def event (record : InotifyRecord) : InotifyEvent :=
  { mask := record.mask, name := record.name.map Prod.fst }

/-- The records of a buffer with the positions at which they start. -/
def located (start : ℕ) : List InotifyRecord → List (ℕ × InotifyRecord)
  | [] => []
  | record :: records => (start, record) :: located (start + record.bytes.length) records

/-- What a record is to be translated to. -/
def packets (record : InotifyRecord) (disk : Directory) : List Packet :=
  match record.name with
  | none => []
  | some (file_name, _) =>
      if record.mask &&& IN_CLOSE_WRITE ≠ 0 then
        Packet.build t_WRITE.value 1 file_name.bytes ::
          (sendFileInChunks file_name.bytes MAX_PACKET_SIZE disk).packets
      else if record.mask &&& IN_DELETE ≠ 0 then
        [Packet.build t_DELETE.value 1 file_name.bytes]
      else
        []

theorem toNat_len (record : InotifyRecord) :
    record.len.toNat = (nameField record.name).length := by
  have fits := record.fits
  rw [len, UInt32.toNat_ofNat']
  omega

theorem bytes_length (record : InotifyRecord) :
    record.bytes.length = EVENT_SIZE + record.len.toNat := by
  simp only [bytes, List.length_append, hostBytes_length, toNat_len, EVENT_SIZE]

end InotifyRecord

/-! ### Reading a record -/

theorem readUInt32_append {buffer : Bytes} {position : ℕ} (before rest : Bytes) {value : UInt32}
    (split : buffer = before ++ (hostBytes value ++ rest)) (here : before.length = position) :
    readUInt32 buffer position = some value := by
  subst split here
  have within : before.length + 4 ≤ (before ++ (hostBytes value ++ rest)).length := by
    simp only [List.length_append, hostBytes_length]
    omega
  have field : (hostBytes value ++ rest).take 4 = hostBytes value :=
    List.take_left' (hostBytes_length value)
  rw [readUInt32, if_pos within, List.drop_left, field, hostValue_hostBytes]

theorem readCString_append {buffer : Bytes} {position : ℕ} (before rest : Bytes)
    {file_name : FileName} {padding : ℕ+}
    (split : buffer = before ++ (nameField (some (file_name, padding)) ++ rest))
    (here : before.length = position) :
    readCString buffer position = some file_name.bytes := by
  subst split here
  rcases Nat.exists_eq_succ_of_ne_zero padding.pos.ne' with ⟨more, padded⟩
  have field : nameField (some (file_name, padding)) ++ rest =
      file_name.bytes ++ (0 :: (List.replicate more 0 ++ rest)) := by
    simp only [nameField, padded, List.replicate_succ, List.append_assoc, List.cons_append]
  have terminated : (0 : UInt8) ∈ file_name.bytes ++ (0 :: (List.replicate more 0 ++ rest)) :=
    List.mem_append_right _ List.mem_cons_self
  have read : cString (file_name.bytes ++ (0 :: (List.replicate more 0 ++ rest))) =
      file_name.bytes := by
    have whole := file_name.cString_bytes
    rw [cString] at whole ⊢
    rw [List.takeWhile_append_of_pos (List.takeWhile_eq_self_iff.mp whole)]
    simp
  rw [readCString, List.drop_left, field, if_pos terminated, read]

section

variable (before rest : Bytes) (record : InotifyRecord)

theorem readEvent_record :
    readEvent (before ++ (record.bytes ++ rest)) before.length =
      some { len := record.len,
             named := record.event.name.map fun file_name =>
               (record.event.mask, file_name.bytes) } := by
  have len : readUInt32 (before ++ (record.bytes ++ rest)) (before.length + 12) =
      some record.len := by
    refine readUInt32_append (before ++ hostBytes record.wd ++ hostBytes record.mask ++
      hostBytes record.cookie) (nameField record.name ++ rest) ?_ ?_
    · simp only [InotifyRecord.bytes, List.append_assoc]
    · simp only [List.length_append, hostBytes_length]
  have mask : readUInt32 (before ++ (record.bytes ++ rest)) (before.length + 4) =
      some record.mask := by
    refine readUInt32_append (before ++ hostBytes record.wd) (hostBytes record.cookie ++
      hostBytes record.len ++ nameField record.name ++ rest) ?_ ?_
    · simp only [InotifyRecord.bytes, List.append_assoc]
    · simp only [List.length_append, hostBytes_length]
  cases name : record.name with
  | none =>
      have unnamed : ¬0 < record.len := by
        simp [InotifyRecord.len, name, nameField]
      simp [readEvent, len, unnamed, InotifyRecord.event, name]
  | some named =>
      rcases named with ⟨file_name, padding⟩
      have positive : 0 < record.len := by
        have nonempty := file_name.length_pos
        rw [UInt32.lt_iff_toNat_lt, record.toNat_len, name, nameField, List.length_append]
        exact Nat.lt_of_lt_of_le nonempty (Nat.le_add_right _ _)
      have split : before ++ (record.bytes ++ rest) = before ++ hostBytes record.wd ++
          hostBytes record.mask ++ hostBytes record.cookie ++ hostBytes record.len ++
            (nameField (some (file_name, padding)) ++ rest) := by
        simp only [InotifyRecord.bytes, name, List.append_assoc]
      have read : readCString (before ++ (record.bytes ++ rest)) (before.length + EVENT_SIZE) =
          some file_name.bytes := by
        refine readCString_append _ rest split ?_
        simp only [List.length_append, hostBytes_length, EVENT_SIZE]
      simp [readEvent, len, positive, read, mask, InotifyRecord.event, name]

theorem handleNamed_event (event : InotifyEvent) (disk : Directory) :
    handleNamed (event.name.map fun file_name => (event.mask, file_name.bytes)) disk =
      handleEvent event disk := by
  cases named : event.name with
  | none => simp [handleNamed, handleEvent, named]
  | some file_name => simp [handleNamed, handleEvent, named]

/-- At the start of a record, the loop handles its event and goes on behind the record. -/
theorem handleEvents_record (disk : ℕ → Directory) (visited : List ℕ) :
    handleEvents (before ++ (record.bytes ++ rest)) disk before.length visited = (do
      handleEvent record.event (disk before.length)
      handleEvents (before ++ (record.bytes ++ rest)) disk (before ++ record.bytes).length
        (visited ++ [before.length])) := by
  have more : before.length < (before ++ (record.bytes ++ rest)).length := by
    have eventSize : EVENT_SIZE = 16 := rfl
    simp only [List.length_append, record.bytes_length]
    omega
  rw [handleEvents, if_pos more, readEvent_record]
  simp only
  rw [handleNamed_event, List.length_append, record.bytes_length]

end

/-! ### A whole buffer -/

/-- On whole records the loop is `handleFileThread` on their events. -/
theorem handleEvents_records (disk : ℕ → Directory) (before : Bytes)
    (records : List InotifyRecord) (visited : List ℕ) :
    handleEvents (before ++ records.flatMap InotifyRecord.bytes) disk before.length visited = (do
      handleFileThread ((InotifyRecord.located before.length records).map fun located =>
        (located.2.event, disk located.1))
      return some ((before ++ records.flatMap InotifyRecord.bytes).length,
        visited ++ (InotifyRecord.located before.length records).map Prod.fst)) := by
  induction records generalizing before visited with
  | nil =>
      rw [List.flatMap_nil, List.append_nil, handleEvents, if_neg (lt_irrefl _)]
      simp [InotifyRecord.located, handleFileThread, Send.each]
  | cons record records ih =>
      have later := ih (before ++ record.bytes) (visited ++ [before.length])
      rw [List.append_assoc, List.length_append] at later
      rw [List.flatMap_cons, handleEvents_record, List.length_append, later]
      simp [InotifyRecord.located, handleFileThread, Send.each]

theorem handleEvent_packets (record : InotifyRecord) (disk : Directory) (arrived : List Packet) :
    (handleEvent record.event disk).on (.healthy arrived) =
      (.ok (), .healthy (arrived ++ record.packets disk)) := by
  cases named : record.name with
  | none => simp [handleEvent, InotifyRecord.event, InotifyRecord.packets, named]
  | some field =>
      rcases field with ⟨file_name, padding⟩
      simp only [handleEvent, InotifyRecord.event, InotifyRecord.packets, named, Option.map_some]
      split_ifs
      · have sent : (sendFileInChunks file_name.bytes MAX_PACKET_SIZE disk).packets =
            body MAX_PACKET_SIZE (disk file_name.bytes) := by
          rw [Send.packets, sendFileInChunks_healthy le_rfl]
          rfl
        rw [sent]
        exact announce_healthy file_name.ne_nil file_name.length_le_packet _ _ _ _ _
      · exact sendPacket_healthy file_name.ne_nil file_name.length_le_packet _ _ _
      · simp

/-- The loop ends at the end of the buffer, has looked at every record at its start and nowhere
else, and has sent what the records are to be translated to, in their order. -/
theorem handleEvents_translates (records : List InotifyRecord) (disk : ℕ → Directory)
    (arrived : List Packet) :
    (handleEvents (records.flatMap InotifyRecord.bytes) disk 0 []).on (.healthy arrived) =
      (.ok (some ((records.flatMap InotifyRecord.bytes).length,
          (InotifyRecord.located 0 records).map Prod.fst)),
        .healthy (arrived ++ (InotifyRecord.located 0 records).flatMap fun located =>
          located.2.packets (disk located.1))) := by
  have events := handleEvents_records disk [] records []
  simp only [List.nil_append, List.length_nil] at events
  rw [events, Send.on_bind, handleFileThread, Send.each_map,
    Send.each_healthy (fun located => located.2.packets (disk located.1))
      fun located arrived => handleEvent_packets located.2 (disk located.1) arrived]
  rfl

end Client

end SyncDir
