import SyncDir.Server.UploadCells

/-!
# Uploads

A client uploads a file by announcing it and sending it with `sendFileInChunks`;
the server takes it in with `buildFile`.  The two do not agree on the end of a
transfer: the sender closes it with a packet of type `t_END_OF_FILE` whose
payload is `xxx`, and the receiver waits for a packet with the payload
`END_OF_FILE`, whatever its type is.

The first part shows what `buildFile` does on every sequence of packets, and
that this is the part of the handling of a `t_WRITE` packet that
`Device.uploadStep` makes in the states `buildFile`.  The second part follows
from it: no transfer is ever received as it was sent.
-/

namespace SyncDir

namespace Device

open NetworkManager PacketType

/-! ### What `buildFile` does -/

section BuildFile

variable {file_name : Bytes} {disk : Directory}

/-- If `buildFile` ends, it has stopped at a packet with the payload `END_OF_FILE`. -/
theorem exists_closing_of_buildFile {packets rest : List Packet} {built : Directory}
    (finished : buildFile disk file_name packets = .finished built rest) :
    ∃ consumed closing, packets = consumed ++ closing :: rest ∧
      closing.content = ascii "END_OF_FILE" := by
  induction packets generalizing disk with
  | nil => simp [buildFile] at finished
  | cons pkt packets ih =>
      simp only [buildFile] at finished
      split at finished
      · rename_i closes
        rcases BuildResult.finished.inj finished with ⟨-, rfl⟩
        exact ⟨[], pkt, rfl, closes⟩
      · split at finished
        · simp at finished
        · rcases ih finished with ⟨consumed, closing, split, closes⟩
          exact ⟨pkt :: consumed, closing, by rw [split, List.cons_append], closes⟩

variable (proper : FileManager.isDirectory file_name = false) {content : Bytes}
  (stored : disk file_name = some content) {data : List Packet}
  (unclosed : ∀ pkt ∈ data, pkt.content ≠ ascii "END_OF_FILE")
include proper stored unclosed

/-- Packets that do not close the transfer are appended to the file. -/
theorem buildFile_append (packets : List Packet) :
    buildFile disk file_name (data ++ packets) =
      buildFile (Function.update disk file_name
        (some (content ++ (data.map Packet.content).flatten))) file_name packets := by
  induction data generalizing disk content with
  | nil => simp [← stored]
  | cons pkt data ih =>
      have appended := FileManager.writeFile_of_proper proper disk pkt.content
      rw [stored, Option.getD_some] at appended
      rw [List.cons_append, buildFile, if_neg (unclosed pkt List.mem_cons_self), appended]
      simp only
      rw [ih (Function.update_self ..) fun later later_mem =>
        unclosed later (List.mem_cons_of_mem _ later_mem)]
      simp [List.append_assoc]

theorem buildFile_closed {closing : Packet} (closes : closing.content = ascii "END_OF_FILE")
    (rest : List Packet) :
    buildFile disk file_name (data ++ closing :: rest) =
      .finished (Function.update disk file_name
        (some (content ++ (data.map Packet.content).flatten))) rest := by
  rw [buildFile_append proper stored unclosed, buildFile, if_pos closes]

theorem buildFile_unclosed :
    buildFile disk file_name data =
      .waiting (Function.update disk file_name
        (some (content ++ (data.map Packet.content).flatten))) := by
  have appended := buildFile_append proper stored unclosed []
  rwa [List.append_nil] at appended

end BuildFile

/-- The steps of an upload in `buildFile` write what `buildFile` writes. -/
theorem buildFile_eq_iterate {differs : Bytes → Bytes → Bool} {create : CopyCreation}
    {refusal : Option Exception} {file_name content : Bytes}
    (proper : FileManager.isDirectory file_name = false)
    (yields : create.Yields file_name refusal) {chunks : List Bytes} {disk : Directory}
    (stored : disk (copyName file_name) = some content) {data : List Packet}
    (unclosed : ∀ pkt ∈ data, pkt.content ≠ ascii "END_OF_FILE") {closing : Packet}
    (closes : closing.content = ascii "END_OF_FILE") (rest : List Packet) :
    buildFile disk (copyName file_name) (data ++ closing :: rest) =
      .finished ((Function.uncurry (uploadStep differs create file_name chunks))^[data.length]
        (.buildFile (data.map Packet.content), disk)).2 rest := by
  have cells : cellsOf disk file_name = { file := disk file_name, copy := some content } := by
    rw [cellsOf, stored]
  have steps := uploadStep_iterate differs chunks proper yields disk data.length
    (.buildFile (data.map Packet.content)) (cellsOf disk file_name)
  have appended := cellStep_iterate_buildFile differs chunks refusal (data.map Packet.content) []
    (disk file_name) content
  rw [List.length_map, List.append_nil] at appended
  rw [writeTo_cellsOf, cells, appended] at steps
  rw [buildFile_closed (FileManager.isDirectory_copyName file_name) stored unclosed closes, steps,
    Cells.writeTo, Function.update_eq_self]

/-! ### Transfers of `sendFileInChunks` -/

theorem packets_sendFileInChunks {disk : Directory} {file_name content : Bytes}
    (stored : disk file_name = some content) :
    (sendFileInChunks file_name MAX_PACKET_SIZE disk).packets =
      transfer 0 (chunks MAX_PACKET_SIZE content) := by
  rw [Send.packets, sendFileInChunks_healthy le_rfl, stored]
  rfl

/-- No transfer is received as it was sent: for no content and no continuation of the
connection does `buildFile` end with the content in the copy and the continuation unread. -/
theorem buildFile_sendFileInChunks (sync_dir disk : Directory) (file_name copy_name content : Bytes)
    (rest : List Packet) :
    buildFile (Function.update disk copy_name (some [])) copy_name
        ((sendFileInChunks file_name MAX_PACKET_SIZE
          (Function.update sync_dir file_name (some content))).packets ++ rest) ≠
      .finished (Function.update disk copy_name (some content)) rest := by
  intro finished
  rcases exists_closing_of_buildFile finished with ⟨consumed, closing, split, closes⟩
  rw [packets_sendFileInChunks (Function.update_self ..)] at split
  rcases transfer_eq_concat 0 (chunks MAX_PACKET_SIZE content) with ⟨data, last, transferred⟩
  rw [transferred, List.append_cons consumed] at split
  obtain rfl : Packet.build t_END_OF_FILE.value last (ascii "xxx") = closing := by
    simpa using (List.append_inj' (List.append_cancel_right split) rfl).2
  rw [Packet.build_content (by decide)] at closes
  exact absurd closes (by decide)

/-- After `hi` has been uploaded, the server still waits, with the closing packet in the copy. -/
theorem buildFile_hi :
    buildFile (Function.update (fun _ => none) (copyName (ascii "f")) (some []))
        (copyName (ascii "f"))
        ((sendFileInChunks (ascii "f") MAX_PACKET_SIZE
          (Function.update (fun _ => none) (ascii "f") (some (ascii "hi")))).packets ++ []) =
      .waiting (Function.update (fun _ => none) (copyName (ascii "f")) (some (ascii "hixxx"))) ∧
    buildFile (Function.update (fun _ => none) (copyName (ascii "f")) (some []))
        (copyName (ascii "f"))
        ((sendFileInChunks (ascii "f") MAX_PACKET_SIZE
          (Function.update (fun _ => none) (ascii "f") (some (ascii "hi")))).packets ++ []) ≠
      .finished (Function.update (fun _ => none) (copyName (ascii "f")) (some (ascii "hi")))
        [] := by
  rw [packets_sendFileInChunks (Function.update_self ..),
    chunks_of_length_le (by decide) (by decide), List.append_nil,
    buildFile_unclosed (FileManager.isDirectory_copyName _) (Function.update_self ..) (by decide),
    Function.update_idem]
  exact ⟨rfl, by simp⟩

end Device

end SyncDir
