import SyncDir.Utils.NetworkManager

/-!
# The command line of the client

The IO thread reads one line after the other.  Three commands take the name of a
file, which consists of letters, digits, `_`, `/` and `.`; `download` and
`list_server` talk to the server over the command connection, and the rest only
concerns the client itself.

The thread is a machine that is fed with a line or with a packet, depending on
where it waits.  It has no handler for exceptions, so an exception terminates
the process.  What is printed on the console is left out.
-/

namespace SyncDir

namespace Client

open FileManager NetworkManager PacketType

/-! ### Commands -/

/-- `[a-zA-Z0-9_/\.]` -/
def isNameByte (byte : UInt8) : Bool :=
  97 ≤ byte && byte ≤ 122 || 65 ≤ byte && byte ≤ 90 || isDigit byte ||
    byte == 95 || byte == 47 || byte == 46

/-- `regex_match` of a line with a keyword and a name, which is the group of the expression. -/
def matchName (keyword cmdline : Bytes) : Option Bytes :=
  if keyword.isPrefixOf cmdline then
    let name := cmdline.drop keyword.length
    if name ≠ [] ∧ name.all isNameByte then some name else none
  else none

def upl : Bytes → Option Bytes :=
  matchName (ascii "upload ")

def dow : Bytes → Option Bytes :=
  matchName (ascii "download ")

def del : Bytes → Option Bytes :=
  matchName (ascii "delete ")

/-- A line of the standard input, and what its command meets in the file system. -/
structure Line where
  cmdline : Bytes
  /-- The regular file that an `upload` finds at its path. -/
  copied : Option Bytes
  /-- Whether the file that a `download` names can be created: not if it lies in a directory that
  does not exist, or is one itself, as `sync_dir` is. -/
  creatable : Bool

def filename (path : Bytes) : Bytes :=
  (path.reverse.takeWhile (· ≠ 47)).reverse

/-! ### The thread -/

/-- Where the IO thread waits. -/
inductive IoMode
  | getline
  /-- For the answer to a `t_DOWNLOAD` packet. -/
  | response (file_name : Bytes) (creatable : Bool)
  | receivingFile (file_name : Bytes)
  | receivingList
  /-- After `exit` or the end of the input. -/
  | finished
  | terminated (exception : Exception)
  deriving DecidableEq

structure IoThread where
  curr_directory : Directory
  sync_dir : Directory
  mode : IoMode

/-- `fs::copy` into `sync_dir`, whose exceptions are caught. -/
def IoThread.upload (thread : IoThread) (file_path : Bytes) (copied : Option Bytes) : IoThread :=
  match copied with
  | none => thread
  | some content =>
      if isDirectory (filename file_path) then thread
      else { thread with
        sync_dir := Function.update thread.sync_dir (filename file_path) (some content) }

/-- The handling of a line up to the next line or packet. -/
def handleLine (thread : IoThread) (line : Line) : Send IoThread :=
  match upl line.cmdline with
  | some file_path => return thread.upload file_path line.copied
  | none =>
  match dow line.cmdline with
  | some file_name => do
      sendPacket t_DOWNLOAD.value 1 file_name
      return { thread with mode := .response file_name line.creatable }
  | none =>
  match del line.cmdline with
  | some file_name =>
      if isFileExists thread.sync_dir file_name then do
        let sync_dir ← (deleteFile thread.sync_dir file_name : Except Exception Directory)
        return { thread with sync_dir }
      else
        return thread
  | none =>
      if line.cmdline = ascii "list_server" then do
        sendPacketXxx t_LIST.value 1
        return { thread with mode := .receivingList }
      else if line.cmdline = ascii "exit" then
        return { thread with mode := .finished }
      else
        return thread

/-- `createFile` in the directory in which the client runs. -/
def IoThread.create (thread : IoThread) (file_name : Bytes) (creatable : Bool) :
    Except Exception Directory :=
  if creatable then createFile thread.curr_directory file_name
  else .error (.runtime_error "Falha ao criar arquivo: ")

/-- What the thread does with a packet that it has waited for. -/
def handleIoPacket (thread : IoThread) (pkt_received : Packet) : IoThread :=
  match thread.mode with
  | .response file_name creatable =>
      if pkt_received.type = t_FILE_NOT_FOUND.value then
        { thread with mode := .getline }
      else
        -- Every other answer is taken for `t_FILE_FOUND`.
        match thread.create file_name creatable with
        | .error exception => { thread with mode := .terminated exception }
        | .ok curr_directory => { thread with curr_directory, mode := .receivingFile file_name }
  | .receivingFile file_name =>
      if pkt_received.type = t_END_OF_FILE.value then
        { thread with mode := .getline }
      else
        match writeFile thread.curr_directory file_name pkt_received.content with
        | .error exception => { thread with mode := .terminated exception }
        | .ok curr_directory => { thread with curr_directory }
  | .receivingList =>
      if pkt_received.type = t_END_OF_FILE.value then { thread with mode := .getline } else thread
  | _ => thread

/-! ### Names in commands -/

/-- A name that a command can have as its argument and that fits into a packet. -/
def IsRequested (bytes : Bytes) : Prop :=
  bytes ≠ [] ∧ bytes.all isNameByte ∧ bytes.length ≤ MAX_PACKET_SIZE

instance (bytes : Bytes) : Decidable (IsRequested bytes) :=
  inferInstanceAs (Decidable (_ ∧ _))

structure RequestedName where
  bytes : Bytes
  valid : IsRequested bytes

namespace RequestedName

variable (name : RequestedName)

theorem ne_nil : name.bytes ≠ [] :=
  name.valid.1

theorem isNameByte_of_mem {byte : UInt8} (byte_mem : byte ∈ name.bytes) : isNameByte byte = true :=
  List.all_eq_true.mp name.valid.2.1 byte byte_mem

theorem length_le : name.bytes.length ≤ MAX_PACKET_SIZE :=
  name.valid.2.2

theorem matchName_append (keyword : Bytes) :
    matchName keyword (keyword ++ name.bytes) = some name.bytes := by
  have isPrefix : keyword.isPrefixOf (keyword ++ name.bytes) = true := by simp
  have matched : name.bytes ≠ [] ∧ name.bytes.all isNameByte := ⟨name.ne_nil, name.valid.2.1⟩
  rw [matchName, if_pos isPrefix, List.drop_left, if_pos matched]

theorem not_isSpace_of_isNameByte {byte : UInt8} (isName : isNameByte byte = true) :
    isSpace byte = false ∧ byte ≠ 0 := by
  simp only [isNameByte, isDigit, Bool.or_eq_true, Bool.and_eq_true, decide_eq_true_eq,
    beq_iff_eq, UInt8.le_iff_toNat_le, ← UInt8.toNat_inj] at isName
  simp only [isSpace, Bool.or_eq_false_iff, Bool.and_eq_false_iff, decide_eq_false_iff_not,
    beq_eq_false_iff_ne, ne_eq, UInt8.le_iff_toNat_le, ← UInt8.toNat_inj]
  simp only [UInt8.reduceToNat] at isName ⊢
  omega

@[simp]
theorem extractWord_cString_bytes : extractWord (cString name.bytes) = name.bytes := by
  have noNul : 0 ∉ name.bytes := by
    intro nul_mem
    exact (not_isSpace_of_isNameByte (name.isNameByte_of_mem nul_mem)).2 rfl
  rw [cString_of_notMem noNul, extractWord_eq_self]
  intro byte byte_mem
  exact (not_isSpace_of_isNameByte (name.isNameByte_of_mem byte_mem)).1

end RequestedName

/-- The name of a file that a `download` can create. -/
structure Argument extends RequestedName where
  proper : isDirectory bytes = false

def Argument.download (name : Argument) : Line :=
  { cmdline := ascii "download " ++ name.bytes, copied := none, creatable := true }

/-- A `download` sends the name and waits for the answer. -/
theorem handleLine_download (thread : IoThread) (name : Argument) (arrived : List Packet) :
    (handleLine thread name.download).on (.healthy arrived) =
      (.ok { thread with mode := .response name.bytes true },
        .healthy (arrived ++ [Packet.build t_DOWNLOAD.value 1 name.bytes])) := by
  have noUpload : upl name.download.cmdline = none := rfl
  have download : dow name.download.cmdline = some name.bytes := name.matchName_append _
  rw [handleLine, noUpload, download, Send.on_bind,
    sendPacket_healthy name.ne_nil name.length_le]
  rfl

end Client

end SyncDir
