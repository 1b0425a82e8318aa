import SyncDir.Library.FileTree
import SyncDir.Library.Resumption
import SyncDir.Utils.NetworkManager

/-!
# Threads and the operating system

A thread of the server is a resumption that performs system calls: it opens,
writes and removes files by their paths, and sends on connections.  The
functions of `FileManager` are such routines, with the paths that the source
concatenates and the exceptions that it throws when a call fails.

`SyncDir.Utils.FileManager` describes the same functions on the regular files
of one directory; here nothing is assumed about what a path leads to.
-/

namespace SyncDir

open NetworkManager PacketType

abbrev Node := FileTree.Node Bytes

/-- The connections on which the threads of a user's devices send. -/
inductive Channel
  /-- The `command_manager` of a device. -/
  | command (device : ℕ)
  /-- The `push_manager` of a device. -/
  | push (device : ℕ)
  /-- An entry of `backup_peers`. -/
  | backup (index : ℕ)
  deriving DecidableEq

inductive SystemCall
  | openFile (path : Bytes)
  /-- Open a path for writing, which creates or truncates a file. -/
  | create (path : Bytes)
  /-- Open a path for appending, and write the data. -/
  | append (path data : Bytes)
  | remove (path : Bytes)
  | rename (path new_path : Bytes)
  /-- Go through a directory, and format an entry for each of its regular files. -/
  | list (path : Bytes)
  | transmit (channel : Channel) (action : Send Unit)
  /-- `sendPushTo` for all other devices of the user, which may keep its thread waiting. -/
  | sendPushTo (type : UInt16) (command : Bytes)

/-- What a system call returns; `false` and `none` stand for a failure, and a `String` for the
exception that a sending function has thrown. -/
def SystemCall.Answer : SystemCall → Type
  | openFile _ => Option Node
  | create _ | append _ _ | remove _ | rename _ _ => Bool
  | list _ => Option Bytes
  | transmit _ _ => Except String Unit
  | sendPushTo _ _ => Unit

def SystemCall.paths : SystemCall → List Bytes
  | openFile path | create path | append path _ | remove path | list path => [path]
  | rename path new_path => [path, new_path]
  | transmit _ _ | sendPushTo _ _ => []

/-- A part of a thread, which may end with an exception. -/
abbrev Routine := ExceptT Exception (Resumption SystemCall SystemCall.Answer)

namespace Routine

def call (systemCall : SystemCall) : Routine systemCall.Answer :=
  ExceptT.lift (Resumption.call systemCall)

/-- `std::string` operations that throw for a null pointer. -/
def orThrow {Result : Type} (result : Except Exception Result) : Routine Result :=
  ExceptT.mk (Resumption.done result)

/-- A call whose failure raises a `runtime_error`. -/
def callOrThrow (systemCall : SystemCall) (succeeded : systemCall.Answer → Bool)
    (what : String) : Routine Unit := do
  let answer ← call systemCall
  if succeeded answer then return () else throw (.runtime_error what)

/-! ### The file manager -/

/-- `base_directory + "/" + file_name` -/
def pathOf (base_directory file_name : Bytes) : Bytes :=
  base_directory ++ ascii "/" ++ file_name

def isFileExists (base_directory file_name : Bytes) : Routine Bool := do
  let file ← call (.openFile (pathOf base_directory file_name))
  return file.isSome

/-- What `readFile` makes of an open file: a directory can be opened but not read. -/
def contentOf : Option Node → Except Exception Bytes
  | none => .error (.runtime_error "Falha ao abrir o arquivo: ")
  | some .directory =>
      .error (.runtime_error "basic_filebuf::underflow error reading the file")
  | some (.file content) => .ok content

def readFile (base_directory file_name : Bytes) : Routine Bytes := do
  let file ← call (.openFile (pathOf base_directory file_name))
  orThrow (contentOf file)

def createFile (base_directory file_name : Bytes) : Routine Unit :=
  callOrThrow (.create (pathOf base_directory file_name)) id "Falha ao criar arquivo: "

def writeFile (base_directory file_name data : Bytes) : Routine Unit :=
  callOrThrow (.append (pathOf base_directory file_name) data) id "Falha ao abrir arquivo: "

def deleteFile (base_directory file_name : Bytes) : Routine Unit := do
  if ← isFileExists base_directory file_name then
    callOrThrow (.remove (pathOf base_directory file_name)) id "Falha ao deletar arquivo: "

/-- `renameFile` takes paths, not names. -/
def renameFile (file_name new_name : Bytes) : Routine Unit :=
  callOrThrow (.rename file_name new_name) id "filesystem error: cannot rename"

/-- What `hash_file_fnv1a` reads from an open file: nothing from a directory. -/
def hashOf : Option Node → Except Exception UInt64
  | none => .error (.runtime_error "Erro ao abrir o arquivo: ")
  | some .directory => .ok (FileManager.fnv1a [])
  | some (.file content) => .ok (FileManager.fnv1a content)

def hash_file_fnv1a (filename : Bytes) : Routine UInt64 := do
  let file ← call (.openFile filename)
  orThrow (hashOf file)

def checkFileHashchanged (file_name_original file_name_copy : Bytes) : Routine Bool := do
  let original ← hash_file_fnv1a file_name_original
  let copy ← hash_file_fnv1a file_name_copy
  return original != copy

def getFiles (base_directory : Bytes) : Routine Bytes := do
  match ← call (.list base_directory) with
  | none => throw (.runtime_error "filesystem error: directory iterator cannot open directory")
  | some result => return result

/-! ### Sending -/

def transmit (channel : Channel) (action : Send Unit) : Routine Unit := do
  match ← call (.transmit channel action) with
  | .ok () => return ()
  | .error what => throw (.runtime_error what)

/-- `sendFileInChunks` reads the file first and then only sends. -/
def sendFileInChunks (channel : Channel) (base_directory filepath : Bytes) : Routine Unit := do
  let file ← call (.openFile (pathOf base_directory filepath))
  transmit channel (NetworkManager.sendFileInChunks filepath MAX_PACKET_SIZE
    fun _ => (contentOf file).toOption)

/-! ### How a routine can end -/

section Ends

variable {Result Next : Type}

/-- The routine can end in this way, for some answers to its calls. -/
def Ends (routine : Routine Result) (result : Except Exception Result) : Prop :=
  Resumption.Ends routine.run result

@[simp]
theorem ends_pure_iff {value : Result} {result : Except Exception Result} :
    Ends (pure value : Routine Result) result ↔ result = .ok value :=
  Resumption.ends_done_iff

@[simp]
theorem ends_throw_iff {exception : Exception} {result : Except Exception Result} :
    Ends (throw exception : Routine Result) result ↔ result = .error exception :=
  Resumption.ends_done_iff

@[simp]
theorem ends_orThrow_iff {outcome result : Except Exception Result} :
    Ends (orThrow outcome) result ↔ result = outcome :=
  Resumption.ends_done_iff

@[simp]
theorem ends_call_iff {systemCall : SystemCall} {result : Except Exception systemCall.Answer} :
    Ends (call systemCall) result ↔ ∃ answer, result = .ok answer := by
  refine Resumption.ends_perform_iff.trans ?_
  exact exists_congr fun answer => Resumption.ends_done_iff

theorem ends_bind_iff {routine : Routine Result} {next : Result → Routine Next}
    {result : Except Exception Next} :
    Ends (routine >>= next) result ↔
      (∃ value, Ends routine (.ok value) ∧ Ends (next value) result) ∨
        ∃ exception, Ends routine (.error exception) ∧ result = .error exception := by
  refine Resumption.ends_bind_iff.trans ?_
  constructor
  · rintro ⟨exception | value, first, second⟩
    · exact Or.inr ⟨exception, first, Resumption.ends_done_iff.mp second⟩
    · exact Or.inl ⟨value, first, second⟩
  · rintro (⟨value, first, second⟩ | ⟨exception, first, rfl⟩)
    · exact ⟨.ok value, first, second⟩
    · exact ⟨.error exception, first, .done _⟩

/-- Every exception of the routine is a `runtime_error`. -/
def Recoverable (routine : Routine Result) : Prop :=
  ∀ exception, Ends routine (.error exception) → ∃ what, exception = .runtime_error what

theorem recoverable_pure (value : Result) : Recoverable (pure value : Routine Result) := by
  intro exception ends
  cases ends_pure_iff.mp ends

theorem recoverable_throw (what : String) :
    Recoverable (throw (.runtime_error what) : Routine Result) := by
  intro exception ends
  cases ends_throw_iff.mp ends
  exact ⟨what, rfl⟩

theorem recoverable_call (systemCall : SystemCall) : Recoverable (call systemCall) := by
  intro exception ends
  rcases ends_call_iff.mp ends with ⟨answer, ⟨⟩⟩

theorem Recoverable.bind {routine : Routine Result} {next : Result → Routine Next}
    (recoverable : Recoverable routine) (later : ∀ value, Recoverable (next value)) :
    Recoverable (routine >>= next) := by
  intro exception ends
  rcases ends_bind_iff.mp ends with ⟨value, _, second⟩ | ⟨raised, first, same⟩
  · exact later value exception second
  · cases same
    exact recoverable exception first

/-- A routine that returns a value, unless an exception that is caught prevents it. -/
structure Returns (routine : Routine Result) (value : Result) : Prop where
  possible : Ends routine (.ok value)
  only : ∀ result, Ends routine (.ok result) → result = value
  recoverable : Recoverable routine

theorem returns_pure (value : Result) : Returns (pure value) value where
  possible := ends_pure_iff.mpr rfl
  only _ ends := Except.ok.inj (ends_pure_iff.mp ends)
  recoverable := recoverable_pure value

theorem Returns.ends_iff {routine : Routine Result} {value result : Result}
    (returns : Returns routine value) : Ends routine (.ok result) ↔ result = value := by
  constructor
  · exact returns.only result
  · rintro rfl
    exact returns.possible

/-- What follows does not depend on what the first routine has found out. -/
theorem returns_bind {routine : Routine Result} {next : Result → Routine Next} {value : Next}
    (possible : ∃ middle, Ends routine (.ok middle)) (recoverable : Recoverable routine)
    (later : ∀ middle, Ends routine (.ok middle) → Returns (next middle) value) :
    Returns (routine >>= next) value where
  possible := by
    rcases possible with ⟨middle, ends⟩
    exact ends_bind_iff.mpr (Or.inl ⟨middle, ends, (later middle ends).possible⟩)
  only := by
    intro result ends
    rcases ends_bind_iff.mp ends with ⟨middle, first, second⟩ | ⟨exception, _, ⟨⟩⟩
    exact (later middle first).only result second
  recoverable := by
    intro exception ends
    rcases ends_bind_iff.mp ends with ⟨middle, first, second⟩ | ⟨raised, first, same⟩
    · exact (later middle first).recoverable exception second
    · cases same
      exact recoverable exception first

theorem Returns.andThen {routine : Routine Result} {next : Result → Routine Next}
    {middle : Result} {value : Next} (returns : Returns routine middle)
    (later : Returns (next middle) value) : Returns (routine >>= next) value := by
  apply returns_bind ⟨middle, returns.possible⟩ returns.recoverable
  intro other ends
  rw [returns.only other ends]
  exact later

end Ends

/-! ### What a routine performs -/

section Performs

variable {Result Next : Type} {allowed : SystemCall → Prop}

def Performs (allowed : SystemCall → Prop) (routine : Routine Result) : Prop :=
  Resumption.Performs allowed routine.run

@[simp]
theorem performs_pure (result : Result) : Performs allowed (pure result : Routine Result) :=
  trivial

@[simp]
theorem performs_throw (exception : Exception) :
    Performs allowed (throw exception : Routine Result) :=
  trivial

@[simp]
theorem performs_orThrow (result : Except Exception Result) :
    Performs allowed (orThrow result) :=
  trivial

@[simp]
theorem performs_call_iff {systemCall : SystemCall} :
    Performs allowed (call systemCall) ↔ allowed systemCall :=
  and_iff_left fun _ => trivial

@[simp]
theorem performs_bind_iff {routine : Routine Result} {next : Result → Routine Next} :
    Performs allowed (routine >>= next) ↔ Performs allowed routine ∧
      ∀ value, Ends routine (.ok value) → Performs allowed (next value) := by
  refine Resumption.performs_bind_iff.trans ?_
  apply and_congr_right'
  constructor
  · intro later value ends
    exact later (.ok value) ends
  · rintro later (exception | value) ends
    · trivial
    · exact later value ends

theorem Returns.performs_iff {routine : Routine Result} {next : Result → Routine Next}
    {middle : Result} (returns : Returns routine middle) :
    Performs allowed (routine >>= next) ↔
      Performs allowed routine ∧ Performs allowed (next middle) := by
  rw [performs_bind_iff]
  apply and_congr_right'
  simp only [returns.ends_iff, forall_eq]

end Performs

/-! ### The calls of the file manager -/

section FileManager

variable {Next : Type} {allowed : SystemCall → Prop} (base_directory file_name : Bytes)

@[simp]
theorem ends_isFileExists_iff {result : Except Exception Bool} :
    Ends (isFileExists base_directory file_name) result ↔ ∃ found, result = .ok found := by
  rw [isFileExists, ends_bind_iff]
  constructor
  · rintro (⟨file, _, ends⟩ | ⟨exception, ends, _⟩)
    · exact ⟨_, ends_pure_iff.mp ends⟩
    · rcases ends_call_iff.mp ends with ⟨answer, ⟨⟩⟩
  · rintro ⟨found, rfl⟩
    left
    cases found with
    | false => exact ⟨none, ends_call_iff.mpr ⟨none, rfl⟩, ends_pure_iff.mpr rfl⟩
    | true =>
        exact ⟨some .directory, ends_call_iff.mpr ⟨_, rfl⟩, ends_pure_iff.mpr rfl⟩

@[simp]
theorem performs_isFileExists_iff :
    Performs allowed (isFileExists base_directory file_name) ↔
      allowed (.openFile (pathOf base_directory file_name)) := by
  simp [isFileExists]

theorem performs_isFileExists_bind_iff {next : Bool → Routine Next} :
    Performs allowed (isFileExists base_directory file_name >>= next) ↔
      allowed (.openFile (pathOf base_directory file_name)) ∧
        Performs allowed (next false) ∧ Performs allowed (next true) := by
  simp [performs_bind_iff]

theorem returns_isFileExists_bind {next : Bool → Routine Next} {value : Next}
    (later : ∀ found, Returns (next found) value) :
    Returns (isFileExists base_directory file_name >>= next) value := by
  apply returns_bind
  · exact ⟨false, (ends_isFileExists_iff _ _).mpr ⟨_, rfl⟩⟩
  · intro exception ends
    rcases (ends_isFileExists_iff _ _).mp ends with ⟨found, ⟨⟩⟩
  · intro found _
    exact later found

theorem returns_callOrThrow (systemCall : SystemCall) {succeeded : systemCall.Answer → Bool}
    (answer : systemCall.Answer) (success : succeeded answer = true) (what : String) :
    Returns (callOrThrow systemCall succeeded what) () where
  possible := by
    refine ends_bind_iff.mpr (Or.inl ⟨answer, ends_call_iff.mpr ⟨answer, rfl⟩, ?_⟩)
    rw [if_pos success, ends_pure_iff]
  only _ _ := rfl
  recoverable := by
    apply (recoverable_call systemCall).bind
    intro answer
    split
    · exact recoverable_pure ()
    · exact recoverable_throw what

theorem performs_callOrThrow_iff {systemCall : SystemCall}
    {succeeded : systemCall.Answer → Bool} {what : String} :
    Performs allowed (callOrThrow systemCall succeeded what) ↔ allowed systemCall := by
  rw [callOrThrow, performs_bind_iff, performs_call_iff]
  apply and_iff_left
  intro answer _
  split <;> simp

theorem returns_createFile : Returns (createFile base_directory file_name) () :=
  returns_callOrThrow (.create _) true rfl _

@[simp]
theorem performs_createFile_iff :
    Performs allowed (createFile base_directory file_name) ↔
      allowed (.create (pathOf base_directory file_name)) :=
  performs_callOrThrow_iff

theorem returns_writeFile (data : Bytes) :
    Returns (writeFile base_directory file_name data) () :=
  returns_callOrThrow (.append _ _) true rfl _

@[simp]
theorem performs_writeFile_iff (data : Bytes) :
    Performs allowed (writeFile base_directory file_name data) ↔
      allowed (.append (pathOf base_directory file_name) data) :=
  performs_callOrThrow_iff

theorem returns_renameFile (new_name : Bytes) : Returns (renameFile file_name new_name) () :=
  returns_callOrThrow (.rename _ _) true rfl _

@[simp]
theorem performs_renameFile_iff (new_name : Bytes) :
    Performs allowed (renameFile file_name new_name) ↔ allowed (.rename file_name new_name) :=
  performs_callOrThrow_iff

theorem returns_deleteFile : Returns (deleteFile base_directory file_name) () := by
  apply returns_isFileExists_bind
  intro found
  cases found with
  | false => exact returns_pure ()
  | true => exact returns_callOrThrow (.remove _) true rfl _

@[simp]
theorem performs_deleteFile_iff :
    Performs allowed (deleteFile base_directory file_name) ↔
      allowed (.openFile (pathOf base_directory file_name)) ∧
        allowed (.remove (pathOf base_directory file_name)) := by
  have removes : Performs allowed (callOrThrow (.remove (pathOf base_directory file_name)) id
      "Falha ao deletar arquivo: ") ↔ allowed (.remove (pathOf base_directory file_name)) :=
    performs_callOrThrow_iff
  simp [deleteFile, removes]

theorem ends_hash_file_fnv1a (filename content : Bytes) :
    Ends (hash_file_fnv1a filename) (.ok (FileManager.fnv1a content)) :=
  ends_bind_iff.mpr (Or.inl ⟨some (.file content), ends_call_iff.mpr ⟨_, rfl⟩,
    ends_orThrow_iff.mpr rfl⟩)

theorem recoverable_hash_file_fnv1a (filename : Bytes) :
    Recoverable (hash_file_fnv1a filename) := by
  apply (recoverable_call _).bind
  intro file exception ends
  have thrown := ends_orThrow_iff.mp ends
  cases file with
  | none =>
      cases thrown
      exact ⟨_, rfl⟩
  | some node => cases node <;> cases thrown

@[simp]
theorem performs_hash_file_fnv1a_iff (filename : Bytes) :
    Performs allowed (hash_file_fnv1a filename) ↔ allowed (.openFile filename) := by
  simp [hash_file_fnv1a]

theorem ends_checkFileHashchanged (original copy : Bytes) (changed : Bool) :
    Ends (checkFileHashchanged original copy) (.ok changed) := by
  have hashes (content : Bytes) : Ends (checkFileHashchanged original copy)
      (.ok (FileManager.fnv1a [] != FileManager.fnv1a content)) :=
    ends_bind_iff.mpr (Or.inl ⟨_, ends_hash_file_fnv1a original [],
      ends_bind_iff.mpr (Or.inl ⟨_, ends_hash_file_fnv1a copy content,
        ends_pure_iff.mpr rfl⟩)⟩)
  cases changed with
  | false => simpa using hashes []
  | true =>
      have different : FileManager.fnv1a [] ≠ FileManager.fnv1a [0] := by
        rw [FileManager.fnv1a_eq_foldl, FileManager.fnv1a_eq_foldl]
        decide
      have ends := hashes [0]
      rw [bne_iff_ne.mpr different] at ends
      exact ends

theorem returns_checkFileHashchanged_bind {original copy : Bytes} {next : Bool → Routine Next}
    {value : Next} (later : ∀ changed, Returns (next changed) value) :
    Returns (checkFileHashchanged original copy >>= next) value := by
  apply returns_bind ⟨false, ends_checkFileHashchanged original copy false⟩
  · apply (recoverable_hash_file_fnv1a original).bind
    intro first
    apply (recoverable_hash_file_fnv1a copy).bind
    intro second
    exact recoverable_pure _
  · intro changed _
    exact later changed

@[simp]
theorem performs_checkFileHashchanged_iff (original copy : Bytes) :
    Performs allowed (checkFileHashchanged original copy) ↔
      allowed (.openFile original) ∧ allowed (.openFile copy) := by
  simp only [checkFileHashchanged, performs_bind_iff, performs_hash_file_fnv1a_iff, performs_pure,
    implies_true, and_true]
  apply and_congr_right'
  constructor
  · intro later
    exact later _ (ends_hash_file_fnv1a original [])
  · intro permitted _ _
    exact permitted

theorem performs_checkFileHashchanged_bind_iff {original copy : Bytes}
    {next : Bool → Routine Next} :
    Performs allowed (checkFileHashchanged original copy >>= next) ↔
      (allowed (.openFile original) ∧ allowed (.openFile copy)) ∧
        Performs allowed (next false) ∧ Performs allowed (next true) := by
  rw [performs_bind_iff, performs_checkFileHashchanged_iff]
  apply and_congr_right'
  constructor
  · intro later
    exact ⟨later false (ends_checkFileHashchanged original copy false),
      later true (ends_checkFileHashchanged original copy true)⟩
  · rintro ⟨unchanged, changed⟩ (_ | _) _
    · exact unchanged
    · exact changed

theorem returns_getFiles_bind {next : Bytes → Routine Next} {value : Next}
    (later : ∀ files, Returns (next files) value) :
    Returns (getFiles base_directory >>= next) value := by
  apply returns_bind
  · exact ⟨[], ends_bind_iff.mpr (Or.inl ⟨some [], ends_call_iff.mpr ⟨_, rfl⟩,
      ends_pure_iff.mpr rfl⟩)⟩
  · apply (recoverable_call _).bind
    intro answer
    cases answer with
    | none => exact recoverable_throw _
    | some files => exact recoverable_pure files
  · intro files _
    exact later files

@[simp]
theorem performs_getFiles_iff :
    Performs allowed (getFiles base_directory) ↔ allowed (.list base_directory) := by
  rw [getFiles, performs_bind_iff, performs_call_iff]
  apply and_iff_left
  intro answer _
  cases answer <;> simp

end FileManager

/-! ### The calls of the sending functions -/

section Sending

variable {allowed : SystemCall → Prop} (channel : Channel)

theorem returns_transmit (action : Send Unit) : Returns (transmit channel action) () where
  possible := ends_bind_iff.mpr (Or.inl ⟨.ok (), ends_call_iff.mpr ⟨_, rfl⟩, ends_pure_iff.mpr rfl⟩)
  only _ _ := rfl
  recoverable := by
    apply (recoverable_call _).bind
    intro answer
    cases answer with
    | error what => exact recoverable_throw what
    | ok => exact recoverable_pure ()

@[simp]
theorem performs_transmit_iff (action : Send Unit) :
    Performs allowed (transmit channel action) ↔ allowed (.transmit channel action) := by
  rw [transmit, performs_bind_iff, performs_call_iff]
  apply and_iff_left
  intro answer _
  cases answer <;> simp

theorem returns_sendFileInChunks (base_directory filepath : Bytes) :
    Returns (sendFileInChunks channel base_directory filepath) () := by
  apply returns_bind ⟨none, ends_call_iff.mpr ⟨_, rfl⟩⟩ (recoverable_call _)
  intro file _
  exact returns_transmit channel _

@[simp]
theorem performs_sendFileInChunks_iff (base_directory filepath : Bytes) :
    Performs allowed (sendFileInChunks channel base_directory filepath) ↔
      allowed (.openFile (pathOf base_directory filepath)) ∧
        ∀ file, allowed (.transmit channel (NetworkManager.sendFileInChunks filepath
          MAX_PACKET_SIZE fun _ => (contentOf file).toOption)) := by
  rw [sendFileInChunks, performs_bind_iff, performs_call_iff]
  apply and_congr_right'
  constructor
  · intro later file
    exact (performs_transmit_iff _ _).mp (later file (ends_call_iff.mpr ⟨file, rfl⟩))
  · intro permitted file _
    exact (performs_transmit_iff _ _).mpr (permitted file)

end Sending

end Routine

end SyncDir
